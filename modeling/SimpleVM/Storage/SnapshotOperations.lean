import SimpleVM.Storage.SnapshotCopies

/-!
# What the operations of the snapshot store do

One theorem for each operation that succeeds: what it reads, what it leaves where it writes,
and that all that is apart from these places stays. A snapshot has a place of its own in the
directory of its machine, a directory for Windows and a file for Linux.
-/
namespace SimpleVM.Storage.SnapshotStore

open Domain Effects Files

section Names

theorem uuidString_length (id : UUID) : (uuidString id).length = 36 := by
  rw [← String.length_toList, uuidString_toList]
  simp [byteDigits, hexByte_toList]

theorem isName_raw (id : UUID) : IsName (uuidString id ++ ".raw") := by
  intro slash
  rw [String.toList_append, List.mem_append] at slash
  rcases slash with first | second
  · exact isName_uuidString id first
  · revert second
    decide

theorem raw_injective {a b : UUID} (same : uuidString a ++ ".raw" = uuidString b ++ ".raw") :
    a = b := by
  apply uuidString_injective
  have chars := congrArg String.toList same
  rw [String.toList_append, String.toList_append] at chars
  exact String.toList_inj.mp (List.append_cancel_right chars)

end Names

/-- Where `createFiles` puts the disk of a machine, today or before Windows machines had a
state directory. -/
def Placed (machine : Machine) : Prop :=
  match machine.spec.operatingSystem with
  | .linux => components machine.disk.relativePath = machinePath machine.id ++ ["disk.raw"]
  | .windows => components machine.disk.relativePath = machinePath machine.id ++ ["disk.raw"] ∨
      components machine.disk.relativePath =
        machinePath machine.id ++ ["State", "current", "disk.raw"]

/-- The disk is where `createFiles` and `cloneFiles` put it. -/
theorem placed_of_diskLocation {machine : Machine}
    (created : machine.disk.relativePath =
      (diskLocation machine.id machine.spec.operatingSystem).relativePath) : Placed machine := by
  have isName {name : String} (plain : '/' ∉ name.toList) : IsName name := plain
  have onMachine (rest : String) : components (Location.relativePath
      ⟨.machine machine.id, rest⟩) = machinePath machine.id ++ components rest := by
    have path : Location.relativePath ⟨.machine machine.id, rest⟩ =
        "Machines" ++ "/" ++ (uuidString machine.id ++ "/" ++ rest) := by
      simp [Location.relativePath, ManagedDirectory.relativePath, ← String.toList_inj,
        String.toList_append]
    rw [path, components_append (isName (by decide)), components_append (isName_uuidString _)]
    rfl
  unfold Placed
  cases system : machine.spec.operatingSystem with
  | linux =>
    simp only [created, system, diskLocation, stateDirectory, onMachine]
    rw [String.empty_append, components_of_name (isName (by decide))]
  | windows =>
    simp only [created, system, diskLocation, stateDirectory, onMachine]
    have path : "State/current/" ++ "disk.raw" =
        "State" ++ "/" ++ ("current" ++ "/" ++ "disk.raw") := by decide
    rw [path, components_append (isName (by decide)), components_append (isName (by decide)),
      components_of_name (isName (by decide))]
    exact .inr rfl

/-- The directory that holds the disk. -/
def stateDirectoryOf (machine : Machine) : Path :=
  (components machine.disk.relativePath).dropLast

/-- What a snapshot of the machine has to hold. -/
def current (t : FileTree) (machine : Machine) : MachineContents :=
  match machine.spec.operatingSystem with
  | .windows => stateContents t (stateDirectoryOf machine)
  | .linux => diskContents t (components machine.disk.relativePath)

/-- What a snapshot holds. -/
def frozen (t : FileTree) (snapshot : MachineSnapshot) : MachineContents :=
  match snapshot.stateDirectoryRelativePath with
  | some relativeStatePath => stateContents t (components relativeStatePath)
  | none => diskContents t (components snapshot.diskRelativePath)

/-- The directory or file of a snapshot. -/
def place (machine : Machine) (snapshotID : UUID) : Path :=
  match machine.spec.operatingSystem with
  | .windows => snapshotRoot machine.id snapshotID
  | .linux => snapshotDisk machine.id snapshotID

section Layout

variable {machine : Machine} {id id' : UUID}

theorem name_of_machinePath (id : UUID) : ∀ name ∈ machinePath id, IsName name := by
  intro name member
  simp only [machinePath, List.mem_cons, List.not_mem_nil, or_false] at member
  rcases member with rfl | rfl
  · unfold IsName
    decide
  · exact isName_uuidString id

theorem names_snapshotState (machineID snapshotID : UUID) :
    ∀ name ∈ snapshotState machineID snapshotID, IsName name := by
  intro name member
  simp only [snapshotState, snapshotRoot, snapshotsDirectory, List.mem_append, List.mem_cons,
    List.not_mem_nil, or_false] at member
  rcases member with ((onMachine | rfl) | rfl) | rfl
  · exact name_of_machinePath machineID name onMachine
  · unfold IsName
    decide
  · exact isName_uuidString snapshotID
  · unfold IsName
    decide

theorem components_snapshotState (machineID snapshotID : UUID) :
    components (relativePath (snapshotState machineID snapshotID)) =
      snapshotState machineID snapshotID :=
  components_relativePath (by simp [snapshotState]) (names_snapshotState machineID snapshotID)

theorem names_snapshotDisk (machineID snapshotID : UUID) :
    ∀ name ∈ snapshotDisk machineID snapshotID, IsName name := by
  intro name member
  simp only [snapshotDisk, snapshotsDirectory, List.mem_append, List.mem_cons,
    List.not_mem_nil, or_false] at member
  rcases member with (onMachine | rfl) | rfl
  · exact name_of_machinePath machineID name onMachine
  · unfold IsName
    decide
  · exact isName_raw snapshotID

theorem components_snapshotDisk (machineID snapshotID : UUID) :
    components (relativePath (snapshotDisk machineID snapshotID)) =
      snapshotDisk machineID snapshotID :=
  components_relativePath (by simp [snapshotDisk]) (names_snapshotDisk machineID snapshotID)

theorem isManagedPath_relativePath {path : Path} (nonempty : path ≠ [])
    (names : ∀ name ∈ path, IsName name) (proper : ∀ name ∈ path, name ≠ "" ∧ name ≠ "..") :
    isManagedPath (relativePath path) = true := by
  have parts := components_relativePath nonempty names
  unfold components at parts
  simp only [isManagedPath, Bool.and_eq_true, decide_eq_true_eq, Bool.not_eq_true']
  constructor
  · intro slash
    obtain ⟨rest, chars⟩ : ∃ rest, (relativePath path).toList = '/' :: rest := by
      cases chars : (relativePath path).toList with
      | nil => simp [chars] at slash
      | cons c rest =>
        rw [chars] at slash
        cases slash
        exact ⟨rest, rfl⟩
    -- The name before the first slash would be empty.
    rw [chars] at parts
    simp only [pathComponents, if_true, List.map_cons] at parts
    have first := proper "" (by rw [← parts]; exact List.mem_cons_self)
    exact first.1 rfl
  · rw [Bool.eq_false_iff]
    intro member
    rw [List.contains_iff_mem] at member
    have among : ".." ∈ path := by
      rw [← parts]
      exact List.mem_map.mpr ⟨_, member, rfl⟩
    exact (proper _ among).2 rfl

private theorem proper_of_length {name : String} (long : 2 < name.length) :
    name ≠ "" ∧ name ≠ ".." := by
  constructor
  · rintro rfl
    revert long
    decide
  · rintro rfl
    revert long
    decide

theorem isManagedPath_snapshotState (machineID snapshotID : UUID) :
    isManagedPath (relativePath (snapshotState machineID snapshotID)) = true := by
  refine isManagedPath_relativePath (by simp [snapshotState]) (names_snapshotState _ _)
    fun name member => ?_
  simp only [snapshotState, snapshotRoot, snapshotsDirectory, machinePath, List.mem_append,
    List.mem_cons, List.not_mem_nil, or_false] at member
  rcases member with (((rfl | rfl) | rfl) | rfl) | rfl
  · decide
  · exact proper_of_length (by rw [uuidString_length]; decide)
  · decide
  · exact proper_of_length (by rw [uuidString_length]; decide)
  · decide

theorem isManagedPath_snapshotDisk (machineID snapshotID : UUID) :
    isManagedPath (relativePath (snapshotDisk machineID snapshotID)) = true := by
  refine isManagedPath_relativePath (by simp [snapshotDisk]) (names_snapshotDisk _ _)
    fun name member => ?_
  simp only [snapshotDisk, snapshotsDirectory, machinePath, List.mem_append,
    List.mem_cons, List.not_mem_nil, or_false] at member
  rcases member with ((rfl | rfl) | rfl) | rfl
  · decide
  · exact proper_of_length (by rw [uuidString_length]; decide)
  · decide
  · refine proper_of_length ?_
    rw [String.length_append, uuidString_length]
    decide

theorem frozen_windows (windows : machine.spec.operatingSystem = .windows) (t : FileTree)
    (name : String) (snapshotID : UUID) :
    frozen t (snapshotOf machine name snapshotID) =
      stateContents t (snapshotState machine.id snapshotID) := by
  simp [frozen, snapshotOf, windows, components_snapshotState]

theorem frozen_linux (linux : machine.spec.operatingSystem = .linux) (t : FileTree)
    (name : String) (snapshotID : UUID) :
    frozen t (snapshotOf machine name snapshotID) =
      diskContents t (snapshotDisk machine.id snapshotID) := by
  simp [frozen, snapshotOf, linux, components_snapshotDisk]

/-- The name of a snapshot does not matter for its files. -/
theorem frozen_name (machine : Machine) (t : FileTree) (name name' : String) (snapshotID : UUID) :
    frozen t (snapshotOf machine name snapshotID) =
      frozen t (snapshotOf machine name' snapshotID) := by
  cases system : machine.spec.operatingSystem with
  | windows => rw [frozen_windows system, frozen_windows system]
  | linux => rw [frozen_linux system, frozen_linux system]

theorem place_eq (machine : Machine) (snapshotID : UUID) :
    ∃ name, place machine snapshotID = snapshotsDirectory machine.id ++ [name] := by
  unfold place
  split
  · exact ⟨_, rfl⟩
  · exact ⟨_, rfl⟩

theorem place_apart (differ : id ≠ id') : Apart (place machine id) (place machine id') := by
  unfold place
  split
  · exact (Apart.of_ne (fun same => differ (uuidString_injective same)) [] []).prepend _
  · exact (Apart.of_ne (fun same => differ (raw_injective same)) [] []).prepend _

theorem place_apart_metadata (machine : Machine) (snapshotID : UUID) :
    Apart (place machine snapshotID) (metadataPath machine.id) := by
  have lengths {name : String} (length : name.length = 36 ∨ name.length = 40) :
      name ≠ "snapshots.json" := by
    rintro rfl
    revert length
    decide
  unfold place
  split
  · exact (Apart.of_ne (lengths (.inl (uuidString_length _))) [] []).prepend _
  · refine (Apart.of_ne (lengths (.inr ?_)) [] []).prepend _
    rw [String.length_append, uuidString_length]
    rfl

/-- What `current` reads of a machine. -/
def currentFiles (machine : Machine) : List Path :=
  match machine.spec.operatingSystem with
  | .windows => stateSuffixes.map fun suffix => stateDirectoryOf machine ++ suffix
  | .linux => [components machine.disk.relativePath]

theorem currentFiles_below (placed : Placed machine) :
    ∀ q ∈ currentFiles machine, ∃ name rest, name ≠ "Snapshots" ∧
      q = machinePath machine.id ++ name :: rest := by
  have disk : "disk.raw" ≠ "Snapshots" := by decide
  have state : "State" ≠ "Snapshots" := by decide
  have qemu : "QEMU" ≠ "Snapshots" := by decide
  unfold currentFiles
  unfold Placed at placed
  split
  · rename_i windows
    simp only [windows] at placed
    intro q member
    obtain ⟨suffix, among, rfl⟩ := List.mem_map.mp member
    rcases placed with legacy | atomic
    · simp only [stateDirectoryOf, legacy, List.dropLast_concat]
      simp only [stateSuffixes, List.mem_cons, List.not_mem_nil, or_false] at among
      rcases among with rfl | rfl | rfl | rfl
      · exact ⟨_, _, disk, rfl⟩
      · exact ⟨_, _, qemu, rfl⟩
      · exact ⟨_, _, qemu, rfl⟩
      · exact ⟨_, _, qemu, rfl⟩
    · refine ⟨"State", "current" :: suffix, state, ?_⟩
      simp [stateDirectoryOf, atomic, machinePath]
  · rename_i linux
    simp only [linux] at placed
    intro q member
    rw [List.mem_singleton.mp member, placed]
    exact ⟨_, _, disk, rfl⟩

theorem currentFiles_apart (placed : Placed machine) {q : Path} (member : q ∈ currentFiles machine) :
    Apart q (snapshotsDirectory machine.id) := by
  obtain ⟨name, rest, differ, rfl⟩ := currentFiles_below placed q member
  exact (Apart.of_ne differ rest []).prepend _

theorem current_congr {t u : FileTree}
    (same : ∀ q ∈ currentFiles machine, u q = t q) : current u machine = current t machine := by
  unfold current
  unfold currentFiles at same
  split
  · rename_i windows
    simp only [windows, List.mem_map, forall_exists_index, and_imp, forall_apply_eq_imp_iff₂]
      at same
    exact stateContents_congr same
  · rename_i linux
    simp only [linux, List.mem_singleton, forall_eq] at same
    simp [diskContents, same]

theorem frozen_congr {t u : FileTree} (name : String) (snapshotID : UUID)
    (same : ∀ q, place machine snapshotID <+: q → u q = t q) :
    frozen u (snapshotOf machine name snapshotID) =
      frozen t (snapshotOf machine name snapshotID) := by
  unfold place at same
  cases system : machine.spec.operatingSystem with
  | windows =>
    simp only [system] at same
    rw [frozen_windows system, frozen_windows system]
    refine stateContents_congr fun suffix _ => same _ ?_
    simp [snapshotState, List.append_assoc, List.prefix_append]
  | linux =>
    simp only [system] at same
    rw [frozen_linux system, frozen_linux system]
    simp [diskContents, same _ (List.prefix_refl _)]

end Layout

variable {faults : SnapshotFaults} {t u : FileTree} {machine : Machine} {x : Unit}

/-- The path of something below a snapshot is not on the way to the snapshots. -/
theorem place_not_above (machine : Machine) (snapshotID : UUID) :
    ¬ place machine snapshotID <+: snapshotsDirectory machine.id := by
  obtain ⟨name, same⟩ := place_eq machine snapshotID
  rw [same]
  exact not_append_above (by simp)

theorem snapshotsDirectory_starts (machine : Machine) (snapshotID : UUID) :
    snapshotsDirectory machine.id <+: place machine snapshotID := by
  obtain ⟨name, same⟩ := place_eq machine snapshotID
  rw [same]
  exact List.prefix_append _ _

theorem stateFiles_apart (placed : Placed machine)
    (windows : machine.spec.operatingSystem = .windows) {suffix : Path}
    (among : suffix ∈ stateSuffixes) :
    Apart (stateDirectoryOf machine ++ suffix) (snapshotsDirectory machine.id) := by
  apply currentFiles_apart placed
  simp only [currentFiles, windows]
  exact List.mem_map.mpr ⟨suffix, among, rfl⟩

/-- The copies that `create` makes. -/
theorem copyFiles_lookup {snapshotID : UUID} (placed : Placed machine)
    (vacant : ∀ q, place machine snapshotID <+: q → t q = none)
    (run : copyFiles faults machine snapshotID (components machine.disk.relativePath) t =
      (.ok x, u)) (name : String) :
    frozen u (snapshotOf machine name snapshotID) = current t machine ∧
      ∀ q, Apart (place machine snapshotID) q → u q = t q := by
  unfold copyFiles at run
  unfold place at vacant ⊢
  cases system : machine.spec.operatingSystem with
  | windows =>
    simp only [system, copyState] at run vacant ⊢
    have body := Failing.ok_of_tryCatch (fun e w => by simp [Failing.succeeds_bind]) run
    have below : snapshotRoot machine.id snapshotID <+: snapshotState machine.id snapshotID :=
      List.prefix_append _ _
    have inside : snapshotsDirectory machine.id <+: snapshotState machine.id snapshotID :=
      (List.prefix_append _ _).trans below
    obtain ⟨copied, _, kept⟩ := cloneWindowsState_lookup
      (fun suffix among => (stateFiles_apart placed system among).below (List.prefix_refl _) inside)
      (fun q under => vacant q (below.trans under)) body
    refine ⟨?_, fun q apart => kept q (apart.below below (List.prefix_refl q))⟩
    rw [frozen_windows system, copied]
    simp [current, system, stateDirectoryOf]
  | linux =>
    simp only [system] at run vacant ⊢
    have disk : Apart (components machine.disk.relativePath) (snapshotDisk machine.id snapshotID) :=
      (currentFiles_apart placed (by simp [currentFiles, system])).below (List.prefix_refl _)
        (List.prefix_append _ _)
    obtain ⟨copied, _, kept⟩ := clone_lookup disk run
    refine ⟨?_, fun q apart => kept q apart.1 ?_⟩
    · rw [frozen_linux system]
      simp [current, system, diskContents, copied]
    · intro above
      exact apart.2 (above.trans (List.dropLast_prefix _))

theorem listed_congr {id : UUID} (same : u (metadataPath id) = t (metadataPath id)) :
    listed u id = listed t id := by
  unfold listed
  rw [same]

/-- Rewriting `snapshots.json`. -/
theorem save_lookup {snapshots : List MachineSnapshot} {id : UUID}
    (run : save faults snapshots id t = (.ok x, u)) :
    listed u id = some snapshots ∧
      ∀ q, q ≠ metadataPath id → ¬ q <+: snapshotsDirectory id → u q = t q := by
  rw [save_ok run]
  constructor
  · simp [listed]
  · intro q differ notOnTheWay
    rw [Tree.write_other differ, Tree.makeDirectory_other notOnTheWay]

theorem metadata_not_above (id : UUID) : ¬ metadataPath id <+: snapshotsDirectory id :=
  not_append_above (by simp)

/-- **`create`** freezes the current state at the place of the new snapshot and lists it. -/
theorem create_lookup {name : String} {snapshotID : UUID} {snapshot : MachineSnapshot}
    (placed : Placed machine) (vacant : ∀ q, place machine snapshotID <+: q → t q = none)
    (run : create faults machine name snapshotID t = (.ok snapshot, u)) :
    snapshot = snapshotOf machine name snapshotID ∧
      (∃ snapshots, listed t machine.id = some snapshots ∧
        listed u machine.id = some (snapshots ++ [snapshot])) ∧
      frozen u snapshot = current t machine ∧
      ∀ q, Apart (place machine snapshotID) q → Apart (metadataPath machine.id) q → u q = t q := by
  simp only [create, Failing.bind_eq_ok, Failing.pure_eq_ok] at run
  obtain ⟨source, _, resolved, _, made, created, _, copied, copying, snapshots, read, listing,
    _, saved, saving, same, sameTree⟩ := run
  obtain ⟨isSource, isTree⟩ := resolve_ok resolved
  subst isSource isTree same sameTree
  have isMade := createDirectory_ok created
  subst isMade
  obtain ⟨reading, isRead⟩ := list_ok listing
  subst isRead
  have onWay (q : Path) (apart : Apart (place machine snapshotID) q) :
      ¬ q <+: snapshotsDirectory machine.id := fun above =>
    apart.2 (above.trans (snapshotsDirectory_starts machine snapshotID))
  obtain ⟨froze, keptByCopies⟩ := copyFiles_lookup placed (fun q under => by
    rw [Tree.makeDirectory_other fun above =>
      place_not_above machine snapshotID (under.trans above)]
    exact vacant q under) copying name
  obtain ⟨lists, keptBySave⟩ := save_lookup saving
  have metadata := place_apart_metadata machine snapshotID
  refine ⟨rfl, ⟨snapshots, ?_, lists⟩, ?_, fun q apart fromMetadata => ?_⟩
  · rw [← reading]
    apply listed_congr
    rw [keptByCopies _ metadata, Tree.makeDirectory_other (metadata_not_above machine.id)]
  · have stays : frozen u (snapshotOf machine name snapshotID) =
        frozen read (snapshotOf machine name snapshotID) := by
      refine frozen_congr name snapshotID fun q under => keptBySave q ?_ ?_
      · rintro rfl
        exact metadata.1 under
      · exact fun above => place_not_above machine snapshotID (under.trans above)
    rw [stays, froze]
    refine current_congr fun q member => Tree.makeDirectory_other fun above => ?_
    exact (currentFiles_apart placed member).1 above
  · have differ : q ≠ metadataPath machine.id := by
      rintro rfl
      exact fromMetadata.1 (List.prefix_refl _)
    rw [keptBySave q differ (onWay q apart), keptByCopies q apart,
      Tree.makeDirectory_other (onWay q apart)]

/-- Something that is removed if it is there is not there afterwards. -/
theorem removeIfPresent_lookup {step : SnapshotStep} {p : Path} (closed : t.Closed)
    (run : removeIfPresent faults step p t = (.ok x, u)) :
    (∀ q, p <+: q → u q = none) ∧ ∀ q, ¬ p <+: q → u q = t q := by
  rcases removeIfPresent_ok run with ⟨rfl, _⟩ | ⟨rfl, absent⟩
  · exact ⟨fun q under => Tree.remove_below under, fun q outside => Tree.remove_other outside⟩
  · exact ⟨fun q under => closed.none_below absent under, fun _ _ => rfl⟩

/-- What `delete` removes of a snapshot is its place. -/
theorem removeFiles_eq (machine : Machine) (name : String) (snapshotID : UUID) :
    removeFiles faults (snapshotOf machine name snapshotID) =
      removeIfPresent faults .removeSnapshot (place machine snapshotID) := by
  unfold removeFiles place
  cases system : machine.spec.operatingSystem with
  | windows =>
    have state : (snapshotOf machine name snapshotID).stateDirectoryRelativePath =
        some (relativePath (snapshotState machine.id snapshotID)) := by
      simp [snapshotOf, system]
    rw [state]
    funext t
    simp only [resolve, isManagedPath_snapshotState, if_true]
    rw [Failing.bind_of_ok _ (Failing.pure_eq_ok.mpr ⟨rfl, rfl⟩), components_snapshotState,
      snapshotState, List.dropLast_concat]
  | linux =>
    have state : (snapshotOf machine name snapshotID).stateDirectoryRelativePath = none := by
      simp [snapshotOf, system]
    have file : (snapshotOf machine name snapshotID).diskRelativePath =
        relativePath (snapshotDisk machine.id snapshotID) := by
      simp [snapshotOf, system]
    rw [state, file]
    funext t
    simp only [resolve, isManagedPath_snapshotDisk, if_true]
    rw [Failing.bind_of_ok _ (Failing.pure_eq_ok.mpr ⟨rfl, rfl⟩), components_snapshotDisk]

theorem removeFiles_lookup {name : String} {snapshotID : UUID} (closed : t.Closed)
    (run : removeFiles faults (snapshotOf machine name snapshotID) t = (.ok x, u)) :
    (∀ q, place machine snapshotID <+: q → u q = none) ∧
      ∀ q, ¬ place machine snapshotID <+: q → u q = t q := by
  rw [removeFiles_eq] at run
  exact removeIfPresent_lookup closed run

/-- **`delete`** empties the place of the snapshot and drops it from the list. -/
theorem delete_lookup {name : String} {snapshotID : UUID} (closed : t.Closed)
    (run : delete faults (snapshotOf machine name snapshotID) machine.id t = (.ok x, u)) :
    (∃ snapshots, listed t machine.id = some snapshots ∧
        listed u machine.id = some (snapshots.filter fun other => other.id ≠ snapshotID)) ∧
      (∀ q, place machine snapshotID <+: q → u q = none) ∧
      ∀ q, Apart (place machine snapshotID) q → Apart (metadataPath machine.id) q → u q = t q := by
  simp only [delete, Failing.bind_eq_ok] at run
  obtain ⟨_, removed, removing, snapshots, read, listing, saving⟩ := run
  obtain ⟨reading, isRead⟩ := list_ok listing
  subst isRead
  obtain ⟨gone, kept⟩ := removeFiles_lookup closed removing
  obtain ⟨lists, keptBySave⟩ := save_lookup saving
  have metadata := place_apart_metadata machine snapshotID
  have isID : (snapshotOf machine name snapshotID).id = snapshotID := by
    unfold snapshotOf
    split <;> rfl
  rw [isID] at lists
  refine ⟨⟨snapshots, ?_, lists⟩, fun q under => ?_, fun q apart fromMetadata => ?_⟩
  · rw [← reading]
    exact (listed_congr (kept _ metadata.1)).symm
  · rw [keptBySave q ?_ fun above => place_not_above machine snapshotID (under.trans above)]
    · exact gone q under
    · rintro rfl
      exact metadata.1 under
  · have differ : q ≠ metadataPath machine.id := by
      rintro rfl
      exact fromMetadata.1 (List.prefix_refl _)
    have notOnTheWay : ¬ q <+: snapshotsDirectory machine.id := fun above =>
      apart.2 (above.trans (snapshotsDirectory_starts machine snapshotID))
    rw [keptBySave q differ notOnTheWay, kept q apart.1]

theorem swapItems_ok {first second : Path}
    (run : swapItems faults first second t = (.ok x, u)) :
    (t first).isSome ∧ (t second).isSome ∧ u = t.swap first second := by
  simp only [swapItems, Failing.bind_eq_ok, Failing.getState_eq_ok] at run
  obtain ⟨tree, other, ⟨isTree, isOther⟩, run⟩ := run
  rw [isTree, isOther] at run
  split at run
  · simp [Failing.bind_eq_ok] at run
  · rename_i possible
    simp only [Bool.or_eq_true, not_or, Option.isNone_iff_eq_none, ← Option.isSome_iff_ne_none]
      at possible
    exact ⟨possible.1, possible.2, (attempt_eq_ok.mp run).2⟩

/-- A restore touches the directory of its machine, except for the snapshots. -/
structure OnlyCurrent (machine : Machine) (t u : FileTree) : Prop where
  others : ∀ q, Apart (machinePath machine.id) q → u q = t q
  snapshots : ∀ q, snapshotsDirectory machine.id <+: q → u q = t q

theorem OnlyCurrent.of_kept (first second : String) (a b : Path)
    (firstElsewhere : first ≠ "Snapshots") (secondElsewhere : second ≠ "Snapshots")
    (kept : ∀ q, Apart (machinePath machine.id ++ first :: a) q →
      Apart (machinePath machine.id ++ second :: b) q → u q = t q) : OnlyCurrent machine t u := by
  constructor
  · intro q apart
    exact kept q (apart.below (List.prefix_append _ _) (List.prefix_refl q))
      (apart.below (List.prefix_append _ _) (List.prefix_refl q))
  · intro q under
    exact kept q
      (((Apart.of_ne firstElsewhere a []).prepend _).below (List.prefix_refl _) under)
      (((Apart.of_ne secondElsewhere b []).prepend _).below (List.prefix_refl _) under)

/-- The body of `restoreWindowsState`: the state is cloned beside the current one, changes
places with it and leaves the old one to be removed. -/
theorem installState_lookup {source currentState staged : Path} (closed : t.Closed)
    (sources : ∀ suffix ∈ stateSuffixes, Apart (source ++ suffix) staged)
    (apart : Apart currentState staged) (vacant : ∀ q, staged <+: q → t q = none)
    (run : installState faults source currentState staged t = (.ok x, u)) :
    stateContents u currentState = stateContents t source ∧
      (t (source ++ ["disk.raw"])).isSome ∧
      (∀ q, Apart currentState q → Apart staged q → u q = t q) ∧ u.Closed := by
  unfold installState at run
  have body := Failing.ok_of_tryCatch (fun e w => by
    by_cases there : (w staged).isSome <;> simp [Failing.succeeds_bind, there]) run
  simp only [Failing.bind_eq_ok] at body
  obtain ⟨_, cloned, cloning, _, swapped, swapping, removing⟩ := body
  obtain ⟨copied, present, kept⟩ := cloneWindowsState_lookup sources vacant cloning
  obtain ⟨first, second, isSwapped⟩ := swapItems_ok swapping
  have isRemoved := removeItem_ok removing
  subst isSwapped isRemoved
  have clonedClosed := (KeepsClosed.cloneWindowsState source staged).of_run cloning closed
  refine ⟨?_, present, fun q outside beside => ?_, ?_⟩
  · rw [← copied]
    refine stateContents_congr fun suffix _ => ?_
    rw [Tree.remove_other apart.symm.not_below_append, Tree.swap_left]
  · rw [Tree.remove_other beside.1, Tree.swap_other outside.1 beside.1, kept q beside]
  · exact (clonedClosed.swap apart first second).remove staged

section StateDirectory

/-- The disk of a legacy machine is not in a state directory. -/
theorem stateDirectoryOf_current (windows : machine.spec.operatingSystem = .windows)
    (placed : Placed machine) (isCurrent : isCurrentState (stateDirectoryOf machine) = true) :
    stateDirectoryOf machine = machinePath machine.id ++ ["State", "current"] := by
  unfold Placed at placed
  unfold stateDirectoryOf at isCurrent ⊢
  simp only [windows] at placed
  rcases placed with legacy | atomic
  · rw [legacy, List.dropLast_concat] at isCurrent
    simp [isCurrentState, machinePath] at isCurrent
  · rw [atomic]
    simp [machinePath]

theorem stagedPath_current (machineID stagedID : UUID) :
    stagedPath (machinePath machineID ++ ["State", "current"]) stagedID =
      machinePath machineID ++ ["State", ".restore-" ++ uuidString stagedID] := by
  simp [stagedPath, machinePath]

theorem current_apart_staged (machineID stagedID : UUID) :
    Apart (machinePath machineID ++ ["State", "current"])
      (machinePath machineID ++ ["State", ".restore-" ++ uuidString stagedID]) := by
  have names : "current" ≠ ".restore-" ++ uuidString stagedID := by
    intro same
    have length := congrArg String.length same
    rw [String.length_append, uuidString_length] at length
    revert length
    decide
  exact ((Apart.of_ne names [] []).cons "State").prepend _

theorem snapshotState_apart_staged (machineID snapshotID stagedID : UUID) (suffix : Path) :
    Apart (snapshotState machineID snapshotID ++ suffix)
      (machinePath machineID ++ ["State", ".restore-" ++ uuidString stagedID]) := by
  have elsewhere : "Snapshots" ≠ "State" := by decide
  refine ((Apart.of_ne elsewhere [] _).prepend (machinePath machineID)).below ?_
    (List.prefix_refl _)
  simp [snapshotState, snapshotRoot, snapshotsDirectory, List.append_assoc]

end StateDirectory

/-- **`restore`** of a Windows snapshot. -/
theorem restore_windows_lookup {name : String} {snapshotID stagedID : UUID}
    (windows : machine.spec.operatingSystem = .windows) (placed : Placed machine)
    (closed : t.Closed)
    (run : restore faults (snapshotOf machine name snapshotID) machine stagedID t = (.ok x, u)) :
    current u machine = frozen t (snapshotOf machine name snapshotID) ∧
      (t (snapshotState machine.id snapshotID ++ ["disk.raw"])).isSome ∧
      OnlyCurrent machine t u ∧ u.Closed := by
  have state : (snapshotOf machine name snapshotID).stateDirectoryRelativePath =
      some (relativePath (snapshotState machine.id snapshotID)) := by
    simp [snapshotOf, windows]
  unfold restore at run
  rw [windows, state] at run
  simp only [Failing.bind_eq_ok] at run
  obtain ⟨source, _, resolved, run⟩ := run
  obtain ⟨isSource, isTree⟩ := resolve_ok resolved
  rw [isSource, isTree, components_snapshotState] at run
  simp only [restoreWindowsState, Failing.bind_eq_ok] at run
  obtain ⟨disk, _, resolved, run⟩ := run
  obtain ⟨isDisk, isTree⟩ := resolve_ok resolved
  rw [isDisk, isTree] at run
  split at run
  · simp [Failing.bind_eq_ok] at run
  · rename_i isCurrent
    simp only [Failing.bind_eq_ok] at run
    obtain ⟨_, emptied, emptying, installing⟩ := run
    have atomic := stateDirectoryOf_current windows placed (by
      simpa [stateDirectoryOf] using isCurrent)
    have directory : (components machine.disk.relativePath).dropLast =
        machinePath machine.id ++ ["State", "current"] := atomic
    have staged := stagedPath_current machine.id stagedID
    rw [directory, staged] at emptying installing
    obtain ⟨vacant, kept⟩ := removeIfPresent_lookup closed emptying
    have emptiedClosed : emptied.Closed :=
      (KeepsClosed.removeIfPresent .removeOldStaged _).of_run emptying closed
    have elsewhere : "Snapshots" ≠ "State" := by decide
    have source := snapshotState_apart_staged machine.id snapshotID stagedID
    have apart := current_apart_staged machine.id stagedID
    obtain ⟨installed, present, stays, installedClosed⟩ := installState_lookup emptiedClosed
      (fun suffix _ => source suffix) apart vacant installing
    refine ⟨?_, ?_, ?_, installedClosed⟩
    · rw [frozen_windows windows]
      simp only [current, windows, atomic]
      rw [installed]
      refine stateContents_congr fun suffix _ => kept _ (source suffix).symm.1
    · rwa [kept _ (source ["disk.raw"]).symm.1] at present
    · refine OnlyCurrent.of_kept "State" "State" ["current"]
        [".restore-" ++ uuidString stagedID] elsewhere.symm elsewhere.symm
        fun q first second => ?_
      rw [stays q first second, kept q second.1]

/-- **`restore`** of a Linux snapshot. -/
theorem restore_linux_lookup {name : String} {snapshotID stagedID : UUID}
    (linux : machine.spec.operatingSystem = .linux) (placed : Placed machine)
    (closed : t.Closed)
    (run : restore faults (snapshotOf machine name snapshotID) machine stagedID t = (.ok x, u)) :
    current u machine = frozen t (snapshotOf machine name snapshotID) ∧
      (t (snapshotDisk machine.id snapshotID)).isSome ∧
      OnlyCurrent machine t u ∧ u.Closed := by
  have file : (snapshotOf machine name snapshotID).diskRelativePath =
      relativePath (snapshotDisk machine.id snapshotID) := by
    simp [snapshotOf, linux]
  have onMachine : components machine.disk.relativePath =
      machinePath machine.id ++ ["disk.raw"] := by
    simpa only [Placed, linux] using placed
  have replacement : replacementPath (machinePath machine.id ++ ["disk.raw"]) =
      machinePath machine.id ++ ["disk.raw" ++ ".restore"] := by
    simp [replacementPath]
  unfold restore at run
  rw [linux] at run
  simp only [restoreLegacyDisk, Failing.bind_eq_ok] at run
  obtain ⟨source, _, resolved, disk, _, resolvedDisk, _, emptied, emptying, _, cloned, cloning,
    replacing⟩ := run
  obtain ⟨isSource, isTree⟩ := resolve_ok resolved
  rw [isTree] at resolvedDisk
  obtain ⟨isDisk, isTree⟩ := resolve_ok resolvedDisk
  rw [isTree, isDisk, onMachine, replacement] at emptying
  rw [isDisk, onMachine, replacement, isSource, file, components_snapshotDisk] at cloning
  rw [isDisk, onMachine, replacement] at replacing
  have isReplaced := (attempt_eq_ok.mp replacing).2
  have elsewhere : "Snapshots" ≠ "disk.raw" ++ ".restore" := by decide
  have source : Apart (snapshotDisk machine.id snapshotID)
      (machinePath machine.id ++ ["disk.raw" ++ ".restore"]) :=
    ((Apart.of_ne elsewhere [] []).prepend (machinePath machine.id)).below
      (List.prefix_append _ _) (List.prefix_refl _)
  obtain ⟨vacant, kept⟩ := removeIfPresent_lookup closed emptying
  obtain ⟨copied, present, stays⟩ := clone_lookup source cloning
  have emptiedClosed : emptied.Closed :=
    (KeepsClosed.removeIfPresent .removeOldReplacement _).of_run emptying closed
  have clonedClosed : cloned.Closed :=
    (KeepsClosed.clone "disk.raw" _ _).of_run cloning emptiedClosed
  have isSame : emptied (snapshotDisk machine.id snapshotID) =
      t (snapshotDisk machine.id snapshotID) := kept _ source.symm.1
  refine ⟨?_, by rwa [isSame] at present, ?_, ?_⟩
  · rw [frozen_linux linux]
    simp only [current, linux, diskContents, onMachine, isReplaced]
    have moved := Tree.replace_below cloned (machinePath machine.id ++ ["disk.raw"])
      (machinePath machine.id ++ ["disk.raw" ++ ".restore"]) []
    rw [List.append_nil, List.append_nil] at moved
    rw [moved, copied, isSame]
  · refine OnlyCurrent.of_kept "disk.raw" ("disk.raw" ++ ".restore") [] [] (by decide)
      elsewhere.symm fun q first second => ?_
    rw [isReplaced, Tree.replace_other first.1 second.1]
    rw [stays q second.1 fun above => second.2 (above.trans (List.dropLast_prefix _)),
      kept q second.1]
  · rw [isReplaced]
    refine clonedClosed.replace ?_ ?_
    · rw [List.dropLast_concat]
      refine clonedClosed _ _ (List.prefix_append (machinePath machine.id)
        ["disk.raw" ++ ".restore"]) ?_
      rw [copied]
      exact present
    · rw [List.dropLast_concat]
      exact not_append_above (by simp)

end SimpleVM.Storage.SnapshotStore
