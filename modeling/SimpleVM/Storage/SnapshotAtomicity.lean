import SimpleVM.Storage.SnapshotFailures
import SimpleVM.Storage.SnapshotFidelity

/-!
# Failed calls of the snapshot store

What a call that throws should leave behind, and the calls that do: `restore` always, `create`
when it fails before its copies are complete, for nothing removes them afterwards, and `delete`
when nothing of a listed snapshot is gone, for it removes the files before it rewrites the list.
-/
namespace SimpleVM.Storage

open Domain Effects Files SnapshotStore

/-- The directory or file that holds the snapshot. -/
def MachineSnapshot.files (snapshot : MachineSnapshot) : Path :=
  match snapshot.stateDirectoryRelativePath with
  | some relativeStatePath => (components relativeStatePath).dropLast
  | none => components snapshot.diskRelativePath

namespace SnapshotStore

def perform (machines : PlacedMachines) (faults : SnapshotFaults) : SnapshotEvent → SnapshotM Unit
  | .create id name snapshotID => do
    let _ ← create faults (machines.machine id) name snapshotID
  | .restore id snapshot stagedID => restore faults snapshot (machines.machine id) stagedID
  | .delete id snapshot => delete faults snapshot id
  | .guestWrites id file bytes =>
    Failing.change fun t => guestWrites t (file.path (machines.machine id)) bytes

/-- `snapshots.json` of the machine contains the snapshot. -/
def Lists (t : FileTree) (machineID : UUID) (snapshot : MachineSnapshot) : Prop :=
  ∃ snapshots, listed t machineID = some snapshots ∧ snapshot ∈ snapshots

/-- An entry of the snapshots directory that belongs to no listed snapshot. -/
def IsOrphan (t : FileTree) (machineID : UUID) (entry : String) : Prop :=
  entry ≠ "snapshots.json" ∧ (t (snapshotsDirectory machineID ++ [entry])).isSome ∧
    ∀ snapshot, Lists t machineID snapshot →
      snapshot.files ≠ snapshotsDirectory machineID ++ [entry]

/-- The listed snapshots are such as `create` makes. -/
structure StoreState (machines : PlacedMachines) (t : FileTree) : Prop where
  closed : t.Closed
  issued : ∀ id snapshot, Lists t id snapshot →
    ∃ name, snapshot = snapshotOf (machines.machine id) name snapshot.id

/-- What a failed call should leave: listed snapshots keep their files, there are no files that
are not listed, and the current state of a machine is the old one or that of the snapshot. -/
structure Atomic (machines : PlacedMachines) (event : SnapshotEvent) (t u : FileTree) : Prop where
  complete : ∀ id snapshot, Lists u id snapshot → ∀ q, snapshot.files <+: q → u q = t q
  noOrphans : ∀ id entry, IsOrphan u id entry → IsOrphan t id entry
  current : ∀ id, current u (machines.machine id) = current t (machines.machine id) ∨
    ∃ snapshot stagedID, event = .restore id snapshot stagedID ∧
      current u (machines.machine id) = frozen t snapshot

/-- No step of `create` fails before its copies are complete. -/
structure CopiesFiles (faults : SnapshotFaults) (t : FileTree) (machine : Machine) : Prop where
  managed : isManagedPath machine.disk.relativePath = true
  clear : ClearWay t (snapshotsDirectory machine.id)
  directory : faults .createSnapshotsDirectory = none
  copies : match machine.spec.operatingSystem with
    | .windows => CopiesState faults t (stateDirectoryOf machine)
    | .linux => (t (components machine.disk.relativePath)).isSome ∧ Clones faults "disk.raw"

/-- The removal takes this path away, even if it fails. -/
def Takes (faults : SnapshotFaults) (q : Path) : Prop :=
  match faults .removeSnapshot with
  | none => True
  | some fault =>
    match fault.survivors with
    | none => False
    | some survivors => ∀ survivor ∈ survivors, ¬ q <+: survivor

/-- `delete` takes some file of a listed snapshot away. -/
def TakesListed (faults : SnapshotFaults) (t : FileTree) (machineID : UUID)
    (snapshot : MachineSnapshot) : Prop :=
  (∃ other, Lists t machineID other ∧ other.id = snapshot.id) ∧
    ∃ q, snapshot.files <+: q ∧ (t q).isSome ∧ Takes faults q

/-- When a call that throws is atomic. -/
def FailsClean (machines : PlacedMachines) (faults : SnapshotFaults) (t : FileTree) :
    SnapshotEvent → Prop
  | .create id _ _ => ¬ CopiesFiles faults t (machines.machine id)
  | .delete id snapshot => ¬ TakesListed faults t id snapshot
  | .restore .. | .guestWrites .. => True

end SnapshotStore

/-- The place of a new snapshot is vacant and its identifier is not in use. -/
def SnapshotEvent.IsNew (machines : PlacedMachines) (t : FileTree) : SnapshotEvent → Prop
  | .create id _ snapshotID =>
    (∀ q, place (machines.machine id) snapshotID <+: q → t q = none) ∧
      ∀ snapshot, Lists t id snapshot → snapshot.id ≠ snapshotID
  | .restore .. | .delete .. | .guestWrites .. => True

namespace SnapshotStore

variable {machines : PlacedMachines} {machine : Machine} {faults : SnapshotFaults}
  {t u : FileTree} {e : SnapshotError} {x : Unit}

@[simp] theorem files_snapshotOf (machine : Machine) (name : String) (snapshotID : UUID) :
    (snapshotOf machine name snapshotID).files = place machine snapshotID := by
  unfold MachineSnapshot.files place
  cases system : machine.spec.operatingSystem with
  | windows =>
    simp only [snapshotOf, system, components_snapshotState]
    exact List.dropLast_concat
  | linux => simp [snapshotOf, system, components_snapshotDisk]

theorem lists_congr {id : UUID} {snapshot : MachineSnapshot}
    (same : u (metadataPath id) = t (metadataPath id)) :
    Lists u id snapshot ↔ Lists t id snapshot := by
  rw [Lists, Lists, listed_congr same]

section Kept

theorem length_snapshotsDirectory (id : UUID) : (snapshotsDirectory id).length = 3 := rfl

/-- Entries of a snapshots directory are below all snapshots directories. -/
theorem entry_not_above (id other : UUID) (entry : String) {q : Path}
    (under : snapshotsDirectory id ++ [entry] <+: q) : ¬ q <+: snapshotsDirectory other := by
  intro above
  have bound := (under.trans above).length_le
  simp [length_snapshotsDirectory] at bound

/-- The current files are apart from the snapshots of all machines. -/
theorem currentFiles_apart_all (placed : Placed machine) {q : Path}
    (member : q ∈ currentFiles machine) (other : UUID) : Apart q (snapshotsDirectory other) := by
  by_cases same : machine.id = other
  · rw [← same]
    exact currentFiles_apart placed member
  · obtain ⟨name, rest, _, rfl⟩ := currentFiles_below placed q member
    exact (machinePath_apart same).append _ _

variable {event : SnapshotEvent}

/-- Only directories on the way to the snapshots may be new. -/
theorem Atomic.of_kept (store : StoreState machines t)
    (kept : ∀ q, (∀ id, ¬ q <+: snapshotsDirectory id) → u q = t q) :
    Atomic machines event t u := by
  have lists (id : UUID) (snapshot : MachineSnapshot) : Lists u id snapshot ↔ Lists t id snapshot :=
    lists_congr (kept _ fun other => entry_not_above id other _ (List.prefix_refl _))
  constructor
  · intro id snapshot member q under
    obtain ⟨name, isSnapshot⟩ := store.issued id snapshot ((lists id snapshot).mp member)
    rw [isSnapshot, files_snapshotOf] at under
    obtain ⟨entry, isPlace⟩ := place_eq (machines.machine id) snapshot.id
    rw [isPlace] at under
    exact kept q fun other => entry_not_above _ other entry under
  · rintro id entry ⟨proper, present, unlisted⟩
    rw [kept _ fun other => entry_not_above id other entry (List.prefix_refl _)] at present
    exact ⟨proper, present, fun snapshot member => unlisted snapshot ((lists id snapshot).mpr member)⟩
  · intro id
    apply Or.inl
    exact current_congr fun q member =>
      kept q fun other => (currentFiles_apart_all (machines.placed id) member other).1

end Kept

section Create

/-- Nothing but directories on the way to the snapshots is left of copies that fail. -/
theorem copyFiles_fails {snapshotID : UUID} {source : Path} (closed : t.Closed)
    (vacant : ∀ q, place machine snapshotID <+: q → t q = none)
    (cleanUp : faults .discardSnapshot = none)
    (run : copyFiles faults machine snapshotID source t = (.error e, u)) :
    ∀ q, ¬ q <+: snapshotsDirectory machine.id → u q = t q := by
  intro q outside
  unfold copyFiles at run
  unfold place at vacant
  cases system : machine.spec.operatingSystem with
  | windows =>
    simp only [system, copyState] at run vacant
    obtain ⟨_, w, failed, run⟩ := Failing.error_of_tryCatch run
    have cleaned : u = (removeItem faults .discardSnapshot
        (snapshotRoot machine.id snapshotID) w).2 := by
      rw [Failing.bind_of_ok _ (rfl : Failing.ignoring _ w = (.ok (), _))] at run
      cases run
      rfl
    have closedHere := (KeepsClosed.cloneWindowsState _ _).of_run failed closed
    have below : snapshotRoot machine.id snapshotID <+: snapshotState machine.id snapshotID :=
      List.prefix_append _ _
    have kept : ∀ q, Apart (snapshotRoot machine.id snapshotID) q → w q = t q :=
      (Leaves.cloneWindowsState _ fun q apart => apart.below below (List.prefix_refl q)).of_run
        failed
    by_cases under : snapshotRoot machine.id snapshotID <+: q
    · rw [vacant q under, cleaned, removeItem, cleanUp]
      split
      · rename_i absent
        exact closedHere.none_below (by simpa using absent) under
      · exact Tree.remove_below under
    · have notAbove : ¬ q <+: snapshotRoot machine.id snapshotID := by
        intro above
        rcases List.prefix_concat_iff.mp above with same | onTheWay
        · exact under (same ▸ List.prefix_refl _)
        · exact outside onTheWay
      rw [← kept q ⟨under, notAbove⟩, cleaned]
      exact (Leaves.removeItem .discardSnapshot fun _ here => here) w q under
  | linux =>
    simp only [system] at run vacant
    have way : (snapshotDisk machine.id snapshotID).dropLast = snapshotsDirectory machine.id :=
      List.dropLast_concat
    unfold clone at run
    rw [way] at run
    rcases Failing.bind_error run with failed | ⟨_, made, created, failed⟩
    · have leaves : Leaves (fun q => ¬ q <+: snapshotsDirectory machine.id)
          (createDirectory faults (.createCloneDirectory "disk.raw")
            (snapshotsDirectory machine.id)) :=
        Leaves.createDirectory _ fun _ here => here
      exact leaves.of_run failed q outside
    · rw [Failing.bind_of_ok _ (rfl : Failing.getState made = (.ok made, made))] at failed
      have unchanged : u = made := by
        split at failed
        · cases failed
          rfl
        · unfold attempt at failed
          cases fault : faults (.clone "disk.raw") with
          | none =>
            rw [fault] at failed
            cases failed
          | some fault' =>
            rw [fault] at failed
            cases failed
            rfl
      rw [unchanged, createDirectory_ok created, Tree.makeDirectory_other outside]

theorem copyFiles_succeeds {snapshotID : UUID} (placed : Placed machine)
    (vacant : ∀ q, place machine snapshotID <+: q → t q = none)
    (clear : ClearWay t (snapshotsDirectory machine.id)) :
    (copyFiles faults machine snapshotID (components machine.disk.relativePath)).Succeeds
        (t.makeDirectory (snapshotsDirectory machine.id)) ↔
      match machine.spec.operatingSystem with
      | .windows => CopiesState faults t (stateDirectoryOf machine)
      | .linux => (t (components machine.disk.relativePath)).isSome ∧ Clones faults "disk.raw" := by
  have stillClear : ClearWay (t.makeDirectory (snapshotsDirectory machine.id))
      (snapshotsDirectory machine.id) := by
    intro q above
    rw [isFile_makeDirectory]
    exact clear q above
  have stillVacant (q : Path) (under : place machine snapshotID <+: q) :
      t.makeDirectory (snapshotsDirectory machine.id) q = none := by
    rw [Tree.makeDirectory_other fun above =>
      place_not_above machine snapshotID (under.trans above)]
    exact vacant q under
  have sources (q : Path) (member : q ∈ currentFiles machine) :
      t.makeDirectory (snapshotsDirectory machine.id) q = t q :=
    Tree.makeDirectory_other (currentFiles_apart placed member).1
  unfold copyFiles
  unfold place at stillVacant
  cases system : machine.spec.operatingSystem with
  | windows =>
    simp only [system] at stillVacant ⊢
    have below : snapshotRoot machine.id snapshotID <+: snapshotState machine.id snapshotID :=
      List.prefix_append _ _
    have inside : snapshotsDirectory machine.id <+: snapshotState machine.id snapshotID :=
      (List.prefix_append _ _).trans below
    have way : ClearWay (t.makeDirectory (snapshotsDirectory machine.id))
        (snapshotState machine.id snapshotID) := by
      have root : (snapshotRoot machine.id snapshotID).dropLast = snapshotsDirectory machine.id :=
        List.dropLast_concat
      have state : (snapshotState machine.id snapshotID).dropLast =
          snapshotRoot machine.id snapshotID := List.dropLast_concat
      refine clearWay_of_none ?_ (stillVacant _ below)
      rw [state]
      refine clearWay_of_none ?_ (stillVacant _ (List.prefix_refl _))
      rwa [root]
    have suffixes (suffix : Path) (among : suffix ∈ stateSuffixes) :
        t.makeDirectory (snapshotsDirectory machine.id) (stateDirectoryOf machine ++ suffix) =
          t (stateDirectoryOf machine ++ suffix) := by
      apply sources
      simp only [currentFiles, system]
      exact List.mem_map.mpr ⟨suffix, among, rfl⟩
    rw [copyState, Failing.succeeds_tryCatch fun e w => by simp [Failing.succeeds_bind]]
    rw [show (components machine.disk.relativePath).dropLast = stateDirectoryOf machine from rfl]
    rw [cloneWindowsState_succeeds (fun suffix among =>
        (stateFiles_apart placed system among).below (List.prefix_refl _) inside) way
      fun q under => stillVacant q (below.trans under)]
    have disk := suffixes ["disk.raw"] (by simp [stateSuffixes])
    have files (name : String) (among : name ∈ stateFileNames) :
        ClonesState faults (t.makeDirectory (snapshotsDirectory machine.id))
          (stateDirectoryOf machine) name ↔ ClonesState faults t (stateDirectoryOf machine) name := by
      rw [ClonesState, ClonesState, suffixes]
      simpa [stateSuffixes, stateFileNames] using among
    constructor
    · rintro ⟨directory, copied, others⟩
      exact ⟨directory, disk ▸ copied, fun name among => (files name among).mp (others name among)⟩
    · rintro ⟨directory, copied, others⟩
      exact ⟨directory, disk.symm ▸ copied,
        fun name among => (files name among).mpr (others name among)⟩
  | linux =>
    simp only [system] at stillVacant ⊢
    have disk : Apart (components machine.disk.relativePath) (snapshotDisk machine.id snapshotID) :=
      (currentFiles_apart placed (by simp [currentFiles, system])).below (List.prefix_refl _)
        (List.prefix_append _ _)
    rw [clone_succeeds disk (by simpa [snapshotDisk] using stillClear)
      (stillVacant _ (List.prefix_refl _)), sources _ (by simp [currentFiles, system])]

/-- A list that is not rewritten stays, whatever else fails. -/
theorem save_fails {snapshots : List MachineSnapshot} {id : UUID}
    (run : save faults snapshots id t = (.error e, u)) :
    ∀ q, ¬ q <+: snapshotsDirectory id → u q = t q := by
  have creates : Leaves (fun q => ¬ q <+: snapshotsDirectory id)
      (createDirectory faults .createMetadataDirectory (snapshotsDirectory id)) :=
    Leaves.createDirectory _ fun _ here => here
  have fails : FailsIn (fun t u : FileTree => ∀ q, ¬ q <+: snapshotsDirectory id → u q = t q)
      (save faults snapshots id) := by
    refine FailsIn.bind Leaves.chain creates fun _ t e u failed => ?_
    unfold attempt at failed
    cases fault : faults .writeMetadata with
    | none =>
      rw [fault] at failed
      cases failed
    | some fault' =>
      rw [fault] at failed
      cases failed
      exact fun _ _ => rfl
  exact fails _ _ _ run

/-- The end of `create` and of `delete`. -/
theorem rewrite_fails {change : List MachineSnapshot → List MachineSnapshot} {id : UUID}
    {α : Type} {result : α}
    (run : (do
      let snapshots ← list faults id
      save faults (change snapshots) id
      pure result) t = (.error e, u)) :
    ∀ q, ¬ q <+: snapshotsDirectory id → u q = t q := by
  intro q outside
  rcases Failing.bind_error run with failed | ⟨snapshots, read, listing, failed⟩
  · exact (show Leaves (fun _ => True) (list faults id) from Leaves.list id).of_run failed q trivial
  · obtain ⟨_, isRead⟩ := list_ok listing
    rcases Failing.bind_error failed with unsaved | ⟨_, _, _, returned⟩
    · rw [save_fails unsaved q outside, isRead]
    · cases returned

theorem CopiesFiles.disk (copies : CopiesFiles faults t machine) :
    ((current t machine).disk).isSome := by
  have there := copies.copies
  unfold current
  cases system : machine.spec.operatingSystem with
  | windows =>
    simp only [system] at there ⊢
    exact there.disk.1
  | linux =>
    simp only [system] at there ⊢
    exact there.1

/-- A snapshot with a disk has a place. -/
theorem place_isSome (name : String) {snapshotID : UUID} (closed : u.Closed)
    (disk : ((frozen u (snapshotOf machine name snapshotID)).disk).isSome) :
    (u (place machine snapshotID)).isSome := by
  unfold place
  cases system : machine.spec.operatingSystem with
  | windows =>
    rw [frozen_windows system] at disk
    refine closed _ _ ?_ disk
    exact (List.prefix_append _ _).trans (List.prefix_append _ _)
  | linux =>
    rw [frozen_linux system] at disk
    exact disk

theorem create_fails {name : String} {snapshotID : UUID} (placed : Placed machine)
    (closed : t.Closed) (vacant : ∀ q, place machine snapshotID <+: q → t q = none)
    (cleanUp : faults .discardSnapshot = none)
    (run : create faults machine name snapshotID t = (.error e, u)) :
    (¬ CopiesFiles faults t machine ∧ ∀ q, ¬ q <+: snapshotsDirectory machine.id → u q = t q) ∨
      (CopiesFiles faults t machine ∧ (u (place machine snapshotID)).isSome ∧
        u (metadataPath machine.id) = t (metadataPath machine.id)) := by
  have made (q : Path) (outside : ¬ q <+: snapshotsDirectory machine.id) :
      t.makeDirectory (snapshotsDirectory machine.id) q = t q := Tree.makeDirectory_other outside
  have stillVacant (q : Path) (under : place machine snapshotID <+: q) :
      t.makeDirectory (snapshotsDirectory machine.id) q = none := by
    rw [made q fun above => place_not_above machine snapshotID (under.trans above)]
    exact vacant q under
  unfold create at run
  rcases Failing.bind_error run with unresolved | ⟨source, _, resolved, run⟩
  · apply Or.inl
    unfold resolve at unresolved
    split at unresolved
    · cases unresolved
    · rename_i unmanaged
      cases unresolved
      exact ⟨fun copies => unmanaged copies.managed, fun _ _ => rfl⟩
  have managed : isManagedPath machine.disk.relativePath = true := by
    unfold resolve at resolved
    split at resolved
    · assumption
    · cases resolved
  obtain ⟨isSource, isTree⟩ := resolve_ok resolved
  rw [isSource, isTree] at run
  rcases Failing.bind_error run with notCreated | ⟨_, _, created, run⟩
  · refine .inl ⟨fun copies => ?_, ?_⟩
    · obtain ⟨_, _, succeeds⟩ := createDirectory_succeeds.mpr ⟨copies.clear, copies.directory⟩
      rw [notCreated] at succeeds
      cases succeeds
    · have leaves : Leaves (fun q => ¬ q <+: snapshotsDirectory machine.id)
          (createDirectory faults .createSnapshotsDirectory (snapshotsDirectory machine.id)) :=
        Leaves.createDirectory _ fun _ here => here
      exact leaves.of_run notCreated
  obtain ⟨clear, directory⟩ := createDirectory_succeeds.mp ⟨_, _, created⟩
  rw [createDirectory_ok created] at run
  have copies : (copyFiles faults machine snapshotID (components machine.disk.relativePath)).Succeeds
      (t.makeDirectory (snapshotsDirectory machine.id)) ↔ CopiesFiles faults t machine := by
    rw [copyFiles_succeeds placed vacant clear]
    exact ⟨fun here => ⟨managed, clear, directory, here⟩, fun copies => copies.copies⟩
  rcases Failing.bind_error run with failed | ⟨_, copied, copying, run⟩
  · refine .inl ⟨fun complete => ?_, fun q outside => ?_⟩
    · obtain ⟨_, _, succeeds⟩ := copies.mpr complete
      rw [failed] at succeeds
      cases succeeds
    · rw [copyFiles_fails (closed.makeDirectory _) stillVacant cleanUp failed q outside,
        made q outside]
  · have complete := copies.mp ⟨_, _, copying⟩
    obtain ⟨froze, kept⟩ := copyFiles_lookup placed stillVacant copying name
    have isClosed := (KeepsClosed.copyFiles _ _ _).of_run copying (closed.makeDirectory _)
    have sources : current (t.makeDirectory (snapshotsDirectory machine.id)) machine =
        current t machine :=
      current_congr fun q member => made q (currentFiles_apart placed member).1
    refine .inr ⟨complete, ?_, ?_⟩
    · rw [rewrite_fails run _ (place_not_above machine snapshotID)]
      refine place_isSome name isClosed ?_
      rw [froze, sources]
      exact complete.disk
    · rw [rewrite_fails run _ (metadata_not_above machine.id),
        kept _ (place_apart_metadata machine snapshotID), made _ (metadata_not_above machine.id)]

/-- `create` leaves an unlisted snapshot exactly if its copies are complete. -/
theorem create_atomic_iff {id : UUID} {name : String} {snapshotID : UUID}
    (store : StoreState machines t) (isNew : (SnapshotEvent.create id name snapshotID).IsNew machines t)
    (cleanUp : faults .discardSnapshot = none)
    (run : create faults (machines.machine id) name snapshotID t = (.error e, u)) :
    Atomic machines (.create id name snapshotID) t u ↔
      ¬ CopiesFiles faults t (machines.machine id) := by
  obtain ⟨vacant, unused⟩ := isNew
  have own := machines.own id
  rcases create_fails (machines.placed id) store.closed vacant cleanUp run with
    ⟨early, kept⟩ | ⟨complete, present, unwritten⟩
  · refine ⟨fun _ => early, fun _ => Atomic.of_kept store fun q outside => ?_⟩
    exact kept q (outside _)
  · refine ⟨fun atomic => ?_, fun early => absurd complete early⟩
    obtain ⟨entry, isPlace⟩ := place_eq (machines.machine id) snapshotID
    rw [own] at isPlace unwritten
    have orphan : IsOrphan u id entry := by
      refine ⟨?_, by rwa [← isPlace], fun snapshot member same => ?_⟩
      · rintro rfl
        have apart := place_apart_metadata (machines.machine id) snapshotID
        rw [own, isPlace] at apart
        exact apart.1 (List.prefix_refl _)
      · have member := (lists_congr unwritten).mp member
        obtain ⟨name', isSnapshot⟩ := store.issued id snapshot member
        rw [isSnapshot, files_snapshotOf, ← isPlace] at same
        have apart : Apart (place (machines.machine id) snapshot.id)
            (place (machines.machine id) snapshotID) := place_apart (unused snapshot member)
        rw [same] at apart
        exact apart.1 (List.prefix_refl _)
    have before := (atomic.noOrphans id entry orphan).2.1
    rw [← isPlace, vacant _ (List.prefix_refl _)] at before
    cases before

end Create

section Delete

theorem removeIfPresent_takes {p : Path} (closed : t.Closed) {result : Except SnapshotError Unit}
    (run : removeIfPresent faults .removeSnapshot p t = (result, u)) :
    (∀ q, p <+: q → Takes faults q → u q = none) ∧ (∀ q, p <+: q → ¬ Takes faults q → u q = t q) ∧
      ∀ q, ¬ p <+: q → u q = t q := by
  unfold removeIfPresent at run
  rw [Failing.bind_of_ok _ (rfl : Failing.getState t = (.ok t, t))] at run
  split at run
  · rename_i present
    unfold removeItem at run
    rw [if_neg (by simpa [Option.isSome_iff_ne_none] using present)] at run
    unfold Takes
    cases fault : faults .removeSnapshot with
    | none =>
      rw [fault] at run
      cases run
      exact ⟨fun q under _ => Tree.remove_below under, fun q _ kept => absurd trivial kept,
        fun q outside => Tree.remove_other outside⟩
    | some fault' =>
      rw [fault] at run
      cases survivors : fault'.survivors with
      | none =>
        simp only [survivors] at run ⊢
        cases run
        exact ⟨fun q _ taken => taken.elim, fun _ _ _ => rfl, fun _ _ => rfl⟩
      | some left =>
        simp only [survivors] at run ⊢
        cases run
        exact ⟨fun q under taken => if_pos ⟨under, taken⟩,
          fun q _ kept => if_neg fun both => kept both.2,
          fun q outside => Tree.removePartly_other outside⟩
  · rename_i absent
    have gone : t p = none := by simpa using absent
    cases run
    exact ⟨fun q under _ => closed.none_below gone under, fun _ _ _ => rfl, fun _ _ => rfl⟩

/-- `delete` that fails: only files of the snapshot may be gone. -/
theorem delete_fails {name : String} {snapshotID id : UUID} (closed : t.Closed)
    (run : delete faults (snapshotOf machine name snapshotID) id t = (.error e, u)) :
    ∃ w : FileTree,
      (∀ q, place machine snapshotID <+: q → Takes faults q → w q = none) ∧
      (∀ q, place machine snapshotID <+: q → ¬ Takes faults q → w q = t q) ∧
      (∀ q, ¬ place machine snapshotID <+: q → w q = t q) ∧
      ∀ q, ¬ q <+: snapshotsDirectory id → u q = w q := by
  unfold delete at run
  rw [removeFiles_eq] at run
  rcases Failing.bind_error run with failed | ⟨_, removed, removing, run⟩
  · obtain ⟨taken, left, kept⟩ := removeIfPresent_takes closed failed
    exact ⟨u, taken, left, kept, fun _ _ => rfl⟩
  · obtain ⟨taken, left, kept⟩ := removeIfPresent_takes closed removing
    refine ⟨removed, taken, left, kept, fun q outside => ?_⟩
    rcases Failing.bind_error run with failed | ⟨_, read, listing, unsaved⟩
    · exact (show Leaves (fun _ => True) (list faults id) from Leaves.list id).of_run failed q trivial
    · rw [save_fails unsaved q outside, (list_ok listing).2]

/-- `delete` is atomic exactly if it takes nothing of a listed snapshot. -/
theorem delete_atomic_iff {id : UUID} {name : String} {snapshotID : UUID}
    (store : StoreState machines t)
    (run : delete faults (snapshotOf (machines.machine id) name snapshotID) id t = (.error e, u)) :
    Atomic machines (.delete id (snapshotOf (machines.machine id) name snapshotID)) t u ↔
      ¬ TakesListed faults t id (snapshotOf (machines.machine id) name snapshotID) := by
  obtain ⟨w, taken, left, kept, same⟩ := delete_fails store.closed run
  have own := machines.own id
  obtain ⟨entry, isPlace⟩ := place_eq (machines.machine id) snapshotID
  rw [own] at isPlace
  have isID : (snapshotOf (machines.machine id) name snapshotID).id = snapshotID := by simp
  -- Nothing at or below an entry of a snapshots directory is on the way to another.
  have entries (other : UUID) (name' : String) {q : Path}
      (under : snapshotsDirectory other ++ [name'] <+: q) : u q = w q :=
    same q (entry_not_above other id name' under)
  have metadata (other : UUID) : u (metadataPath other) = t (metadataPath other) := by
    rw [metadataPath, entries other _ (List.prefix_refl _)]
    refine kept _ ?_
    by_cases sameMachine : other = id
    · have apart := place_apart_metadata (machines.machine id) snapshotID
      rw [own, ← sameMachine, metadataPath] at apart
      rw [← sameMachine]
      exact apart.1
    · rw [isPlace]
      exact ((machinePath_apart fun equal => sameMachine equal.symm).append _ _).1
  constructor
  · rintro atomic ⟨⟨other, member, sameID⟩, q, under, present, takes⟩
    rw [files_snapshotOf] at under
    obtain ⟨name', isOther⟩ := store.issued id other member
    rw [isID] at sameID
    have stays := atomic.complete id other ((lists_congr (metadata id)).mpr member) q (by
      rw [isOther, files_snapshotOf, sameID]
      exact under)
    rw [isPlace] at under
    rw [entries id entry under, taken q (isPlace ▸ under) takes] at stays
    rw [← stays] at present
    cases present
  · intro clean
    by_cases used : ∃ other, Lists t id other ∧ other.id = snapshotID
    · -- The snapshot is listed, so none of its files is gone.
      have unchanged (q : Path) : w q = t q := by
        by_cases under : place (machines.machine id) snapshotID <+: q
        · by_cases takes : Takes faults q
          · rw [taken q under takes]
            cases present : t q with
            | none => rfl
            | some node =>
              refine absurd ⟨by rwa [isID], q, ?_, ?_, takes⟩ clean
              · rwa [files_snapshotOf]
              · rw [present]
                rfl
          · exact left q under takes
        · exact kept q under
      refine Atomic.of_kept store fun q outside => ?_
      rw [same q (outside id), unchanged]
    · have unlisted (other : MachineSnapshot) (member : Lists t id other) : snapshotID ≠ other.id :=
        fun equal => used ⟨other, member, equal.symm⟩
      refine ⟨fun other snapshot member q under => ?_, ?_, fun other => .inl ?_⟩
      · have member := (lists_congr (metadata other)).mp member
        obtain ⟨name', isSnapshot⟩ := store.issued other snapshot member
        rw [isSnapshot, files_snapshotOf] at under
        obtain ⟨entry', isOther⟩ := place_eq (machines.machine other) snapshot.id
        rw [machines.own other] at isOther
        rw [entries other entry' (isOther ▸ under)]
        refine kept q ?_
        by_cases sameMachine : other = id
        · subst sameMachine
          exact (place_apart (unlisted snapshot member)).not_below under
        · rw [isPlace]
          rw [isOther] at under
          have apart := machinePath_apart fun equal => sameMachine equal.symm
          exact ((apart.append _ _).append _ _).not_below under
      · rintro other entry' ⟨proper, present, orphaned⟩
        refine ⟨proper, ?_, fun snapshot member =>
          orphaned snapshot ((lists_congr (metadata other)).mpr member)⟩
        rw [entries other entry' (List.prefix_refl _)] at present
        by_cases under : place (machines.machine id) snapshotID <+:
            snapshotsDirectory other ++ [entry']
        · by_cases takes : Takes faults (snapshotsDirectory other ++ [entry'])
          · rw [taken _ under takes] at present
            cases present
          · rwa [left _ under takes] at present
        · rwa [kept _ under] at present
      · refine current_congr fun q member => ?_
        have apart := currentFiles_apart_all (machines.placed other) member id
        rw [same q apart.1]
        refine kept q ?_
        rw [isPlace]
        exact apart.symm.append_not_below

end Delete

section Restore

/-- What a restore has nothing to do with. -/
def Elsewhere (machine : Machine) (q : Path) : Prop :=
  snapshotsDirectory machine.id <+: q ∨ Apart (machinePath machine.id) q

theorem apart_of_elsewhere {first : String} (differ : first ≠ "Snapshots") (rest : Path) {q : Path}
    (here : Elsewhere machine q) : Apart (machinePath machine.id ++ first :: rest) q := by
  rcases here with snapshots | others
  · exact ((Apart.of_ne differ rest []).prepend _).below (List.prefix_refl _) snapshots
  · exact others.below (List.prefix_append _ _) (List.prefix_refl q)

theorem linux_disk (linux : machine.spec.operatingSystem = .linux) (placed : Placed machine) :
    components machine.disk.relativePath = machinePath machine.id ++ ["disk.raw"] := by
  simpa only [Placed, linux] using placed

theorem attempt_fails {step : SnapshotStep} {change : FileTree → FileTree}
    (run : attempt faults step change t = (.error e, u)) : u = t := by
  unfold attempt at run
  cases fault : faults step with
  | none =>
    rw [fault] at run
    cases run
  | some fault' =>
    rw [fault] at run
    cases run
    rfl

theorem resolve_fails {relativePath : String}
    (run : resolve relativePath t = (.error e, u)) : u = t := by
  unfold resolve at run
  split at run
  · cases run
  · cases run
    rfl

/-- The disk is replaced at the last step. -/
theorem restoreLegacyDisk_fails {snapshot : MachineSnapshot}
    (run : restoreLegacyDisk faults snapshot machine t = (.error e, u)) :
    ∀ q, Apart (replacementPath (components machine.disk.relativePath)) q → u q = t q := by
  intro q apart
  unfold restoreLegacyDisk at run
  rcases Failing.bind_error run with failed | ⟨source, _, resolved, run⟩
  · rw [resolve_fails failed]
  rw [(resolve_ok resolved).2] at run
  rcases Failing.bind_error run with failed | ⟨disk, _, resolvedDisk, run⟩
  · rw [resolve_fails failed]
  obtain ⟨isDisk, isTree⟩ := resolve_ok resolvedDisk
  rw [isDisk, isTree] at run
  have removes : Leaves (Apart (replacementPath (components machine.disk.relativePath)))
      (removeIfPresent faults .removeOldReplacement
        (replacementPath (components machine.disk.relativePath))) :=
    Leaves.removeIfPresent _ fun _ here => here.1
  have clones : Leaves (Apart (replacementPath (components machine.disk.relativePath)))
      (clone faults "disk.raw" source (replacementPath (components machine.disk.relativePath))) :=
    Leaves.clone _ _ fun _ here => here
  rcases Failing.bind_error run with failed | ⟨_, emptied, emptying, run⟩
  · exact removes.of_run failed q apart
  rcases Failing.bind_error run with failed | ⟨_, cloned, cloning, failed⟩
  · rw [clones.of_run failed q apart, removes.of_run emptying q apart]
  · rw [attempt_fails failed, clones.of_run cloning q apart, removes.of_run emptying q apart]

/-- The clean-up of a restore. -/
theorem discardStaged_leaves {kept : Path → Prop} {staged : Path} (d : SnapshotError)
    (outside : ∀ q, kept q → ¬ staged <+: q) :
    Leaves kept (do
      let t ← Failing.getState
      if (t staged).isSome then Failing.ignoring (removeItem faults .discardStaged staged)
      throw d : SnapshotM Unit) := by
  refine Leaves.bind Leaves.getState fun t => ?_
  split
  · exact Leaves.bind (Keeps.ignoring (Leaves.removeItem _ outside)) fun _ => Leaves.throw _
  · exact Leaves.throw _

theorem installState_leaves {kept : Path → Prop} {source currentState staged : Path}
    (first : ∀ q, kept q → Apart currentState q) (second : ∀ q, kept q → Apart staged q) :
    Leaves kept (installState faults source currentState staged) := by
  have swaps : Leaves kept (swapItems faults currentState staged) := by
    have exchange : Leaves kept (attempt faults .swap fun t => t.swap currentState staged) :=
      Leaves.attempt fun t q here => Tree.swap_other (first q here).1 (second q here).1
    refine Leaves.bind Leaves.getState fun t => ?_
    split
    · exact Leaves.bind (Leaves.throw _) fun _ => exchange
    · exact exchange
  refine Leaves.tryCatch ?_ fun d => discardStaged_leaves d fun q here => (second q here).1
  refine Leaves.bind (Leaves.cloneWindowsState _ second) fun _ => Leaves.bind swaps fun _ => ?_
  exact Leaves.removeItem _ fun q here => (second q here).1

/-- A state that is not installed has not been touched, or the snapshot's state is in place and
only the removal of the old one has failed. -/
theorem installState_fails {source currentState staged : Path}
    (sources : ∀ suffix ∈ stateSuffixes, Apart (source ++ suffix) staged)
    (apart : Apart currentState staged) (vacant : ∀ q, staged <+: q → t q = none)
    (run : installState faults source currentState staged t = (.error e, u)) :
    (∀ q, Apart staged q → u q = t q) ∨
      stateContents u currentState = stateContents t source := by
  unfold installState at run
  obtain ⟨d, w, body, handled⟩ := Failing.error_of_tryCatch run
  have kept : ∀ q, ¬ staged <+: q → u q = w q :=
    (discardStaged_leaves d fun _ here => here).of_run handled
  have clones : Leaves (Apart staged) (cloneWindowsState faults source staged) :=
    Leaves.cloneWindowsState _ fun _ here => here
  rcases Failing.bind_error body with failed | ⟨_, cloned, cloning, body⟩
  · refine .inl fun q outside => ?_
    rw [kept q outside.1, clones.of_run failed q outside]
  obtain ⟨copied, _, _⟩ := cloneWindowsState_lookup sources vacant cloning
  rcases Failing.bind_error body with failed | ⟨_, swapped, swapping, failed⟩
  · refine .inl fun q outside => ?_
    have unchanged : w = cloned := by
      unfold swapItems at failed
      rw [Failing.bind_of_ok _ (rfl : Failing.getState cloned = (.ok cloned, cloned))] at failed
      split at failed
      · cases failed
        rfl
      · exact attempt_fails failed
    rw [kept q outside.1, unchanged, clones.of_run cloning q outside]
  · apply Or.inr
    obtain ⟨_, _, isSwapped⟩ := swapItems_ok swapping
    rw [← copied]
    refine stateContents_congr fun suffix _ => ?_
    have outside : ¬ staged <+: currentState ++ suffix := apart.symm.not_below_append
    have leaves : Leaves (fun q => ¬ staged <+: q) (removeItem faults .removeStaged staged) :=
      Leaves.removeItem _ fun _ here => here
    rw [kept _ outside, leaves.of_run failed _ outside, isSwapped, Tree.swap_left]

theorem restore_linux_fails {name : String} {snapshotID stagedID : UUID}
    (linux : machine.spec.operatingSystem = .linux) (placed : Placed machine)
    (run : restore faults (snapshotOf machine name snapshotID) machine stagedID t = (.error e, u)) :
    (∀ q, Elsewhere machine q → u q = t q) ∧ current u machine = current t machine := by
  unfold restore at run
  rw [linux] at run
  have kept := restoreLegacyDisk_fails run
  have replacement : replacementPath (components machine.disk.relativePath) =
      machinePath machine.id ++ ["disk.raw" ++ ".restore"] := by
    rw [linux_disk linux placed]
    simp [replacementPath]
  rw [replacement] at kept
  refine ⟨fun q here => kept q (apart_of_elsewhere (by decide) [] here), ?_⟩
  refine current_congr fun q member => kept q ?_
  simp only [currentFiles, linux, List.mem_singleton] at member
  rw [member, linux_disk linux placed]
  exact (Apart.of_ne (by decide) [] []).prepend _

theorem restore_windows_fails {name : String} {snapshotID stagedID : UUID}
    (windows : machine.spec.operatingSystem = .windows) (placed : Placed machine)
    (closed : t.Closed)
    (run : restore faults (snapshotOf machine name snapshotID) machine stagedID t = (.error e, u)) :
    (∀ q, Elsewhere machine q → u q = t q) ∧
      (current u machine = current t machine ∨
        current u machine = frozen t (snapshotOf machine name snapshotID)) := by
  have state : (snapshotOf machine name snapshotID).stateDirectoryRelativePath =
      some (relativePath (snapshotState machine.id snapshotID)) := by
    simp [snapshotOf, windows]
  unfold restore at run
  rw [windows, state] at run
  simp only at run
  rcases Failing.bind_error run with failed | ⟨source, _, resolved, run⟩
  · rw [resolve_fails failed]
    exact ⟨fun _ _ => rfl, .inl rfl⟩
  obtain ⟨isSource, isTree⟩ := resolve_ok resolved
  rw [isSource, isTree, components_snapshotState] at run
  unfold restoreWindowsState at run
  rcases Failing.bind_error run with failed | ⟨disk, _, resolvedDisk, run⟩
  · rw [resolve_fails failed]
    exact ⟨fun _ _ => rfl, .inl rfl⟩
  obtain ⟨isDisk, isTree⟩ := resolve_ok resolvedDisk
  rw [isDisk, isTree] at run
  rw [show (components machine.disk.relativePath).dropLast = stateDirectoryOf machine from rfl]
    at run
  split at run
  · cases run
    exact ⟨fun _ _ => rfl, .inl rfl⟩
  rename_i isCurrent
  have atomic := stateDirectoryOf_current windows placed (by simpa using isCurrent)
  rw [atomic, stagedPath_current] at run
  have apart := current_apart_staged machine.id stagedID
  have sources := snapshotState_apart_staged machine.id snapshotID stagedID
  have below {first : Path} (among : first ∈ currentFiles machine) :
      machinePath machine.id ++ ["State", "current"] <+: first := by
    simp only [currentFiles, windows, atomic] at among
    obtain ⟨suffix, _, rfl⟩ := List.mem_map.mp among
    exact List.prefix_append _ _
  have elsewhere (name : String) {q : Path} (here : Elsewhere machine q) :
      Apart (machinePath machine.id ++ ["State", name]) q :=
    apart_of_elsewhere (by decide) [name] here
  have removes : Leaves (Apart (machinePath machine.id ++ ["State", ".restore-" ++
      uuidString stagedID])) (removeIfPresent faults .removeOldStaged
        (machinePath machine.id ++ ["State", ".restore-" ++ uuidString stagedID])) :=
    Leaves.removeIfPresent _ fun _ here => here.1
  rcases Failing.bind_error run with failed | ⟨_, emptied, emptying, run⟩
  · refine ⟨fun q here => removes.of_run failed q (elsewhere _ here), .inl ?_⟩
    exact current_congr fun q member =>
      removes.of_run failed q (apart.symm.below (List.prefix_refl _) (below member))
  obtain ⟨vacant, _⟩ := removeIfPresent_lookup closed emptying
  constructor
  · intro q here
    have installs : Leaves (Elsewhere machine) (installState faults
        (snapshotState machine.id snapshotID) (machinePath machine.id ++ ["State", "current"])
        (machinePath machine.id ++ ["State", ".restore-" ++ uuidString stagedID])) :=
      installState_leaves (fun _ => elsewhere _) fun _ => elsewhere _
    rw [installs.of_run run q here, removes.of_run emptying q (elsewhere _ here)]
  · rcases installState_fails (fun suffix _ => sources suffix) apart vacant run with
      untouched | installed
    · refine .inl (current_congr fun q member => ?_)
      have outside := apart.symm.below (List.prefix_refl _) (below member)
      rw [untouched q outside, removes.of_run emptying q outside]
    · apply Or.inr
      rw [frozen_windows windows]
      simp only [current, windows, atomic]
      rw [installed]
      exact stateContents_congr fun suffix _ => removes.of_run emptying _ (sources suffix).symm

/-- `restore` is atomic. -/
theorem restore_atomic {id : UUID} {name : String} {snapshotID stagedID : UUID}
    (store : StoreState machines t)
    (run : restore faults (snapshotOf (machines.machine id) name snapshotID)
      (machines.machine id) stagedID t = (.error e, u)) :
    Atomic machines (.restore id (snapshotOf (machines.machine id) name snapshotID) stagedID)
      t u := by
  obtain ⟨kept, restored⟩ : (∀ q, Elsewhere (machines.machine id) q → u q = t q) ∧
      (current u (machines.machine id) = current t (machines.machine id) ∨
        current u (machines.machine id) =
          frozen t (snapshotOf (machines.machine id) name snapshotID)) := by
    cases system : (machines.machine id).spec.operatingSystem with
    | windows => exact restore_windows_fails system (machines.placed id) store.closed run
    | linux =>
      obtain ⟨kept, same⟩ := restore_linux_fails system (machines.placed id) run
      exact ⟨kept, .inl same⟩
  have own := machines.own id
  have snapshots (other : UUID) {q : Path} (under : snapshotsDirectory other <+: q) :
      u q = t q := by
    apply kept
    by_cases same : other = id
    · left
      rwa [own, ← same]
    · right
      rw [own]
      have apart := machinePath_apart fun equal => same equal.symm
      exact apart.below (List.prefix_refl _) ((List.prefix_append _ _).trans under)
  have lists (other : UUID) (snapshot : MachineSnapshot) :
      Lists u other snapshot ↔ Lists t other snapshot :=
    lists_congr (snapshots other (List.prefix_append _ _))
  constructor
  · intro other snapshot member q under
    obtain ⟨name', isSnapshot⟩ := store.issued other snapshot ((lists other snapshot).mp member)
    rw [isSnapshot, files_snapshotOf] at under
    have inside := (snapshotsDirectory_starts (machines.machine other) snapshot.id).trans under
    exact snapshots _ inside
  · rintro other entry ⟨proper, present, unlisted⟩
    rw [snapshots other (List.prefix_append _ _)] at present
    exact ⟨proper, present, fun snapshot member =>
      unlisted snapshot ((lists other snapshot).mpr member)⟩
  · intro other
    by_cases same : other = id
    · subst same
      rcases restored with old | new
      · exact .inl old
      · exact .inr ⟨_, _, rfl, new⟩
    · refine .inl (current_congr fun q member => kept q (.inr ?_))
      obtain ⟨name', rest, _, rfl⟩ := currentFiles_below (machines.placed other) q member
      rw [own, machines.own other]
      have apart := machinePath_apart fun equal => same equal.symm
      exact apart.below (List.prefix_refl _) (List.prefix_append _ _)

end Restore

end SnapshotStore

/-- **Failure atomicity**: a call that throws leaves what it should exactly if it is a `create`
that fails before its copies are complete, a `delete` that takes nothing of a listed snapshot
away, or a `restore`. -/
theorem failed_call_atomic_iff (machines : PlacedMachines) (faults : SnapshotFaults)
    (t u : FileTree) (store : StoreState machines t) (event : SnapshotEvent)
    (issued : event.IsIssued machines) (isNew : event.IsNew machines t)
    (cleanUp : faults .discardSnapshot = none) (e : SnapshotError)
    (run : perform machines faults event t = (.error e, u)) :
    Atomic machines event t u ↔ FailsClean machines faults t event := by
  cases event with
  | create id name snapshotID =>
    rcases Failing.bind_error run with failed | ⟨_, _, _, returned⟩
    · exact create_atomic_iff store isNew cleanUp failed
    · cases returned
  | restore id snapshot stagedID =>
    obtain ⟨name, snapshotID, rfl⟩ := issued
    exact ⟨fun _ => trivial, fun _ => restore_atomic store run⟩
  | delete id snapshot =>
    obtain ⟨name, snapshotID, rfl⟩ := issued
    exact delete_atomic_iff store run
  | guestWrites id file bytes => cases run

/-- The disk is full when `snapshots.json` is written. -/
def fullDisk : SnapshotFaults := fun step =>
  if step = .writeMetadata then some { message := "No space left on device" } else none

def thrown {α : Type} : Except SnapshotError α → Option SnapshotError
  | .ok _ => none
  | .error e => some e

theorem windowsTree_storeState (id : UUID) : StoreState windowsMachines (windowsTree id) := by
  refine ⟨windowsTree_closed id, fun other snapshot member => ?_⟩
  obtain ⟨snapshots, isListed, among⟩ := member
  have absent := windowsTree_empty id other (metadataPath other) (List.prefix_append _ _)
  rw [listed, absent] at isListed
  cases isListed
  cases among

theorem windowsTree_isNew (id machineID : UUID) (name : String) (snapshotID : UUID) :
    (SnapshotEvent.create machineID name snapshotID).IsNew windowsMachines (windowsTree id) := by
  constructor
  · intro q under
    exact windowsTree_empty id _ q ((snapshotsDirectory_starts _ snapshotID).trans under)
  · intro snapshot member
    obtain ⟨snapshots, isListed, among⟩ := member
    have absent := windowsTree_empty id machineID (metadataPath machineID) (List.prefix_append _ _)
    rw [listed, absent] at isListed
    cases isListed
    cases among

/-- A snapshot of a Windows machine whose record cannot be written. -/
def fullDiskTree : FileTree :=
  (perform windowsMachines fullDisk (.create ⟨1⟩ "Before" ⟨7⟩) (windowsTree ⟨1⟩)).2

theorem perform_fullDisk :
    perform windowsMachines fullDisk (.create ⟨1⟩ "Before" ⟨7⟩) (windowsTree ⟨1⟩) =
      (.error (.io "No space left on device"), fullDiskTree) := by
  have throws : thrown (perform windowsMachines fullDisk (.create ⟨1⟩ "Before" ⟨7⟩)
      (windowsTree ⟨1⟩)).1 = some (.io "No space left on device") := by
    decide +kernel
  unfold fullDiskTree
  cases run : perform windowsMachines fullDisk (.create ⟨1⟩ "Before" ⟨7⟩) (windowsTree ⟨1⟩) with
  | mk result w =>
    rw [run] at throws
    cases result with
    | ok x => cases throws
    | error d =>
      cases throws
      rfl

theorem failed_call_atomic_iff_fullDisk :
    Atomic windowsMachines (.create ⟨1⟩ "Before" ⟨7⟩) (windowsTree ⟨1⟩) fullDiskTree ↔
      FailsClean windowsMachines fullDisk (windowsTree ⟨1⟩) (.create ⟨1⟩ "Before" ⟨7⟩) :=
  failed_call_atomic_iff windowsMachines fullDisk (windowsTree ⟨1⟩) fullDiskTree
    (windowsTree_storeState ⟨1⟩) (.create ⟨1⟩ "Before" ⟨7⟩) trivial
    (windowsTree_isNew ⟨1⟩ ⟨1⟩ "Before" ⟨7⟩) rfl (.io "No space left on device") perform_fullDisk

/-- The copies stay when `snapshots.json` cannot be written, although only one step fails. -/
theorem full_disk_leaves_orphan :
    ¬ ∀ (machines : PlacedMachines) (faults : SnapshotFaults) (t u : FileTree),
      StoreState machines t → ∀ (event : SnapshotEvent), event.IsIssued machines →
      event.IsNew machines t → (∀ a b, faults a ≠ none → faults b ≠ none → a = b) →
      ∀ e, perform machines faults event t = (.error e, u) → Atomic machines event t u := by
  intro always
  have atomic := always windowsMachines fullDisk (windowsTree ⟨1⟩) fullDiskTree
    (windowsTree_storeState ⟨1⟩) (.create ⟨1⟩ "Before" ⟨7⟩) trivial
    (windowsTree_isNew ⟨1⟩ ⟨1⟩ "Before" ⟨7⟩) (fun a b first second => ?_)
    (.io "No space left on device") perform_fullDisk
  · have orphan : IsOrphan fullDiskTree ⟨1⟩ (uuidString ⟨7⟩) := by
      refine ⟨by decide +kernel, by decide +kernel, fun snapshot member => ?_⟩
      have nothing : listed fullDiskTree ⟨1⟩ = some [] := by decide +kernel
      obtain ⟨snapshots, isListed, among⟩ := member
      rw [nothing] at isListed
      cases isListed
      cases among
    have before := (atomic.noOrphans _ _ orphan).2.1
    rw [windowsTree_empty ⟨1⟩ ⟨1⟩ _ (List.prefix_append _ _)] at before
    cases before
  · have one (step : SnapshotStep) (fails : fullDisk step ≠ none) : step = .writeMetadata := by
      unfold fullDisk at fails
      split at fails
      · assumption
      · exact absurd rfl fails
    rw [one a first, one b second]

end SimpleVM.Storage
