import SimpleVM.Storage.SnapshotOperations
import SimpleVM.Transition.Run

/-!
# Snapshots are isolated

What a library of snapshots is for: a snapshot freezes the contents its machine has, a restore
brings them back, and neither is seen elsewhere. The snapshot store refines this, whatever
guests write to their machines in between.
-/
namespace SimpleVM.Storage

open Domain Effects Files Transition SnapshotStore

/-- A file of a machine that its guest writes. -/
inductive StateFile
  | disk | efiCode | efiVars | tpmState
deriving DecidableEq, Repr

def StateFile.path (machine : Machine) : StateFile → Path
  | .disk => components machine.disk.relativePath
  | .efiCode => stateDirectoryOf machine ++ ["QEMU", "efi-code.fd"]
  | .efiVars => stateDirectoryOf machine ++ ["QEMU", "efi-vars.fd"]
  | .tpmState => stateDirectoryOf machine ++ ["QEMU", "tpm-state"]

/-- Snapshots hold the state files of Windows machines only. -/
def StateFile.isKept (machine : Machine) (file : StateFile) : Bool :=
  decide (machine.spec.operatingSystem = .windows) || decide (file = .disk)

def MachineContents.set (contents : MachineContents) (node : Option (Node Contents)) :
    StateFile → MachineContents
  | .disk => { contents with disk := node }
  | .efiCode => { contents with efiCode := node }
  | .efiVars => { contents with efiVars := node }
  | .tpmState => { contents with tpmState := node }

inductive SnapshotEvent
  | create (machineID : UUID) (name : String) (snapshotID : UUID)
  | restore (machineID : UUID) (snapshot : MachineSnapshot) (stagedID : UUID)
  | delete (machineID : UUID) (snapshot : MachineSnapshot)
  /-- A file is written as a whole or removed. -/
  | guestWrites (machineID : UUID) (file : StateFile) (bytes : Option Data)

/-- The machines of a library, each with its disk where the machine store puts it. -/
structure PlacedMachines where
  machine : UUID → Machine
  own : ∀ id, (machine id).id = id
  placed : ∀ id, Placed (machine id)

namespace SnapshotStore

def guestWrites (t : FileTree) (p : Path) : Option Data → FileTree
  | some bytes => (t.makeDirectory p.dropLast).write p (.data bytes)
  | none => t.remove p

/-- The tree after a call that succeeds. -/
def succeeded {α : Type} : Except SnapshotError α × FileTree → Option FileTree
  | (.ok _, u) => some u
  | (.error _, _) => none

/-- A successful call, with the faults it does not meet, or a write of a guest. -/
def step (machines : PlacedMachines) (t : FileTree) (e : SnapshotFaults × SnapshotEvent) :
    Option FileTree :=
  match e.2 with
  | .create id name snapshotID => succeeded (create e.1 (machines.machine id) name snapshotID t)
  | .restore id snapshot stagedID =>
    succeeded (restore e.1 snapshot (machines.machine id) stagedID t)
  | .delete id snapshot => succeeded (delete e.1 snapshot id t)
  | .guestWrites id file bytes =>
    if file.isKept (machines.machine id) then
      some (guestWrites t (file.path (machines.machine id)) bytes)
    else none

end SnapshotStore

/-- The purpose of the snapshot store: frozen contents beside the current ones. -/
structure SnapshotLibrary where
  current : UUID → MachineContents
  snapshots : UUID → List (MachineSnapshot × MachineContents)

namespace SnapshotLibrary

def setCurrent (a : SnapshotLibrary) (id : UUID) (contents : MachineContents) : SnapshotLibrary :=
  { a with current := fun other => if other = id then contents else a.current other }

def setSnapshots (a : SnapshotLibrary) (id : UUID)
    (snapshots : List (MachineSnapshot × MachineContents)) : SnapshotLibrary :=
  { a with snapshots := fun other => if other = id then snapshots else a.snapshots other }

def apply (machines : PlacedMachines) (a : SnapshotLibrary) : SnapshotEvent → SnapshotLibrary
  | .create id name snapshotID =>
    a.setSnapshots id
      (a.snapshots id ++ [(snapshotOf (machines.machine id) name snapshotID, a.current id)])
  | .restore id snapshot _ =>
    match (a.snapshots id).find? fun entry => entry.1.id = snapshot.id with
    | some entry => a.setCurrent id entry.2
    | none => a
  | .delete id snapshot =>
    a.setSnapshots id ((a.snapshots id).filter fun entry => entry.1.id ≠ snapshot.id)
  | .guestWrites id file bytes =>
    a.setCurrent id ((a.current id).set (bytes.map fun bytes => .file (.data bytes)) file)

end SnapshotLibrary

/-- The tree shows the library: `list` reports the snapshots of every machine in their order,
and the current files and those of the snapshots have the contents they should. -/
structure Represents (machines : PlacedMachines) (t : FileTree) (a : SnapshotLibrary) : Prop where
  listed : ∀ id, listed t id = some ((a.snapshots id).map Prod.fst)
  current : ∀ id, current t (machines.machine id) = a.current id
  frozen : ∀ id, ∀ entry ∈ a.snapshots id, frozen t entry.1 = entry.2

/-- The snapshots handed to `restore` and `delete` are such as `create` makes for the machine. -/
def SnapshotEvent.IsIssued (machines : PlacedMachines) : SnapshotEvent → Prop
  | .restore id snapshot _ | .delete id snapshot =>
    ∃ name snapshotID, snapshot = snapshotOf (machines.machine id) name snapshotID
  | .create .. | .guestWrites .. => True

def SnapshotEvent.createdID : SnapshotEvent → Option UUID
  | .create _ _ snapshotID => some snapshotID
  | _ => none

/-- What holds of one machine: its part of the library is in the tree, its snapshots are known
by their identifiers, and nothing is at the place of any other snapshot. -/
structure StoredMachine (machine : Machine) (t : FileTree) (contents : MachineContents)
    (snapshots : List (MachineSnapshot × MachineContents)) : Prop where
  listed : listed t machine.id = some (snapshots.map Prod.fst)
  current : current t machine = contents
  frozen : ∀ entry ∈ snapshots, frozen t entry.1 = entry.2
  issued : ∀ entry ∈ snapshots, ∃ name, entry.1 = snapshotOf machine name entry.1.id
  vacant : ∀ snapshotID, (∀ entry ∈ snapshots, entry.1.id ≠ snapshotID) →
    ∀ q, place machine snapshotID <+: q → t q = none

namespace StoredMachine

variable {machine : Machine} {t u : FileTree} {contents : MachineContents}
  {snapshots : List (MachineSnapshot × MachineContents)} {faults : SnapshotFaults}

@[simp] theorem snapshotOf_id (machine : Machine) (name : String) (snapshotID : UUID) :
    (snapshotOf machine name snapshotID).id = snapshotID := by
  unfold snapshotOf
  split <;> rfl

theorem place_below (machine : Machine) (snapshotID : UUID) :
    machinePath machine.id <+: place machine snapshotID :=
  (List.prefix_append _ _).trans (snapshotsDirectory_starts machine snapshotID)

/-- What is done in the directories of other machines is not seen. -/
theorem congr (placed : Placed machine) (stored : StoredMachine machine t contents snapshots)
    (same : ∀ q, machinePath machine.id <+: q → u q = t q) :
    StoredMachine machine u contents snapshots where
  listed := by
    rw [listed_congr (same _ ((List.prefix_append _ _).trans (List.prefix_append _ _)))]
    exact stored.listed
  current := by
    rw [← stored.current]
    refine current_congr fun q member => same q ?_
    obtain ⟨name, rest, _, rfl⟩ := currentFiles_below placed q member
    exact List.prefix_append _ _
  frozen entry member := by
    rw [← stored.frozen entry member]
    obtain ⟨name, isSnapshot⟩ := stored.issued entry member
    rw [isSnapshot]
    exact frozen_congr name _ fun q under => same q ((place_below machine _).trans under)
  issued := stored.issued
  vacant snapshotID unlisted q under := by
    rw [same q ((place_below machine snapshotID).trans under)]
    exact stored.vacant snapshotID unlisted q under

/-- The current files are apart from all that belongs to snapshots. -/
theorem current_keeps (placed : Placed machine) {a : Path}
    (inside : snapshotsDirectory machine.id <+: a) {q : Path}
    (member : q ∈ currentFiles machine) : Apart a q :=
  (currentFiles_apart placed member).symm.below inside (List.prefix_refl q)

theorem create (placed : Placed machine) (stored : StoredMachine machine t contents snapshots)
    {name : String} {snapshotID : UUID} (isNew : ∀ entry ∈ snapshots, entry.1.id ≠ snapshotID)
    {snapshot : MachineSnapshot}
    (run : SnapshotStore.create faults machine name snapshotID t = (.ok snapshot, u)) :
    StoredMachine machine u contents
      (snapshots ++ [(snapshotOf machine name snapshotID, contents)]) := by
  obtain ⟨rfl, ⟨held, reads, writes⟩, froze, kept⟩ :=
    create_lookup placed (stored.vacant snapshotID isNew) run
  have metadata : snapshotsDirectory machine.id <+: metadataPath machine.id :=
    List.prefix_append _ _
  refine ⟨?_, ?_, ?_, ?_, ?_⟩
  · rw [stored.listed] at reads
    cases reads
    simp [writes]
  · rw [← stored.current]
    exact current_congr fun q member => kept q
      (current_keeps placed (snapshotsDirectory_starts machine snapshotID) member)
      (current_keeps placed metadata member)
  · intro entry member
    rcases List.mem_append.mp member with before | last
    · rw [← stored.frozen entry before]
      obtain ⟨name', isSnapshot⟩ := stored.issued entry before
      rw [isSnapshot]
      refine frozen_congr name' _ fun q under => kept q ?_ ?_
      · exact (place_apart (isNew entry before)).symm.below (List.prefix_refl _) under
      · exact (place_apart_metadata machine _).symm.below (List.prefix_refl _) under
    · rw [List.mem_singleton.mp last, froze]
      exact stored.current
  · intro entry member
    rcases List.mem_append.mp member with before | last
    · exact stored.issued entry before
    · rw [List.mem_singleton.mp last]
      exact ⟨name, by simp⟩
  · intro other unlisted q under
    have differ : snapshotID ≠ other := by
      simpa using unlisted (snapshotOf machine name snapshotID, contents) (by simp)
    rw [kept q ((place_apart differ).below (List.prefix_refl _) under)
      ((place_apart_metadata machine other).symm.below (List.prefix_refl _) under)]
    exact stored.vacant other (fun entry member => unlisted entry (by simp [member])) q under

theorem delete (placed : Placed machine) (closed : t.Closed)
    (stored : StoredMachine machine t contents snapshots) {name : String} {snapshotID : UUID}
    {x : Unit} (run : SnapshotStore.delete faults (snapshotOf machine name snapshotID) machine.id
      t = (.ok x, u)) :
    StoredMachine machine u contents
      (snapshots.filter fun entry => entry.1.id ≠ snapshotID) := by
  obtain ⟨⟨held, reads, writes⟩, gone, kept⟩ := delete_lookup closed run
  have metadata : snapshotsDirectory machine.id <+: metadataPath machine.id :=
    List.prefix_append _ _
  refine ⟨?_, ?_, ?_, ?_, ?_⟩
  · rw [stored.listed] at reads
    cases reads
    rw [writes, List.filter_map]
    rfl
  · rw [← stored.current]
    exact current_congr fun q member => kept q
      (current_keeps placed (snapshotsDirectory_starts machine snapshotID) member)
      (current_keeps placed metadata member)
  · intro entry member
    obtain ⟨before, differ⟩ := List.mem_filter.mp member
    have differ : snapshotID ≠ entry.1.id := fun same => of_decide_eq_true differ same.symm
    rw [← stored.frozen entry before]
    obtain ⟨name', isSnapshot⟩ := stored.issued entry before
    rw [isSnapshot]
    refine frozen_congr name' _ fun q under => kept q ?_ ?_
    · exact (place_apart differ).below (List.prefix_refl _) under
    · exact (place_apart_metadata machine _).symm.below (List.prefix_refl _) under
  · intro entry member
    exact stored.issued entry (List.mem_filter.mp member).1
  · intro other unlisted q under
    by_cases same : other = snapshotID
    · subst same
      exact gone q under
    · have differ : snapshotID ≠ other := fun equal => same equal.symm
      rw [kept q ((place_apart differ).below (List.prefix_refl _) under)
        ((place_apart_metadata machine other).symm.below (List.prefix_refl _) under)]
      refine stored.vacant other (fun entry member equal => ?_) q under
      refine unlisted entry (List.mem_filter.mpr ⟨member, ?_⟩) equal
      exact decide_eq_true fun isDeleted => same (equal.symm.trans isDeleted)

theorem restore_lookup {name : String} {snapshotID stagedID : UUID} {x : Unit}
    (placed : Placed machine) (closed : t.Closed)
    (run : SnapshotStore.restore faults (snapshotOf machine name snapshotID) machine stagedID t =
      (.ok x, u)) :
    SnapshotStore.current u machine = SnapshotStore.frozen t (snapshotOf machine name snapshotID) ∧
      (∃ q, place machine snapshotID <+: q ∧ (t q).isSome) ∧ OnlyCurrent machine t u ∧
      u.Closed := by
  unfold place
  cases system : machine.spec.operatingSystem with
  | windows =>
    obtain ⟨restored, present, only, isClosed⟩ := restore_windows_lookup system placed closed run
    refine ⟨restored, ⟨_, ?_, present⟩, only, isClosed⟩
    exact (List.prefix_append _ _).trans (List.prefix_append _ _)
  | linux =>
    obtain ⟨restored, present, only, isClosed⟩ := restore_linux_lookup system placed closed run
    exact ⟨restored, ⟨_, List.prefix_refl _, present⟩, only, isClosed⟩

/-- A restore that succeeds brings back what is listed. -/
theorem restore (placed : Placed machine) (closed : t.Closed)
    (stored : StoredMachine machine t contents snapshots) {name : String}
    {snapshotID stagedID : UUID} {x : Unit}
    (run : SnapshotStore.restore faults (snapshotOf machine name snapshotID) machine stagedID t =
      (.ok x, u)) :
    ∃ entry, (snapshots.find? fun entry => entry.1.id = snapshotID) = some entry ∧
      StoredMachine machine u entry.2 snapshots := by
  obtain ⟨restored, ⟨q, under, present⟩, only, _⟩ := restore_lookup placed closed run
  cases found : snapshots.find? fun entry => entry.1.id = snapshotID with
  | none =>
    -- Nothing is at the place of a snapshot that is not listed.
    have unlisted : ∀ entry ∈ snapshots, entry.1.id ≠ snapshotID := by
      intro entry member
      simpa using List.find?_eq_none.mp found entry member
    rw [stored.vacant snapshotID unlisted q under] at present
    cases present
  | some entry =>
    have member := List.mem_of_find?_eq_some found
    have isID : entry.1.id = snapshotID := by simpa using List.find?_some found
    obtain ⟨name', isSnapshot⟩ := stored.issued entry member
    refine ⟨entry, rfl, ?_, ?_, ?_, stored.issued, ?_⟩
    · rw [listed_congr (only.snapshots _ (List.prefix_append _ _))]
      exact stored.listed
    · rw [restored, ← stored.frozen entry member, isSnapshot, isID]
      exact frozen_name machine t name name' snapshotID
    · intro other among
      rw [← stored.frozen other among]
      obtain ⟨name'', isOther⟩ := stored.issued other among
      rw [isOther]
      exact frozen_congr name'' _ fun q under =>
        only.snapshots q ((snapshotsDirectory_starts machine _).trans under)
    · intro other unlisted q under
      rw [only.snapshots q ((snapshotsDirectory_starts machine other).trans under)]
      exact stored.vacant other unlisted q under

end StoredMachine

section GuestWrites

variable {machine : Machine} {t : FileTree} {contents : MachineContents}
  {snapshots : List (MachineSnapshot × MachineContents)}

theorem guestWrites_lookup (t : FileTree) (p : Path) (bytes : Option Data) :
    guestWrites t p bytes p = bytes.map (fun bytes => .file (.data bytes)) ∧
      ∀ q, Apart p q → guestWrites t p bytes q = t q := by
  cases bytes with
  | none => exact ⟨Tree.remove_below (List.prefix_refl p), fun q apart => Tree.remove_other apart.1⟩
  | some data =>
    refine ⟨Tree.write_self _ _ _, fun q apart => ?_⟩
    have differ : q ≠ p := fun same => apart.1 (same ▸ List.prefix_refl _)
    have notOnTheWay : ¬ q <+: p.dropLast := fun above =>
      apart.2 (above.trans (List.dropLast_prefix p))
    simp only [guestWrites]
    rw [Tree.write_other differ, Tree.makeDirectory_other notOnTheWay]

theorem guestWrites_closed (closed : t.Closed) (p : Path) (bytes : Option Data) :
    (guestWrites t p bytes).Closed := by
  cases bytes with
  | none => exact closed.remove p
  | some data =>
    exact (closed.makeDirectory p.dropLast).write
      (Tree.makeDirectory_isSome (List.prefix_refl _))

def StateFile.suffix : StateFile → Path
  | .disk => ["disk.raw"]
  | .efiCode => ["QEMU", "efi-code.fd"]
  | .efiVars => ["QEMU", "efi-vars.fd"]
  | .tpmState => ["QEMU", "tpm-state"]

theorem path_windows (windows : machine.spec.operatingSystem = .windows) (placed : Placed machine)
    (file : StateFile) : file.path machine = stateDirectoryOf machine ++ file.suffix := by
  cases file with
  | disk =>
    simp only [Placed, windows] at placed
    unfold StateFile.path StateFile.suffix stateDirectoryOf
    rcases placed with legacy | atomic
    · rw [legacy, List.dropLast_concat]
    · rw [atomic]
      simp [machinePath]
  | efiCode | efiVars | tpmState => rfl

theorem suffix_apart {file other : StateFile} (differ : file ≠ other) :
    Apart file.suffix other.suffix := by
  cases file <;> cases other
  all_goals first
    | exact absurd rfl differ
    | exact Apart.of_ne (by decide) _ _
    | exact (Apart.of_ne (by decide) _ _).cons "QEMU"

theorem path_mem {file : StateFile} (placed : Placed machine) (isKept : file.isKept machine = true) :
    file.path machine ∈ currentFiles machine := by
  unfold currentFiles
  cases system : machine.spec.operatingSystem with
  | windows =>
    rw [path_windows system placed]
    refine List.mem_map.mpr ⟨file.suffix, ?_, rfl⟩
    cases file <;> simp [stateSuffixes, StateFile.suffix]
  | linux =>
    have isDisk : file = .disk := by simpa [StateFile.isKept, system] using isKept
    subst isDisk
    exact List.mem_singleton.mpr rfl

/-- A write of the guest changes the one file. -/
theorem current_guestWrites {file : StateFile} (placed : Placed machine)
    (isKept : file.isKept machine = true) (bytes : Option Data) :
    current (guestWrites t (file.path machine) bytes) machine =
      (current t machine).set (bytes.map fun bytes => .file (.data bytes)) file := by
  obtain ⟨written, kept⟩ := guestWrites_lookup t (file.path machine) bytes
  unfold current
  cases system : machine.spec.operatingSystem with
  | windows =>
    rw [path_windows system placed] at written kept ⊢
    have others (other : StateFile) (differ : file ≠ other) :
        guestWrites t (stateDirectoryOf machine ++ file.suffix) bytes
          (stateDirectoryOf machine ++ other.suffix) =
        t (stateDirectoryOf machine ++ other.suffix) :=
      kept _ ((suffix_apart differ).prepend _)
    have disk := others .disk
    have efiCode := others .efiCode
    have efiVars := others .efiVars
    have tpmState := others .tpmState
    simp only [StateFile.suffix] at disk efiCode efiVars tpmState
    cases file
    all_goals
      simp only [StateFile.suffix, ne_eq, reduceCtorEq, not_false_eq_true, forall_const] at *
      simp [stateContents, MachineContents.set, *]
  | linux =>
    have isDisk : file = .disk := by simpa [StateFile.isKept, system] using isKept
    subst isDisk
    simp only [StateFile.path] at written ⊢
    simp [diskContents, MachineContents.set, written]

theorem StoredMachine.guestWrites (placed : Placed machine)
    (stored : StoredMachine machine t contents snapshots) {file : StateFile}
    (isKept : file.isKept machine = true) (bytes : Option Data) :
    StoredMachine machine (SnapshotStore.guestWrites t (file.path machine) bytes)
      (contents.set (bytes.map fun bytes => .file (.data bytes)) file) snapshots := by
  obtain ⟨_, kept⟩ := guestWrites_lookup t (file.path machine) bytes
  have apart := currentFiles_apart placed (path_mem placed isKept)
  have below (q : Path) (under : snapshotsDirectory machine.id <+: q) :
      SnapshotStore.guestWrites t (file.path machine) bytes q = t q :=
    kept q (apart.below (List.prefix_refl _) under)
  refine ⟨?_, ?_, fun entry member => ?_, stored.issued, fun snapshotID unlisted q under => ?_⟩
  · rw [listed_congr (below _ (List.prefix_append _ _))]
    exact stored.listed
  · rw [current_guestWrites placed isKept, stored.current]
  · rw [← stored.frozen entry member]
    obtain ⟨name, isSnapshot⟩ := stored.issued entry member
    rw [isSnapshot]
    exact frozen_congr name _ fun q under =>
      below q ((snapshotsDirectory_starts machine _).trans under)
  · rw [below q ((snapshotsDirectory_starts machine snapshotID).trans under)]
    exact stored.vacant snapshotID unlisted q under

end GuestWrites

/-- Every machine has its part of the library in the tree. -/
structure StoredLibrary (machines : PlacedMachines) (t : FileTree) (a : SnapshotLibrary) :
    Prop where
  closed : t.Closed
  machines : ∀ id, StoredMachine (machines.machine id) t (a.current id) (a.snapshots id)

namespace StoredLibrary

variable {machines : PlacedMachines} {t u : FileTree} {a : SnapshotLibrary}

theorem represents (stored : StoredLibrary machines t a) : Represents machines t a where
  listed id := by
    have here := (stored.machines id).listed
    rwa [machines.own id] at here
  current id := (stored.machines id).current
  frozen id := (stored.machines id).frozen

/-- One machine changes, in the tree below its directory and in the library. -/
theorem update (stored : StoredLibrary machines t a) (id : UUID) {b : SnapshotLibrary}
    (closed : u.Closed)
    (here : StoredMachine (machines.machine id) u (b.current id) (b.snapshots id))
    (others : ∀ other, other ≠ id → b.current other = a.current other ∧
      b.snapshots other = a.snapshots other)
    (kept : ∀ q, Apart (machinePath id) q → u q = t q) : StoredLibrary machines u b := by
  refine ⟨closed, fun other => ?_⟩
  by_cases same : other = id
  · subst same
    exact here
  · rw [(others other same).1, (others other same).2]
    refine (stored.machines other).congr (machines.placed other) fun q under => kept q ?_
    rw [machines.own other] at under
    have differ : id ≠ other := fun equal => same equal.symm
    exact (machinePath_apart differ).below (List.prefix_refl _) under

/-- What lies outside the directory of a machine lies outside of what its snapshots are kept in. -/
theorem apart_snapshot (machines : PlacedMachines) {id : UUID} (snapshotID : UUID) {q : Path}
    (apart : Apart (machinePath id) q) :
    Apart (place (machines.machine id) snapshotID) q ∧
      Apart (metadataPath (machines.machine id).id) q := by
  have below := StoredMachine.place_below (machines.machine id) snapshotID
  rw [machines.own id] at below ⊢
  refine ⟨apart.below below (List.prefix_refl q), ?_⟩
  exact apart.below ((List.prefix_append _ _).trans (List.prefix_append _ _))
    (List.prefix_refl q)

theorem step (stored : StoredLibrary machines t a) {e : SnapshotFaults × SnapshotEvent}
    (issued : e.2.IsIssued machines)
    (isNew : ∀ snapshotID, e.2.createdID = some snapshotID →
      ∀ id, ∀ entry ∈ a.snapshots id, entry.1.id ≠ snapshotID)
    (taken : SnapshotStore.step machines t e = some u) :
    StoredLibrary machines u (a.apply machines e.2) := by
  obtain ⟨faults, event⟩ := e
  cases event with
  | create id name snapshotID =>
    simp only [SnapshotStore.step] at taken
    cases run : SnapshotStore.create faults (machines.machine id) name snapshotID t with
    | mk result w =>
      rw [run] at taken
      cases result with
      | error e => cases taken
      | ok snapshot =>
        cases taken
        have unlisted := isNew snapshotID rfl id
        have here := (stored.machines id).create (machines.placed id) unlisted run
        obtain ⟨_, _, _, kept⟩ := create_lookup (machines.placed id)
          ((stored.machines id).vacant snapshotID unlisted) run
        refine stored.update id ((KeepsClosed.create _ _ _).of_run run stored.closed) ?_ ?_ ?_
        · simpa [SnapshotLibrary.apply, SnapshotLibrary.setSnapshots] using here
        · intro other differ
          simp [SnapshotLibrary.apply, SnapshotLibrary.setSnapshots, differ]
        · intro q apart
          obtain ⟨snapshot, metadata⟩ := apart_snapshot machines snapshotID apart
          exact kept q snapshot metadata
  | restore id snapshot stagedID =>
    obtain ⟨name, snapshotID, rfl⟩ := issued
    simp only [SnapshotStore.step] at taken
    cases run : SnapshotStore.restore faults (snapshotOf (machines.machine id) name snapshotID)
        (machines.machine id) stagedID t with
    | mk result w =>
      rw [run] at taken
      cases result with
      | error e => cases taken
      | ok x =>
        cases taken
        obtain ⟨entry, found, here⟩ :=
          (stored.machines id).restore (machines.placed id) stored.closed run
        obtain ⟨_, _, only, closed⟩ :=
          StoredMachine.restore_lookup (machines.placed id) stored.closed run
        have applied : a.apply machines
            (.restore id (snapshotOf (machines.machine id) name snapshotID) stagedID) =
            a.setCurrent id entry.2 := by
          simp [SnapshotLibrary.apply, found]
        rw [applied]
        refine stored.update id closed ?_ ?_ ?_
        · simpa [SnapshotLibrary.setCurrent] using here
        · intro other differ
          simp [SnapshotLibrary.setCurrent, differ]
        · intro q apart
          refine only.others q ?_
          rwa [machines.own id]
  | delete id snapshot =>
    obtain ⟨name, snapshotID, rfl⟩ := issued
    have own := machines.own id
    simp only [SnapshotStore.step] at taken
    cases run : SnapshotStore.delete faults (snapshotOf (machines.machine id) name snapshotID)
        id t with
    | mk result w =>
      rw [run] at taken
      cases result with
      | error e => cases taken
      | ok x =>
        cases taken
        have closed := (KeepsClosed.delete _ _).of_run run stored.closed
        have ownRun : SnapshotStore.delete faults
            (snapshotOf (machines.machine id) name snapshotID) (machines.machine id).id t =
            (.ok x, u) := by
          rw [own]
          exact run
        have here := (stored.machines id).delete (machines.placed id) stored.closed ownRun
        obtain ⟨_, _, kept⟩ := delete_lookup stored.closed ownRun
        refine stored.update id closed ?_ ?_ ?_
        · simpa [SnapshotLibrary.apply, SnapshotLibrary.setSnapshots] using here
        · intro other differ
          simp [SnapshotLibrary.apply, SnapshotLibrary.setSnapshots, differ]
        · intro q apart
          obtain ⟨snapshot, metadata⟩ := apart_snapshot machines snapshotID apart
          exact kept q snapshot metadata
  | guestWrites id file bytes =>
    simp only [SnapshotStore.step] at taken
    split at taken
    · rename_i isKept
      cases taken
      have here := (stored.machines id).guestWrites (machines.placed id) isKept bytes
      refine stored.update id (guestWrites_closed stored.closed _ bytes) ?_ ?_ ?_
      · simpa [SnapshotLibrary.apply, SnapshotLibrary.setCurrent] using here
      · intro other differ
        simp [SnapshotLibrary.apply, SnapshotLibrary.setCurrent, differ]
      · intro q apart
        obtain ⟨name, rest, _, isPath⟩ := currentFiles_below (machines.placed id) _
          (path_mem (machines.placed id) isKept)
        refine (guestWrites_lookup t _ bytes).2 q ?_
        rw [isPath, machines.own id]
        exact apart.below (List.prefix_append _ _) (List.prefix_refl q)
    · cases taken

/-- A library lists what it listed before and what is created. -/
theorem mem_apply {event : SnapshotEvent} {id : UUID} {entry : MachineSnapshot × MachineContents}
    (member : entry ∈ (a.apply machines event).snapshots id) :
    entry ∈ a.snapshots id ∨ event.createdID = some entry.1.id := by
  cases event with
  | create other name snapshotID =>
    simp only [SnapshotLibrary.apply, SnapshotLibrary.setSnapshots] at member
    split at member
    · rename_i same
      subst same
      rcases List.mem_append.mp member with before | last
      · exact .inl before
      · rw [List.mem_singleton.mp last]
        exact .inr (by simp [SnapshotEvent.createdID])
    · exact .inl member
  | restore other snapshot stagedID =>
    simp only [SnapshotLibrary.apply] at member
    split at member <;> exact .inl member
  | delete other snapshot =>
    simp only [SnapshotLibrary.apply, SnapshotLibrary.setSnapshots] at member
    split at member
    · rename_i same
      subst same
      exact .inl (List.mem_filter.mp member).1
    · exact .inl member
  | guestWrites => exact .inl member

theorem run {labels : List (SnapshotFaults × SnapshotEvent)}
    (run : Run (SnapshotStore.step machines) t labels u) (stored : StoredLibrary machines t a)
    (issued : ∀ e ∈ labels, e.2.IsIssued machines)
    (distinct : (labels.filterMap fun e => e.2.createdID).Nodup)
    (isNew : ∀ snapshotID ∈ labels.filterMap fun e => e.2.createdID,
      ∀ id, ∀ entry ∈ a.snapshots id, entry.1.id ≠ snapshotID) :
    StoredLibrary machines u (labels.foldl (fun a e => a.apply machines e.2) a) := by
  induction run generalizing a with
  | done => exact stored
  | @next s t u e labels taken _ ih =>
    have later : ∀ snapshotID, snapshotID ∈ (labels.filterMap fun e => e.2.createdID) →
        snapshotID ∈ ((e :: labels).filterMap fun e => e.2.createdID) := by
      intro snapshotID member
      obtain ⟨other, among, created⟩ := List.mem_filterMap.mp member
      exact List.mem_filterMap.mpr ⟨other, by simp [among], created⟩
    have next := stored.step (issued e (by simp)) (fun snapshotID created =>
      isNew snapshotID (List.mem_filterMap.mpr ⟨e, by simp, created⟩)) taken
    refine ih next (fun other among => issued other (by simp [among])) ?_ ?_
    · exact distinct.sublist ((List.sublist_cons_self e labels).filterMap _)
    · intro snapshotID member id entry listed same
      rcases mem_apply listed with before | created
      · exact isNew snapshotID (later snapshotID member) id entry before same
      · have first := List.filterMap_cons_some
          (f := fun e : SnapshotFaults × SnapshotEvent => e.2.createdID) (l := labels) created
        rw [first, List.nodup_cons, same] at distinct
        exact distinct.1 member

end StoredLibrary

/-- The library of machines that have no snapshots yet. -/
def SnapshotLibrary.initial (machines : PlacedMachines) (t : FileTree) : SnapshotLibrary where
  current id := SnapshotStore.current t (machines.machine id)
  snapshots _ := []

/-- **Snapshots are isolated**: from machines without snapshots, every sequence of successful
calls and guest writes leaves the tree that the library of frozen contents describes. -/
theorem snapshots_isolated (machines : PlacedMachines) (t u : FileTree) (closed : t.Closed)
    (empty : ∀ id, ∀ q, snapshotsDirectory id <+: q → t q = none)
    (labels : List (SnapshotFaults × SnapshotEvent))
    (issued : ∀ e ∈ labels, e.2.IsIssued machines)
    (distinct : (labels.filterMap fun e => e.2.createdID).Nodup)
    (run : Run (SnapshotStore.step machines) t labels u) :
    Represents machines u
      (labels.foldl (fun a e => a.apply machines e.2) (.initial machines t)) := by
  have stored : StoredLibrary machines t (.initial machines t) := by
    refine ⟨closed, fun id => ⟨?_, rfl, fun _ member => (by cases member),
      fun _ member => (by cases member), fun snapshotID _ q under => ?_⟩⟩
    · have absent := empty (machines.machine id).id _ (List.prefix_append _ ["snapshots.json"])
      simp [listed, metadataPath, absent, SnapshotLibrary.initial]
    · exact empty _ q ((snapshotsDirectory_starts _ snapshotID).trans under)
  exact (stored.run run issued distinct fun _ _ _ _ member => (by cases member)).represents

/-- Windows machines as the machine store creates them. -/
def windowsMachines : PlacedMachines where
  machine id :=
    { id := id
      name := "Windows"
      spec := { cpuCount := 4, memorySizeBytes := 8589934592, diskSizeBytes := 11,
                architecture := .arm64, operatingSystem := .windows }
      sourceImageID := ⟨2⟩
      disk := { id := ⟨3⟩, relativePath := (diskLocation id .windows).relativePath,
                capacityBytes := 11 }
      provisioningState := .ready
      bootMedia := .systemDisk
      backend := .qemu
      backendState := ⟨(backendState id .windows .qemu).relativePath⟩
      createdAt := 0 }
  own _ := rfl
  placed _ := placed_of_diskLocation rfl

/-- A state directory with a disk and a TPM state. -/
def windowsTree (id : UUID) : FileTree :=
  (((Tree.makeDirectory (fun _ => none)
    (machinePath id ++ ["State", "current", "QEMU"])).write
    (machinePath id ++ ["State", "current", "disk.raw"]) (.data [1])).write
    (machinePath id ++ ["State", "current", "QEMU", "tpm-state"]) (.data [2]))

def roundTrip : List (SnapshotFaults × SnapshotEvent) :=
  let snapshot := snapshotOf (windowsMachines.machine ⟨1⟩) "Before" ⟨7⟩
  [(fun _ => none, .create ⟨1⟩ "Before" ⟨7⟩),
    (fun _ => none, .guestWrites ⟨1⟩ .disk (some [3])),
    (fun _ => none, .restore ⟨1⟩ snapshot ⟨8⟩)]

theorem windowsTree_closed (id : UUID) : (windowsTree id).Closed := by
  have nothing : Tree.Closed (fun _ => none : FileTree) := fun _ _ _ present => present
  refine ((nothing.makeDirectory _).write (Tree.makeDirectory_isSome ?_)).write ?_
  · rw [List.dropLast_append_of_ne_nil (by simp)]
    exact (List.prefix_append_right_inj _).mpr (by decide)
  · rw [List.dropLast_append_of_ne_nil (by simp), Tree.write_other]
    · exact Tree.makeDirectory_isSome (List.prefix_refl _)
    · intro same
      exact absurd (List.append_cancel_left same) (by decide)

theorem windowsTree_empty (id other : UUID) (q : Path) (under : snapshotsDirectory other <+: q) :
    windowsTree id q = none := by
  have apart (rest : Path) : Apart (snapshotsDirectory other) (machinePath id ++ "State" :: rest) := by
    have differ : "Snapshots" ≠ "State" := by decide
    by_cases same : other = id
    · rw [same]
      exact (Apart.of_ne differ [] rest).prepend _
    · exact (machinePath_apart same).append _ _
  have outside (rest : Path) : ¬ q <+: machinePath id ++ "State" :: rest :=
    ((apart rest).below under (List.prefix_refl _)).1
  have differ (rest : Path) : q ≠ machinePath id ++ "State" :: rest := by
    rintro rfl
    exact outside rest (List.prefix_refl _)
  unfold windowsTree
  rw [Tree.write_other (differ _), Tree.write_other (differ _),
    Tree.makeDirectory_other (outside _)]

/-- A Windows machine is restored after its guest has written to the disk. -/
theorem snapshots_isolated_roundTrip : ∃ u,
    execute (SnapshotStore.step windowsMachines) (windowsTree ⟨1⟩) roundTrip = some u ∧
    Represents windowsMachines u (roundTrip.foldl (fun a e => a.apply windowsMachines e.2)
      (.initial windowsMachines (windowsTree ⟨1⟩))) := by
  have succeeds :
      (execute (SnapshotStore.step windowsMachines) (windowsTree ⟨1⟩) roundTrip).isSome = true := by
    decide +kernel
  obtain ⟨u, executed⟩ := Option.isSome_iff_exists.mp succeeds
  refine ⟨u, executed, snapshots_isolated windowsMachines _ u (windowsTree_closed ⟨1⟩)
    (fun id q under => windowsTree_empty ⟨1⟩ id q under) roundTrip ?_ (by decide)
    (run_of_execute executed)⟩
  intro e member
  simp only [roundTrip, List.mem_cons, List.not_mem_nil, or_false] at member
  rcases member with rfl | rfl | rfl
  · trivial
  · trivial
  · exact ⟨"Before", ⟨7⟩, rfl⟩

end SimpleVM.Storage
