import SimpleVM.App.UnsavedChanges

/-!
# Restoration

`initialize` loads the library once and goes on with that snapshot over several awaits. While
nothing else writes `library.json`, each of its steps still has what is there.
-/
namespace SimpleVM.App.Session

open Domain Effects Storage

/-- Every machine of the snapshot is in the list. -/
def ListsAll (snapshot : LibrarySnapshot) (machines : List Machine) : Prop :=
  ∀ m ∈ snapshot.machines, ∃ n ∈ machines, n.id = m.id

/-- A step of `initialize` goes on with what is in `library.json`, and what it awaits belongs
to it. -/
def Restores (v : Volume) (c : Call) : Prop :=
  match c.next with
  | .libraryLoaded _ =>
    c.work = .load ∧ ∀ snapshot, c.response = some (.ok (.loaded snapshot)) → snapshot = v.library
  | .machinesCleaned _ snapshot => snapshot = v.library ∧
      c.work = .removeOrphanedMachines (snapshot.machines.map fun m => m.id)
  | .fixtureCreated _ snapshot =>
    snapshot = v.library ∧ snapshot.machines = [] ∧ savedBy c.work = none ∧ sweeps c.work = false
  | .snapshotsListed snapshot machines =>
    snapshot = v.library ∧ ListsAll snapshot machines ∧ savedBy c.work = none ∧
      sweeps c.work = false
  | .imagesCleaned snapshot machines => snapshot = v.library ∧ ListsAll snapshot machines ∧
      c.work = .removeOrphanedImages (snapshot.images.map fun image => image.id)
  | _ => True

/-- What a step of `initialize` does. -/
inductive Restoration (s t : Session) : Prop
  | stops (initialized : t.initialized = s.initialized) (volume : t.volume = s.volume)
    (calls : t.calls = s.calls) (same : t.snapshot = s.snapshot) (catalog : t.catalog = s.catalog)
  | continues (work : Work) (next : Next) (suspends : t = s.suspend work next)
    (restoring : isRestoring next = true) (restores : Restores s.volume ⟨work, next, none⟩)
  /-- The stores are set, and what the lists have more than the snapshot is owed. -/
  | finishes (snapshot : LibrarySnapshot) (same : snapshot = s.volume.library)
    (lists : ListsAll snapshot t.app.machines) (images : t.images = restoredImages snapshot)
    (ready : t.initialized = true) (volume : t.volume = s.volume)
    (calls : t.calls = ⟨.outside, .toolsChecked snapshot t.app.machines, none⟩ :: s.calls)

variable {s : Session} {v w : Volume} {c : Call} {work : Work} {next : Next} {response : Response}
  {snapshot : LibrarySnapshot} {machines : List Machine}

/-- What a step of `initialize` relies on is the library only. -/
theorem Restores.of_library (same : w.library = v.library) (restores : Restores v c) :
    Restores w c := by
  unfold Restores at restores ⊢
  rw [same]
  exact restores

/-- The library that has been loaded is the one in `library.json`. -/
theorem Restores.answered (restores : Restores v ⟨work, next, none⟩) (faults : Faults)
    (outside : Response) :
    Restores v ⟨work, next, some (perform faults outside v work).1⟩ := by
  cases next with
  | libraryLoaded fixture =>
    obtain ⟨rfl, -⟩ := restores
    exact ⟨rfl, fun snapshot loaded => perform_load (Option.some.inj loaded)⟩
  | _ => exact restores

/-- A step of `initialize` before the stores are set awaits no save. -/
theorem Restores.savesNothing {asked : Option Response} (restores : Restores v ⟨work, next, asked⟩)
    (restoring : isRestoring next = true) : savedBy work = none := by
  cases next with
  | libraryLoaded fixture =>
    obtain ⟨rfl, -⟩ := restores
    rfl
  | machinesCleaned fixture snapshot =>
    obtain ⟨-, rfl⟩ := restores
    rfl
  | fixtureCreated fixture snapshot => exact restores.2.2.1
  | snapshotsListed snapshot machines => exact restores.2.2.1
  | imagesCleaned snapshot machines =>
    obtain ⟨-, -, rfl⟩ := restores
    rfl
  | _ => cases restoring

theorem lists_restored : ListsAll snapshot (restoredMachines snapshot) := by
  intro m member
  exact ⟨_, List.mem_map_of_mem member, rfl⟩

theorem settled_id {images : List MachineImage} {m : Machine} : (settled images m).id = m.id := by
  unfold settled
  split <;> rfl

theorem ListsAll.settled {images : List MachineImage} (lists : ListsAll snapshot machines) :
    ListsAll snapshot (machines.map (settled images)) := by
  intro m member
  obtain ⟨n, listed, same⟩ := lists m member
  exact ⟨_, List.mem_map_of_mem listed, settled_id.trans same⟩

section Steps

theorem restoration_cleanImages (same : snapshot = s.volume.library)
    (lists : ListsAll snapshot machines) : Restoration s (s.cleanImages snapshot machines) :=
  .continues _ _ rfl rfl ⟨same, lists, rfl⟩

theorem restoration_listSnapshots (same : snapshot = s.volume.library)
    (lists : ListsAll snapshot machines) : Restoration s (s.listSnapshots snapshot machines) := by
  unfold listSnapshots
  split
  · exact restoration_cleanImages same lists
  · exact .continues _ _ rfl rfl ⟨same, lists, rfl, rfl⟩

theorem restoration_present {message : String} : Restoration s (s.present message) :=
  .stops rfl rfl rfl rfl rfl

/-- `initialize` goes on with the snapshot it has loaded. -/
theorem goOn_restoration (restoring : isRestoring next = true)
    (restores : Restores s.volume ⟨work, next, some response⟩) :
    Restoration s (s.goOn response next) := by
  -- The steps of `initialize` in their order; each stops, goes on, or lists the library in the end.
  cases next with
  | libraryLoaded fixture =>
    simp only [goOn, libraryLoaded]
    split
    next snapshot =>
      have same : snapshot = s.volume.library := restores.2 snapshot rfl
      exact .continues _ _ rfl rfl ⟨same, rfl⟩
    · exact .stops rfl rfl rfl rfl rfl
    · exact restoration_present
  | machinesCleaned fixture snapshot =>
    obtain ⟨same, -⟩ := restores
    simp only [goOn, machinesCleaned]
    split
    · split
      next empty => exact .continues _ _ rfl rfl ⟨same, empty, rfl, rfl⟩
      · exact restoration_listSnapshots same lists_restored
    · exact restoration_present
  | fixtureCreated fixture snapshot =>
    obtain ⟨same, empty, -, -⟩ := restores
    simp only [goOn, fixtureCreated]
    split
    · refine restoration_listSnapshots same fun m member => ?_
      rw [empty] at member
      cases member
    · exact .stops rfl rfl rfl rfl rfl
    · exact restoration_present
  | snapshotsListed snapshot machines =>
    obtain ⟨same, lists, -, -⟩ := restores
    simp only [goOn, snapshotsListed]
    split
    · exact restoration_cleanImages same lists
    · exact restoration_present
  | imagesCleaned snapshot machines =>
    obtain ⟨same, lists, -⟩ := restores
    simp only [goOn, imagesCleaned]
    split
    · split
      · exact restoration_present
      · exact .finishes snapshot same lists.settled rfl rfl rfl rfl
    · exact restoration_present
  | _ => cases restoring

end Steps

end SimpleVM.App.Session
