import SimpleVM.App.Library

/-!
# Failed library operations

When an operation reports an error, is the library as it was? Creating a machine undoes its
own entry. Cloning, importing and adding a reference forget the entry they appended when
the final `persist` fails, and the two removals cannot bring back what they removed.
-/
namespace SimpleVM.App

open Domain Effects Storage

/-- The lists are those of `before`, and everything they list has the files it had. -/
def Unchanged (before after : Library) : Prop :=
  after.app.machines = before.app.machines ∧ after.images = before.images ∧
    (∀ m ∈ before.app.machines,
      after.volume.filesIn (.machine m.id) = before.volume.filesIn (.machine m.id)) ∧
    ∀ i ∈ before.images,
      after.volume.filesIn (.image i.id) = before.volume.filesIn (.image i.id)

/-- An error reported by the operation means that nothing happened. -/
def LeavesNoTrace (env : Environment) (operation : LibraryOperation) (lib : Library) : Prop :=
  ∀ error after, operation.run env lib = (some error, after) → Unchanged lib after

/-- The identifiers made for a new machine and a new image are not in use. -/
structure Fresh (env : Environment) (lib : Library) : Prop where
  machine : ∀ m ∈ lib.app.machines, m.id ≠ env.machineID
  image : ∀ i ∈ lib.images, i.id ≠ env.imageID

def Library.admits (lib : Library) (machine : Machine) : Prop :=
  lib.initialized = true ∧ lib.app.ensureMachineIdle machine = none

/-- Removing the directory and persisting: a failed removal kept every file, and nothing
fails once the directory is gone. -/
def RemovalKeeps (faults : Faults) (step : Step) (d : ManagedDirectory) (v : Volume) : Prop :=
  if d ∈ v.directories then
    match faults step with
    | some fault => ∀ entry ∈ v.filesIn d, fault.kept entry.1.name = true
    | none => faults .persist = none
  else faults .persist = none

/-- When an operation that reports an error leaves no trace. -/
def Compensated (env : Environment) (lib : Library) : LibraryOperation → Prop
  | .createMachine _ => True
  | .cloneMachine machine =>
    lib.admits machine → ClonesFiles env.faults machine env.machineID lib.volume →
      env.faults .persist = none
  | .importImage source _ _ _ =>
    lib.initialized = true → ImportsFile env.faults source env.imageID lib.volume →
      env.faults .inspectImage = none → env.faults .hashImage = none →
      env.faults .persist = none
  | .addOCIReference reference _ =>
    trimmed reference ≠ "" → lib.initialized = true ∧ env.faults .persist = none
  | .deleteMachine machine =>
    lib.admits machine → (∃ m ∈ lib.app.machines, m.id = machine.id) →
      RemovalKeeps env.faults .removeMachineDirectory (.machine machine.id) lib.volume
  | .removeImage image =>
    lib.initialized = true → lib.imageRemovalRefused image = none →
      (∃ i ∈ lib.images, i.id = image.id) →
      RemovalKeeps env.faults .removeImageDirectory (.image image.id) lib.volume

namespace Unchanged

theorem refl (lib : Library) : Unchanged lib lib := ⟨rfl, rfl, fun _ _ => rfl, fun _ _ => rfl⟩

end Unchanged

/-- No entry of the library has its files in `d`. -/
def Unlisted (d : ManagedDirectory) (lib : Library) : Prop :=
  (∀ m ∈ lib.app.machines, ManagedDirectory.machine m.id ≠ d) ∧
    ∀ i ∈ lib.images, ManagedDirectory.image i.id ≠ d

/-- Nothing but files in `d` differs. -/
structure Quiet (d : ManagedDirectory) (before after : Library) : Prop where
  initialized : after.initialized = before.initialized
  machines : after.app.machines = before.app.machines
  images : after.images = before.images
  volume : OnlyIn d before.volume after.volume

namespace Quiet

variable {d : ManagedDirectory}

theorem refl (lib : Library) : Quiet d lib lib := ⟨rfl, rfl, rfl, OnlyIn.refl _⟩

theorem trans (d : ManagedDirectory) (a b c : Library) (first : Quiet d a b)
    (second : Quiet d b c) : Quiet d a c where
  initialized := second.initialized.trans first.initialized
  machines := second.machines.trans first.machines
  images := second.images.trans first.images
  volume := OnlyIn.trans d _ _ _ first.volume second.volume

theorem unchanged_iff {before a b : Library} (quiet : Quiet d a b) (apart : Unlisted d before) :
    Unchanged before b ↔ Unchanged before a := by
  have machine (m : Machine) (member : m ∈ before.app.machines) :
      b.volume.filesIn (.machine m.id) = a.volume.filesIn (.machine m.id) :=
    quiet.volume.1 _ (apart.1 m member)
  have image (i : MachineImage) (member : i ∈ before.images) :
      b.volume.filesIn (.image i.id) = a.volume.filesIn (.image i.id) :=
    quiet.volume.1 _ (apart.2 i member)
  unfold Unchanged
  rw [quiet.machines, quiet.images]
  refine and_congr_right fun _ => and_congr_right fun _ => and_congr ?_ ?_
  · exact forall_congr' fun m => forall_congr' fun member => by rw [machine m member]
  · exact forall_congr' fun i => forall_congr' fun member => by rw [image i member]

theorem unchanged {before after : Library} (quiet : Quiet d before after)
    (apart : Unlisted d before) : Unchanged before after :=
  (quiet.unchanged_iff apart).mpr (Unchanged.refl before)

end Quiet

section Actions

variable {α β : Type} {lib before s t : Library} {d : ManagedDirectory}

theorem onVolume_eq_ok {x : Store α} {a : α} :
    onVolume x s = (.ok a, t) ↔ ∃ v, x s.volume = (.ok a, v) ∧ t = { s with volume := v } := by
  unfold onVolume
  cases run : x s.volume with
  | mk result v =>
    cases result with
    | ok b => simp [eq_comm]
    | error e => simp

theorem onVolume_succeeds {x : Store α} : (onVolume x).Succeeds s ↔ x.Succeeds s.volume := by
  simp only [Failing.Succeeds, onVolume_eq_ok]
  constructor
  · rintro ⟨a, t, v, run, -⟩
    exact ⟨a, v, run⟩
  · rintro ⟨a, v, run⟩
    exact ⟨a, _, v, run, rfl⟩

theorem onVolume_state (x : Store α) (s : Library) :
    (onVolume x s).2 = { s with volume := (x s.volume).2 } := by
  unfold onVolume
  cases x s.volume with
  | mk result v => cases result <;> rfl

theorem require_of_true {condition : Bool} {error : LibraryError} (holds : condition = true) :
    require condition error s = (.ok (), s) := by
  rw [require, if_pos holds]
  rfl

/-- Every error ends in a state unchanged from `before`. -/
def Traceless (before : Library) (x : LibraryAction α) (s : Library) : Prop :=
  ∀ e t, x s = (.error e, t) → Unchanged before t

theorem traceless_bind {x : LibraryAction α} {f : α → LibraryAction β} :
    Traceless before (x >>= f) s ↔ Traceless before x s ∧
      ∀ a t, x s = (.ok a, t) → Traceless before (f a) t := by
  constructor
  · intro traceless
    refine ⟨fun e t run => traceless e t (Failing.bind_of_error f run), fun a t run e u rest => ?_⟩
    exact traceless e u (by rw [Failing.bind_of_ok f run, rest])
  · rintro ⟨first, second⟩ e t run
    rcases Failing.bind_error run with failed | ⟨a, u, done, rest⟩
    · exact first e t failed
    · exact second a u done e t rest

theorem traceless_of_ok {x : LibraryAction α} (f : α → LibraryAction β) {a : α}
    (run : x s = (.ok a, t)) : Traceless before (x >>= f) s ↔ Traceless before (f a) t := by
  unfold Traceless
  rw [Failing.bind_of_ok f run]

theorem traceless_of_quiet {x : LibraryAction α} (keeps : Keeps (Quiet d) x)
    (apart : Unlisted d before) (same : Unchanged before s) : Traceless before x s := by
  intro e t run
  have quiet := keeps s
  rw [run] at quiet
  exact (quiet.unchanged_iff apart).mpr same

theorem traceless_require {condition : Bool} {error : LibraryError} {f : Unit → LibraryAction α}
    (same : Unchanged before s) : Traceless before (require condition error >>= f) s ↔
      (condition = true → Traceless before (f ()) s) := by
  by_cases holds : condition = true
  · rw [traceless_of_ok f (require_of_true holds)]
    simp [holds]
  · have failed : require condition error s = (.error error, s) := by
      rw [require, if_neg holds]
      rfl
    refine ⟨fun _ holds' => absurd holds' holds, fun _ => traceless_bind.mpr ⟨?_, ?_⟩⟩
    · intro e t run
      rw [failed] at run
      cases run
      exact same
    · intro a t run
      rw [failed] at run
      cases run

/-- Presenting an error changes nothing that is listed. -/
theorem traceless_presenting {x : LibraryAction α} :
    Traceless before (presenting x) s ↔ Traceless before x s := by
  unfold presenting Traceless
  cases run : x s with
  | mk result t =>
    cases result with
    | ok a =>
      rw [Failing.tryCatch_of_ok _ run]
    | error e =>
      rw [Failing.tryCatch_of_error _ run]
      constructor
      · intro traceless e' u same
        cases same
        exact traceless e { t with app := t.app.present e.localizedDescription } rfl
      · intro traceless e' u same
        cases same
        exact traceless e t rfl

/-- A catch block that removes files nobody lists does not matter. -/
theorem traceless_discarding {x : LibraryAction α} {remove : Store Unit}
    (removes : Keeps (OnlyIn d) remove) (apart : Unlisted d before) :
    Traceless before (tryCatch x fun error => do
      Failing.ignoring (onVolume remove)
      throw error) s ↔ Traceless before x s := by
  unfold Traceless
  cases run : x s with
  | mk result t =>
    cases result with
    | ok a =>
      rw [Failing.tryCatch_of_ok _ run]
    | error e =>
      have quiet : Quiet d t (onVolume remove t).2 := by
        rw [onVolume_state]
        exact ⟨rfl, rfl, rfl, removes t.volume⟩
      rw [Failing.tryCatch_of_error _ run]
      constructor
      · intro traceless e' u same
        cases same
        exact (quiet.unchanged_iff apart).mp (traceless e _ rfl)
      · intro traceless e' u same
        cases same
        exact (quiet.unchanged_iff apart).mpr (traceless e t rfl)

theorem keeps_onVolume {x : Store α} (keeps : Keeps (OnlyIn d) x) :
    Keeps (Quiet d) (onVolume x) := by
  intro s
  rw [onVolume_state]
  exact ⟨rfl, rfl, rfl, keeps s.volume⟩

theorem persist_eq_ok {env : Environment} {u : Unit} : persist env s = (.ok u, t) ↔
    s.initialized = true ∧ env.faults .persist = none ∧ t = { s with volume :=
      { s.volume with metadata := some { machines := s.app.machines, images := s.images } } } := by
  unfold persist
  rw [Failing.bind_of_ok _ (Failing.getState_eq_ok.mpr ⟨rfl, rfl⟩)]
  by_cases ready : s.initialized = true
  · rw [Failing.bind_of_ok _ (require_of_true ready)]
    simp [onVolume_eq_ok, ready]
  · simp [Failing.bind_eq_ok, require, ready]

theorem persist_error {env : Environment} {e : LibraryError} (run : persist env s = (.error e, t)) :
    t = s := by
  unfold persist at run
  rw [Failing.bind_of_ok _ (Failing.getState_eq_ok.mpr ⟨rfl, rfl⟩)] at run
  by_cases ready : s.initialized = true
  · rw [Failing.bind_of_ok _ (require_of_true ready)] at run
    unfold onVolume attempt at run
    cases fault : env.faults .persist with
    | none => simp [fault] at run
    | some fault' =>
      simp only [fault, Prod.mk.injEq] at run
      exact run.2.symm
  · simp only [require, ready] at run
    cases run
    rfl

/-- An entry that is in the list when `persist` fails stays there. -/
theorem traceless_persist {env : Environment} (changed : ¬ Unchanged before s) :
    Traceless before (persist env) s ↔ s.initialized = true ∧ env.faults .persist = none := by
  constructor
  · intro traceless
    cases run : persist env s with
    | mk result t =>
      cases result with
      | ok u =>
        obtain ⟨ready, saved, _⟩ := persist_eq_ok.mp run
        exact ⟨ready, saved⟩
      | error e =>
        have same := traceless e t run
        rw [persist_error run] at same
        exact absurd same changed
  · rintro ⟨ready, saved⟩ e t run
    have done := (persist_eq_ok (u := ())).mpr ⟨ready, saved, rfl⟩
    rw [done] at run
    cases run

theorem traceless_persist_of_unchanged {env : Environment} (same : Unchanged before s) :
    Traceless before (persist env) s := by
  intro e t run
  rw [persist_error run]
  exact same

/-- The check itself changes nothing that is listed. -/
theorem traceless_ensureMachineIdle {machine : Machine} {f : Unit → LibraryAction α}
    (same : Unchanged before s) : Traceless before (ensureMachineIdle machine >>= f) s ↔
      (s.app.ensureMachineIdle machine = none →
        Traceless before (f ()) { s with app := s.app.withRuntime machine }) := by
  cases checked : s.app.ensureMachineIdle machine with
  | none =>
    have run : ensureMachineIdle machine s =
        (.ok (), { s with app := s.app.withRuntime machine }) := by
      unfold ensureMachineIdle
      rw [Failing.bind_of_ok _ (Failing.getState_eq_ok.mpr ⟨rfl, rfl⟩), checked]
      rfl
    rw [traceless_of_ok f run]
    simp
  | some error =>
    have refused : ∃ t, ensureMachineIdle machine s = (.error (.app error), t) ∧
        Unchanged before t := by
      unfold ensureMachineIdle
      rw [Failing.bind_of_ok _ (Failing.getState_eq_ok.mpr ⟨rfl, rfl⟩), checked]
      cases error <;> exact ⟨_, rfl, same⟩
    obtain ⟨t, run, kept⟩ := refused
    refine ⟨fun _ idle => (by cases idle), fun _ => traceless_bind.mpr ⟨?_, ?_⟩⟩
    · intro e u failed
      rw [run] at failed
      cases failed
      exact kept
    · intro a u done
      rw [run] at done
      cases done

theorem traceless_then_pure {x : LibraryAction α} {b : β} :
    Traceless before (x >>= fun _ => pure b) s ↔ Traceless before x s := by
  rw [traceless_bind]
  exact ⟨fun both => both.1, fun first => ⟨first, fun _ _ _ _ _ run => by cases run⟩⟩

end Actions

section Removal

variable {env : Environment} {lib : Library} {d : ManagedDirectory} {step : Step}

theorem filesIn_removePartly (v : Volume) (d : ManagedDirectory) (kept : String → Bool) :
    (v.removePartly d kept).filesIn d = v.filesIn d ↔
      ∀ entry ∈ v.filesIn d, kept entry.1.name = true := by
  have same : (v.removePartly d kept).filesIn d =
      (v.filesIn d).filter fun entry => kept entry.1.name := by
    simp only [Volume.filesIn, Volume.removePartly, List.filter_filter]
    congr 1
    funext entry
    by_cases here : entry.1.directory = d
    · simp [here]
    · simp [here]
  rw [same, List.filter_eq_self]

/-- A removal that stops half way leaves a trace exactly when a file of something listed is
gone. -/
theorem unchanged_removePartly {s : Library} (same : Quiet d lib s)
    (volume : s.volume = lib.volume) (kept : String → Bool) :
    Unchanged lib { s with volume := s.volume.removePartly d kept } ↔
      (¬ Unlisted d lib → ∀ entry ∈ lib.volume.filesIn d, kept entry.1.name = true) := by
  rw [volume]
  constructor
  · rintro ⟨_, _, machines, images⟩ listed
    refine (filesIn_removePartly lib.volume d kept).mp ?_
    rcases Classical.not_and_iff_not_or_not.mp listed with machine | image
    · simp only [Classical.not_forall, Classical.not_not] at machine
      obtain ⟨m, member, rfl⟩ := machine
      exact machines m member
    · simp only [Classical.not_forall, Classical.not_not] at image
      obtain ⟨i, member, rfl⟩ := image
      exact images i member
  · intro all
    by_cases unlisted : Unlisted d lib
    · have quiet : Quiet d lib { s with volume := lib.volume.removePartly d kept } :=
        ⟨same.initialized, same.machines, same.images, OnlyIn.removePartly _ _ _⟩
      exact quiet.unchanged unlisted
    · have files (other : ManagedDirectory) :
          (lib.volume.removePartly d kept).filesIn other = lib.volume.filesIn other := by
        by_cases here : other = d
        · rw [here]
          exact (filesIn_removePartly lib.volume d kept).mpr (all unlisted)
        · exact (OnlyIn.removePartly lib.volume d kept).1 other here
      exact ⟨same.machines, same.images, fun m _ => files _, fun i _ => files _⟩

/-- Removing a directory, forgetting its entry and persisting. -/
theorem traceless_removal {s : Library} (forget : Library → Library) (same : Quiet d lib s)
    (volume : s.volume = lib.volume) (ready : s.initialized = true)
    (forgets : ∀ t, (forget t).volume = t.volume ∧ (forget t).initialized = t.initialized)
    (unlisted : Unlisted d lib → ∀ t, Quiet d lib t → Quiet d lib (forget t))
    (listed : ¬ Unlisted d lib → ∀ t, Quiet d lib t → ¬ Unchanged lib (forget t)) :
    Traceless lib (do
      onVolume (removeIfPresent env.faults step d)
      Failing.change forget
      persist env) s ↔ (¬ Unlisted d lib → RemovalKeeps env.faults step d lib.volume) := by
  -- After the removal the entry is forgotten and saved; an unlisted directory has no entry.
  have gone (w : Volume) (files : OnlyIn d lib.volume w) :
      Traceless lib (do
        Failing.change forget
        persist env) { s with volume := w } ↔
        (¬ Unlisted d lib → env.faults .persist = none) := by
    have quiet : Quiet d lib { s with volume := w } :=
      ⟨same.initialized, same.machines, same.images, files⟩
    rw [traceless_of_ok _ ((Failing.change_eq_ok (u := ())).mpr rfl)]
    by_cases here : Unlisted d lib
    · have kept : Traceless lib (persist env) (forget { s with volume := w }) :=
        traceless_persist_of_unchanged ((unlisted here _ quiet).unchanged here)
      exact ⟨fun _ absent => absurd here absent, fun _ => kept⟩
    · rw [traceless_persist (listed here _ quiet), (forgets _).2]
      exact ⟨fun both _ => both.2, fun saved => ⟨ready, saved here⟩⟩
  have removal : removeIfPresent env.faults step d s.volume =
      if d ∈ lib.volume.directories then removeItem env.faults step d lib.volume
      else (.ok (), lib.volume) := by
    unfold removeIfPresent
    rw [Failing.bind_of_ok _ (Failing.getState_eq_ok.mpr ⟨rfl, rfl⟩), volume]
    split <;> rfl
  unfold RemovalKeeps
  -- Where the directory is absent nothing is removed, and the removal cannot fail.
  by_cases present : d ∈ lib.volume.directories
  · rw [if_pos present] at removal ⊢
    cases fault : env.faults step with
    | none =>
      have run : onVolume (removeIfPresent env.faults step d) s =
          (.ok (), { s with volume := lib.volume.removeDirectory d }) :=
        onVolume_eq_ok.mpr ⟨_, removal.trans (removeItem_eq_ok.mpr ⟨fault, rfl⟩), rfl⟩
      rw [traceless_of_ok _ run, gone _ (OnlyIn.removeDirectory _ _)]
    | some stopped =>
      have run : onVolume (removeIfPresent env.faults step d) s =
          (.error (.storage (.io stopped.message)),
            { s with volume := s.volume.removePartly d stopped.kept }) := by
        unfold onVolume
        rw [removal]
        simp only [removeItem, fault, volume]
      rw [← unchanged_removePartly same volume stopped.kept, traceless_bind]
      refine ⟨fun both => both.1 _ _ run, fun kept => ⟨fun e t failed => ?_, fun u t done => ?_⟩⟩
      · rw [run] at failed
        cases failed
        exact kept
      · rw [run] at done
        cases done
  · rw [if_neg present] at removal ⊢
    have run : onVolume (removeIfPresent env.faults step d) s =
        (.ok (), { s with volume := lib.volume }) :=
      onVolume_eq_ok.mpr ⟨_, removal, rfl⟩
    rw [traceless_of_ok _ run, gone _ (OnlyIn.refl _)]

end Removal

section Operations

variable {env : Environment} {lib : Library}

private theorem append_ne {α : Type} (xs : List α) (x : α) : xs ++ [x] ≠ xs := by
  intro same
  have lengths := congrArg List.length same
  simp at lengths

private theorem filter_ne_of_mem {α β : Type} [DecidableEq β] {key : α → β} {xs : List α} {b : β}
    (member : ∃ x ∈ xs, key x = b) : xs.filter (fun x => decide (key x ≠ b)) ≠ xs := by
  obtain ⟨x, member, rfl⟩ := member
  intro same
  have kept := List.filter_eq_self.mp same x member
  simp at kept

private theorem filter_eq_of_notMem {α β : Type} [DecidableEq β] {key : α → β} {xs : List α} {b : β}
    (apart : ∀ x ∈ xs, key x ≠ b) : xs.filter (fun x => decide (key x ≠ b)) = xs :=
  List.filter_eq_self.mpr fun x member => decide_eq_true (apart x member)

theorem unlisted_machine {id : UUID} :
    Unlisted (.machine id) lib ↔ ∀ m ∈ lib.app.machines, m.id ≠ id := by
  simp [Unlisted]

theorem unlisted_image {id : UUID} : Unlisted (.image id) lib ↔ ∀ i ∈ lib.images, i.id ≠ id := by
  simp [Unlisted]

theorem Fresh.unlistedMachine (fresh : Fresh env lib) : Unlisted (.machine env.machineID) lib :=
  unlisted_machine.mpr fresh.machine

theorem Fresh.unlistedImage (fresh : Fresh env lib) : Unlisted (.image env.imageID) lib :=
  unlisted_image.mpr fresh.image

/-- Creating files, appending an entry for them and persisting: the entry stays if only
`persist` fails. -/
theorem traceless_append {α : Type} {d : ManagedDirectory} {x : Store α} {s : Library}
    (append : α → Library → Library) (keeps : Keeps (OnlyIn d) x) (apart : Unlisted d lib)
    (quiet : Quiet d lib s) (ready : s.initialized = true)
    (leaves : ∀ a t, (append a t).initialized = t.initialized)
    (appends : ∀ a t, Quiet d lib t → ¬ Unchanged lib (append a t)) :
    Traceless lib (do
      let a ← onVolume x
      Failing.change (append a)
      persist env) s ↔ (x.Succeeds s.volume → env.faults .persist = none) := by
  have early : Traceless lib (onVolume x) s :=
    traceless_of_quiet (keeps_onVolume keeps) apart (quiet.unchanged apart)
  have late (a : α) (t : Library) (run : onVolume x s = (.ok a, t)) :
      Traceless lib (do
        Failing.change (append a)
        persist env) t ↔ env.faults .persist = none := by
    have moved := keeps_onVolume keeps s
    rw [run] at moved
    have reached := Quiet.trans d _ _ _ quiet moved
    rw [traceless_of_ok _ ((Failing.change_eq_ok (u := ())).mpr rfl),
      traceless_persist (appends a t reached), leaves, reached.initialized, ← quiet.initialized]
    simp [ready]
  rw [traceless_bind]
  constructor
  · rintro ⟨_, rest⟩ succeeds
    obtain ⟨a, t, run⟩ := onVolume_succeeds.mpr succeeds
    exact (late a t run).mp (rest a t run)
  · intro saved
    exact ⟨early, fun a t run => (late a t run).mpr (saved (onVolume_succeeds.mp ⟨a, t, run⟩))⟩

private theorem importContents_succeeds {source : SourceFile} {v : Volume} :
    (importContents env source).Succeeds v ↔ ImportsFile env.faults source env.imageID v ∧
      env.faults .inspectImage = none ∧ env.faults .hashImage = none := by
  unfold importContents
  rw [← importFile_succeeds]
  refine Failing.succeeds_bind_const fun _ _ => ?_
  simp [Failing.succeeds_bind]

private theorem importContents_onlyIn (source : SourceFile) :
    Keeps (OnlyIn (.image env.imageID)) (importContents env source) :=
  OnlyIn.keeps_bind (importFile_onlyIn env.faults source env.imageID) fun _ =>
    OnlyIn.keeps_bind (OnlyIn.keeps_attempt _ _ fun v => OnlyIn.refl v) fun _ =>
    OnlyIn.keeps_bind (OnlyIn.keeps_attempt _ _ fun v => OnlyIn.refl v) fun _ =>
    OnlyIn.keeps_pure _

theorem traceless_addOCIReference {reference : String} {architecture : GuestArchitecture} :
    Traceless lib (addOCIReference env reference architecture) lib ↔
      (trimmed reference ≠ "" → lib.initialized = true ∧ env.faults .persist = none) := by
  unfold addOCIReference
  rw [traceless_require (Unchanged.refl lib)]
  refine imp_congr (by simp) ?_
  rw [traceless_of_ok _ ((Failing.change_eq_ok (u := ())).mpr rfl), traceless_then_pure]
  exact traceless_persist fun same => append_ne _ _ same.2.1

theorem traceless_importImage (fresh : Fresh env lib) {source : SourceFile}
    {operatingSystem : GuestOperatingSystem} {architecture : GuestArchitecture}
    {artifactKind : ImageArtifactKind} :
    Traceless lib (importImage env source operatingSystem architecture artifactKind) lib ↔
      (lib.initialized = true → ImportsFile env.faults source env.imageID lib.volume →
        env.faults .inspectImage = none → env.faults .hashImage = none →
        env.faults .persist = none) := by
  have apart := fresh.unlistedImage
  have same := Unchanged.refl lib
  have discards : Keeps (OnlyIn (.image env.imageID))
      (Storage.removeImage env.faults env.imageID) := OnlyIn.keeps_removeIfPresent _ _ _
  unfold importImage
  rw [traceless_of_ok _ (Failing.getState_eq_ok.mpr ⟨rfl, rfl⟩), traceless_require same]
  refine imp_congr_right fun ready => ?_
  rw [traceless_discarding discards apart]
  have appended : Traceless lib (importInto env source operatingSystem architecture
      artifactKind) lib ↔ ((importContents env source).Succeeds lib.volume →
        env.faults .persist = none) :=
    traceless_append (fun destination lib => lib.withImage (importedImage env source
        operatingSystem architecture artifactKind (source.contents.getD []) destination))
      (importContents_onlyIn source) apart (Quiet.refl lib) ready (fun _ _ => rfl)
      fun a t quiet unchanged => append_ne _ _ (unchanged.2.1.trans quiet.images.symm)
  rw [traceless_then_pure, appended, importContents_succeeds, and_imp, and_imp]

theorem traceless_cloneMachine (fresh : Fresh env lib) {machine : Machine} :
    Traceless lib (cloneMachine env machine) lib ↔
      (lib.admits machine → ClonesFiles env.faults machine env.machineID lib.volume →
        env.faults .persist = none) := by
  have apart := fresh.unlistedMachine
  have same := Unchanged.refl lib
  unfold cloneMachine Library.admits
  rw [traceless_presenting, traceless_of_ok _ (Failing.getState_eq_ok.mpr ⟨rfl, rfl⟩),
    traceless_require same, traceless_ensureMachineIdle same, and_imp]
  refine imp_congr_right fun ready => imp_congr_right fun _ => ?_
  have discards : Keeps (OnlyIn (.machine env.machineID))
      (removeMachine env.faults env.machineID) := OnlyIn.keeps_removeIfPresent _ _ _
  rw [traceless_discarding discards apart, ← cloneFiles_succeeds]
  exact traceless_append (fun (files : MachineDisk × BackendStateReference) (lib : Library) =>
      lib.withMachines fun machines => machines ++
        [machine.cloned env.machineID env.hardwareUUID files.1 files.2 env.now])
    (cloneFiles_onlyIn env.faults machine env.machineID env.diskID) apart
    ⟨rfl, rfl, rfl, OnlyIn.refl _⟩ ready (fun _ _ => rfl)
    fun a t quiet unchanged => append_ne _ _ (unchanged.1.trans quiet.machines.symm)

theorem traceless_deleteMachine {machine : Machine} :
    Traceless lib (deleteMachine env machine) lib ↔
      (lib.admits machine → (∃ m ∈ lib.app.machines, m.id = machine.id) →
        RemovalKeeps env.faults .removeMachineDirectory (.machine machine.id) lib.volume) := by
  have same := Unchanged.refl lib
  unfold deleteMachine Library.admits
  rw [traceless_presenting, traceless_of_ok _ (Failing.getState_eq_ok.mpr ⟨rfl, rfl⟩),
    traceless_require same, traceless_ensureMachineIdle same, and_imp]
  refine imp_congr_right fun ready => imp_congr_right fun _ => ?_
  have listed : ¬ Unlisted (.machine machine.id) lib ↔ ∃ m ∈ lib.app.machines, m.id = machine.id := by
    simp [unlisted_machine]
  rw [← listed]
  refine traceless_removal (fun lib => lib.forgetMachine machine.id)
    ⟨rfl, rfl, rfl, OnlyIn.refl _⟩ rfl ready (fun t => ⟨rfl, rfl⟩) (fun unlisted t quiet => ⟨quiet.initialized, ?_, quiet.images, quiet.volume⟩)
    fun here t quiet => ?_
  · show t.app.machines.filter _ = lib.app.machines
    rw [quiet.machines]
    exact filter_eq_of_notMem (unlisted_machine.mp unlisted)
  · intro unchanged
    refine filter_ne_of_mem (listed.mp here) (Eq.trans ?_ unchanged.1)
    show _ = t.app.machines.filter _
    rw [quiet.machines]

theorem traceless_removeImage {image : MachineImage} :
    Traceless lib (removeImage env image) lib ↔
      (lib.initialized = true → lib.imageRemovalRefused image = none →
        (∃ i ∈ lib.images, i.id = image.id) →
        RemovalKeeps env.faults .removeImageDirectory (.image image.id) lib.volume) := by
  have same := Unchanged.refl lib
  unfold removeImage
  rw [traceless_presenting, traceless_of_ok _ (Failing.getState_eq_ok.mpr ⟨rfl, rfl⟩),
    traceless_require same]
  refine imp_congr_right fun ready => ?_
  have listed : ¬ Unlisted (.image image.id) lib ↔ ∃ i ∈ lib.images, i.id = image.id := by
    simp [unlisted_image]
  cases refused : lib.imageRemovalRefused image with
  | some error =>
    refine ⟨fun _ admitted => (by cases admitted), fun _ => ?_⟩
    intro e t run
    cases run
    exact same
  | none =>
    simp only [forall_const]
    -- The removal is that of a directory, with the entry among the images.
    rw [traceless_of_ok _ ((Failing.change_eq_ok (u := ())).mpr rfl), ← listed]
    refine traceless_removal (fun lib => lib.forgetImage image.id)
      ⟨rfl, rfl, rfl, OnlyIn.refl _⟩ rfl ready (fun t => ⟨rfl, rfl⟩)
      (fun unlisted t quiet => ⟨quiet.initialized, quiet.machines, ?_, quiet.volume⟩)
      fun here t quiet => ?_
    · show t.images.filter _ = lib.images
      rw [quiet.images]
      exact filter_eq_of_notMem (unlisted_image.mp unlisted)
    · intro unchanged
      refine filter_ne_of_mem (listed.mp here) (Eq.trans ?_ unchanged.2.1)
      show _ = t.images.filter _
      rw [quiet.images]

end Operations

section Creation

variable {env : Environment} {lib : Library} {d : ManagedDirectory} {α β : Type}

private theorem quiet_bind {x : LibraryAction α} {f : α → LibraryAction β}
    (first : Keeps (Quiet d) x) (second : ∀ a, Keeps (Quiet d) (f a)) :
    Keeps (Quiet d) (x >>= f) := Keeps.bind (Quiet.trans d) first second

private theorem quiet_getState : Keeps (Quiet d) (Failing.getState : LibraryAction Library) :=
  Keeps.getState Quiet.refl

private theorem quiet_throw (e : LibraryError) : Keeps (Quiet d) (throw e : LibraryAction α) :=
  Keeps.throw Quiet.refl e

private theorem quiet_pure (a : α) : Keeps (Quiet d) (pure a : LibraryAction α) :=
  Keeps.pure Quiet.refl a

private theorem quiet_require (condition : Bool) (error : LibraryError) :
    Keeps (Quiet d) (require condition error) := by
  unfold require
  split
  · exact quiet_pure _
  · exact quiet_throw _

private theorem quiet_attempt (step : Step) {change : Volume → Volume}
    (moves : ∀ v, OnlyIn d v (change v)) :
    Keeps (Quiet d) (onVolume (attempt env.faults step change)) :=
  keeps_onVolume (OnlyIn.keeps_attempt env.faults step moves)

private theorem quiet_availableURL (image : MachineImage) :
    Keeps (Quiet d) (availableURL image) := by
  unfold availableURL
  split
  · exact keeps_onVolume (OnlyIn.keeps_resolve _)
  · exact quiet_throw _

private theorem quiet_checkDraft (draft : MachineDraft) :
    Keeps (Quiet d) (checkDraft env draft) := by
  refine quiet_bind quiet_getState fun lib => quiet_bind (quiet_require _ _) fun _ =>
    quiet_bind (quiet_require _ _) fun _ => quiet_bind (quiet_require _ _) fun _ =>
    quiet_bind (quiet_require _ _) fun _ => quiet_bind (quiet_require _ _) fun _ => ?_
  split
  · exact quiet_throw _
  · exact quiet_pure _

private theorem quiet_chooseBackend (draft : MachineDraft) (image : MachineImage) :
    Keeps (Quiet d) (chooseBackend env draft image) := by
  have tools : Keeps (Quiet d) (supportTools env draft image) := by
    unfold supportTools
    split
    · exact quiet_attempt _ OnlyIn.refl
    · exact quiet_pure _
  have resolves : Keeps (Quiet d) (resolveBackend image) := by
    unfold resolveBackend
    split
    · exact quiet_throw _
    · exact quiet_pure _
  exact quiet_bind (quiet_require _ _) fun _ => quiet_bind (quiet_require _ _) fun _ =>
    quiet_bind tools fun _ => quiet_bind resolves fun _ =>
    quiet_bind (quiet_require _ _) fun _ => quiet_pure _

private theorem quiet_baseDisk (image : MachineImage) : Keeps (Quiet d) (baseDisk image) := by
  unfold baseDisk
  split
  · exact quiet_bind (quiet_availableURL image) fun _ => quiet_pure _
  · exact quiet_pure _

/-- A location of the machine that is being created. -/
private theorem quiet_writeFile (step : Step) (l : Location) (data : Data)
    (inside : l.directory = d) : Keeps (Quiet d) (onVolume (writeFile env.faults step l data)) :=
  inside ▸ keeps_onVolume (OnlyIn.keeps_writeFile env.faults step l data)

private theorem onlyIn_removeFiles (file : String → Location)
    (inside : ∀ name, (file name).directory = d) (names : List String) (v : Volume) :
    OnlyIn d v (names.foldl (fun v name => v.removeFile (file name)) v) := by
  induction names generalizing v with
  | nil => exact OnlyIn.refl v
  | cons name rest ih =>
    exact OnlyIn.trans d _ _ _ (inside name ▸ OnlyIn.removeFile v (file name)) (ih _)

private theorem quiet_installBootAssets {file : String → Location}
    (inside : ∀ name, (file name).directory = d) (commandLine : String) (kernel : Data)
    (initialRamdisk : Option Data) :
    Keeps (Quiet d) (installBootAssets env file commandLine kernel initialRamdisk) := by
  refine quiet_bind (quiet_writeFile _ _ _ (inside _)) fun _ => ?_
  cases initialRamdisk with
  | none => exact quiet_writeFile _ _ _ (inside _)
  | some data => exact quiet_bind (quiet_writeFile _ _ _ (inside _)) fun _ =>
      quiet_writeFile _ _ _ (inside _)

private theorem quiet_prepareBootProfile (profile : LinuxBootProfile) {file : String → Location}
    (inside : ∀ name, (file name).directory = d) :
    Keeps (Quiet d) (prepareBootProfile env profile file) := by
  have ramdisk (destination : Location) (here : destination.directory = d) :
      Keeps (Quiet d) (initialRamdisk env profile destination) := by
    unfold initialRamdisk
    split
    · exact quiet_bind (quiet_writeFile _ _ _ here) fun _ => quiet_pure _
    · exact quiet_pure _
  refine quiet_bind (quiet_attempt _ OnlyIn.refl) fun _ => ?_
  refine Keeps.deferring (Quiet.trans d) ?_ (Keeps.ignoring (quiet_attempt _
    (onlyIn_removeFiles file inside _)))
  exact quiet_bind (quiet_writeFile _ _ _ (inside _)) fun _ =>
    quiet_bind (quiet_writeFile _ _ _ (inside _)) fun _ =>
    quiet_bind (ramdisk _ (inside _)) fun initrd =>
    quiet_installBootAssets inside _ _ _

private theorem quiet_provisionImage (image : MachineImage) {disk : Location}
    (inside : disk.directory = d) : Keeps (Quiet d) (provisionImage env image disk) := by
  unfold provisionImage
  split
  · exact quiet_bind (quiet_availableURL image) fun archive => quiet_writeFile _ _ _ inside
  · exact quiet_writeFile _ _ _ inside
  · exact quiet_throw _
  · exact quiet_pure _

private theorem quiet_provisionLinuxDisk (draft : MachineDraft) (image : MachineImage)
    {disk : Location} {file : String → Location} (inside : disk.directory = d)
    (files : ∀ name, (file name).directory = d) :
    Keeps (Quiet d) (provisionLinuxDisk env draft image disk file) := by
  refine quiet_bind quiet_getState fun lib => ?_
  split
  · exact quiet_throw _
  · exact quiet_bind (quiet_require _ _) fun _ => quiet_bind (quiet_attempt _ OnlyIn.refl) fun _ =>
      quiet_bind (quiet_attempt _ fun v => inside ▸ OnlyIn.removeFile v disk) fun _ =>
      quiet_bind (quiet_provisionImage image inside) fun _ =>
      quiet_bind (quiet_prepareBootProfile _ files) fun _ =>
      quiet_bind (quiet_attempt _ OnlyIn.refl) fun _ =>
      quiet_bind quiet_getState fun _ => quiet_pure _

private theorem quiet_provisionedCapacity (draft : MachineDraft) (image : MachineImage)
    (backend : VirtualizationBackendKind) (capacityBytes : UInt64) :
    Keeps (Quiet (.machine env.machineID))
      (provisionedCapacity env draft image backend capacityBytes) := by
  unfold provisionedCapacity
  split
  · exact quiet_provisionLinuxDisk draft image rfl fun _ => rfl
  · exact quiet_pure _

/-- However `finishMachine` fails, dropping the new entry restores the list. -/
private theorem finishMachine_error {draft : MachineDraft} {image : MachineImage}
    {backend : VirtualizationBackendKind} {files : MachineDisk × BackendStateReference}
    {s t : Library} {e : LibraryError} (fresh : ∀ m ∈ s.app.machines, m.id ≠ env.machineID)
    (run : finishMachine env draft image backend files s = (.error e, t)) :
    Quiet (.machine env.machineID) s
      (t.withMachines fun machines => machines.filter fun m => m.id ≠ env.machineID) := by
  have dropped (u : Library) (quiet : Quiet (.machine env.machineID) s u) :
      Quiet (.machine env.machineID) s
        (u.withMachines fun machines => machines.filter fun m => m.id ≠ env.machineID) := by
    refine ⟨quiet.initialized, ?_, quiet.images, quiet.volume⟩
    show u.app.machines.filter _ = _
    rw [quiet.machines]
    exact filter_eq_of_notMem fresh
  have resolves (path : String) : Keeps (Quiet (.machine env.machineID))
      (onVolume (resolve path)) := keeps_onVolume (OnlyIn.keeps_resolve path)
  unfold finishMachine at run
  rcases Failing.bind_error run with failed | ⟨_, u, disk, run⟩
  · exact dropped t ((resolves _).of_run failed)
  have toDisk := (resolves _).of_run disk
  rcases Failing.bind_error run with failed | ⟨_, v, state, run⟩
  · exact dropped t (Quiet.trans _ _ _ _ toDisk ((resolves _).of_run failed))
  have toState := Quiet.trans _ _ _ _ toDisk ((resolves _).of_run state)
  have capacities : Keeps (Quiet (.machine env.machineID))
      (provisionedCapacity env draft image backend files.1.capacityBytes) :=
    quiet_provisionedCapacity draft image backend files.1.capacityBytes
  rcases Failing.bind_error run with failed | ⟨capacity, w, provisioned, run⟩
  · exact dropped t (Quiet.trans _ _ _ _ toState (capacities.of_run failed))
  have quiet := Quiet.trans _ _ _ _ toState (capacities.of_run provisioned)
  -- Only `persist` is left; the state it fails in has the new entry at its end.
  rw [Failing.bind_of_ok _ ((Failing.change_eq_ok (u := ())).mpr rfl)] at run
  rw [persist_error run]
  refine ⟨quiet.initialized, ?_, quiet.images, quiet.volume⟩
  show (w.app.machines ++ [newMachine env draft image backend
    { files.1 with capacityBytes := capacity } files.2]).filter _ = _
  rw [quiet.machines, List.filter_append, filter_eq_of_notMem fresh]
  simp [newMachine]

private theorem traceless_quiet_bind {x : LibraryAction α} {f : α → LibraryAction β} {s : Library}
    (apart : Unlisted d lib) (quiet : Quiet d lib s) (keeps : Keeps (Quiet d) x)
    (rest : ∀ a t, Quiet d lib t → Traceless lib (f a) t) : Traceless lib (x >>= f) s :=
  traceless_bind.mpr ⟨traceless_of_quiet keeps apart (quiet.unchanged apart),
    fun a t run => rest a t (Quiet.trans d _ _ _ quiet (keeps.of_run run))⟩

/-- `createMachine` takes back what it did, whichever step fails. -/
theorem traceless_createMachine (fresh : Fresh env lib) (draft : MachineDraft) :
    Traceless lib (createMachine env draft) lib := by
  have apart := fresh.unlistedMachine
  refine traceless_quiet_bind apart (Quiet.refl lib) (quiet_checkDraft draft) fun image s first =>
    traceless_quiet_bind apart first (quiet_chooseBackend draft image) fun backend t second =>
    traceless_quiet_bind apart second (quiet_baseDisk image) fun base u third =>
    traceless_quiet_bind apart third (keeps_onVolume (createFiles_onlyIn env.faults env.machineID
      env.diskID draft.diskSizeBytes backend image.operatingSystem base)) fun files v quiet => ?_
  have freshHere : ∀ m ∈ v.app.machines, m.id ≠ env.machineID := by
    rw [quiet.machines]
    exact fresh.machine
  intro e w run
  cases finished : finishMachine env draft image backend files v with
  | mk result x =>
    cases result with
    | ok a =>
      have created := Failing.bind_of_ok (fun _ => (pure env.machineID : LibraryAction UUID)) finished
      rw [Failing.tryCatch_of_ok _ created] at run
      cases run
    | error d =>
      have created := Failing.bind_of_error (fun _ => (pure env.machineID : LibraryAction UUID))
        finished
      rw [Failing.tryCatch_of_error _ created] at run
      have restored := Quiet.trans _ _ _ _ quiet (finishMachine_error freshHere finished)
      have removes : Keeps (Quiet (.machine env.machineID))
          (onVolume (removeMachine env.faults env.machineID)) :=
        keeps_onVolume (OnlyIn.keeps_removeIfPresent _ _ _)
      cases run
      exact (Quiet.trans _ _ _ _ restored (removes _)).unchanged apart

end Creation

/-- **Failed library operations.** When `operation` reports an error, the lists and the files
of everything they list are those from before, exactly under the condition `Compensated`. -/
theorem leavesNoTrace_iff (env : Environment) (operation : LibraryOperation) (lib : Library)
    (fresh : Fresh env lib) :
    LeavesNoTrace env operation lib ↔ Compensated env lib operation := by
  have reported {α : Type} (outcome : Except LibraryError α × Library) :
      (∀ error after, reportedError outcome = (some error, after) → Unchanged lib after) ↔
      ∀ error after, outcome = (.error error, after) → Unchanged lib after := by
    obtain ⟨result, t⟩ := outcome
    cases result with
    | ok a => simp [reportedError]
    | error e => simp [reportedError]
  cases operation with
  | createMachine draft =>
    exact ⟨fun _ => trivial, fun _ => (reported _).mpr (traceless_createMachine fresh draft)⟩
  | cloneMachine machine => exact (reported _).trans (traceless_cloneMachine fresh)
  | importImage source operatingSystem architecture artifactKind =>
    exact (reported _).trans (traceless_importImage fresh)
  | addOCIReference reference architecture => exact (reported _).trans traceless_addOCIReference
  | deleteMachine machine => exact (reported _).trans traceless_deleteMachine
  | removeImage image => exact (reported _).trans traceless_removeImage

/-- Nothing fails but the last step. -/
def unsaved : Environment where
  faults step := if step = .persist then some { message := "The disk is full." } else none
  output _ := []
  sha256 _ := ""
  minimumAllowedCPUCount := 1
  maximumAllowedCPUCount := 8
  minimumAllowedMemorySize := 4194304
  maximumAllowedMemorySize := 17179869184
  now := 0
  machineID := ⟨1⟩
  diskID := ⟨2⟩
  hardwareUUID := ⟨3⟩
  imageID := ⟨4⟩

def alpineInstaller : MachineImage where
  id := ⟨9⟩
  name := "alpine"
  architecture := .arm64
  artifactKind := .installerISO
  origin := .localImport "alpine.iso"
  availability := .available "Images/alpine.iso"

def stockedLibrary : Library where
  app := { machines := [] }
  images := [alpineInstaller]

def alpineDraft : MachineDraft where
  name := "Alpine"
  cpuCount := 2
  memorySizeBytes := 8388608
  diskSizeBytes := 512
  imageID := ⟨9⟩

private theorem fresh_stocked : Fresh unsaved stockedLibrary where
  machine _ member := by cases member
  image i member := by
    rw [List.mem_singleton.mp member]
    decide

theorem leavesNoTrace_unsaved :
    ((LibraryOperation.createMachine alpineDraft).run unsaved stockedLibrary).1 =
        some (.storage (.io "The disk is full.")) ∧
      LeavesNoTrace unsaved (.createMachine alpineDraft) stockedLibrary :=
  ⟨by decide +kernel, (leavesNoTrace_iff unsaved _ stockedLibrary fresh_stocked).mpr trivial⟩

/-- The reference that could not be saved is reported as an error and listed all the same. -/
theorem unsaved_reference_is_listed :
    Fresh unsaved stockedLibrary ∧
      ¬ LeavesNoTrace unsaved (.addOCIReference "alpine" .arm64) stockedLibrary := by
  refine ⟨fresh_stocked, fun traceless => ?_⟩
  have named : trimmed "alpine" ≠ "" := by decide +kernel
  have run : LibraryOperation.run unsaved (.addOCIReference "alpine" .arm64) stockedLibrary =
      (some (.storage (.io "The disk is full.")),
        stockedLibrary.withImage (ociImage unsaved (trimmed "alpine") .arm64)) := by
    simp only [LibraryOperation.run, addOCIReference]
    rw [Failing.bind_of_ok _ (require_of_true (decide_eq_true named))]
    rfl
  have images := (traceless _ _ run).2.1
  exact append_ne _ _ images

end SimpleVM.App
