import SimpleVM.App.Restoration
import SimpleVM.App.SettingsIsolation

/-!
# The persisted library catches up

`persist` captures the lists and waits for the store, and nothing orders the saves that wait.
`library.json` ends up with what is in memory in every run in which the save asked for last is
not overtaken by an older one, `initialize` runs once at a time, and nothing changes the lists
without a `persist` to follow.
-/
namespace SimpleVM.App.Session

open Domain Effects Storage Transition

/-- The saves that wait for the store, the one asked for last first. -/
def pendingSaves (calls : List Call) : List LibrarySnapshot :=
  calls.filterMap fun c => if c.response.isNone then savedBy c.work else none

/-- The snapshot has the machines and images in memory. -/
def Captures (s : Session) (snapshot : LibrarySnapshot) : Prop :=
  snapshot.machines = s.app.machines ∧ snapshot.images = s.images

/-- Once no `persist` is pending or still to come, `library.json` has what is in memory. -/
def CaughtUp (s : Session) : Prop :=
  s.initialized = true → pendingSaves s.calls = [] → ¬ s.Owing → s.Captures s.volume.library

/-- What keeps the library up with the memory. -/
def Orderly (s : Session) : SessionEvent → Prop
  | .call (.initializeModel _) =>
    s.initialized = false → ∀ c ∈ s.calls, isRestoring c.next = false
  | .call _ | .runtimeChanges _ _ => True
  -- no save fails, and the one asked for last is executed after the older ones
  | .work index faults outside => ∀ call snapshot, s.calls[index]? = some call →
      call.response = none → savedBy call.work = some snapshot →
      (∃ answer, (perform faults outside s.volume call.work).1 = .ok answer) ∧
      (pendingSaves (s.calls.take index) = [] → pendingSaves (s.calls.drop (index + 1)) = [])
  | .resume index => ∀ call response, s.calls[index]? = some call →
      call.response = some response → ¬ s.Stray response call.next
  -- a report arrives while its download, which persists the record later, is in flight
  | .progress imageID _ => s.image imageID = none ∨
      ∃ c ∈ s.calls, ∃ task destination, c.next = .downloaded imageID task destination

/-- What `library.json` will have when the save asked for last has been executed. -/
def latest (s : Session) : LibrarySnapshot := (pendingSaves s.calls).headD s.volume.library

/-- One call restores the library at most, and only before the stores are set. After that the
save asked for last has what is in memory, unless more is owed. -/
structure Persisting (s : Session) (owed : Prop) : Prop where
  unready : s.initialized = false → pendingSaves s.calls = []
  restoring : ∀ c ∈ s.calls, isRestoring c.next = true →
    s.initialized = false ∧ Restores s.volume c
  alone : s.calls.Pairwise fun a b => isRestoring a.next = true → isRestoring b.next = false
  current : s.initialized = true → owed ∨ s.Owing ∨ s.Captures s.latest

variable {s t : Session} {work : Work} {next : Next} {response : Response} {index : Nat}
  {owed stray : Prop}

theorem symm_alone (a b : Call) (alone : isRestoring a.next = true → isRestoring b.next = false)
    (restores : isRestoring b.next = true) : isRestoring a.next = false := by
  cases own : isRestoring a.next with
  | false => rfl
  | true =>
    rw [alone own] at restores
    cases restores

section Pending

theorem pendingSaves_append (new calls : List Call) :
    pendingSaves (new ++ calls) = pendingSaves new ++ pendingSaves calls := List.filterMap_append

theorem pendingSaves_plain {new : List Call} (plain : ∀ c ∈ new, isPlain c = true) :
    pendingSaves new = [] := by
  apply List.filterMap_eq_nil_iff.mpr
  intro c member
  rw [savesNothing_of_plain (plain c member), ite_self]

theorem Suspends.pending (suspends : Suspends s t) : pendingSaves t.calls = pendingSaves s.calls := by
  obtain ⟨new, calls, plain⟩ := suspends.calls
  rw [calls, pendingSaves_append, pendingSaves_plain plain, List.nil_append]

theorem Suspends.latest (suspends : Suspends s t) : t.latest = s.latest := by
  unfold Session.latest
  rw [suspends.pending, suspends.volume]

/-- A call that goes on waits for no save. -/
theorem pendingSaves_erase {call : Call} (found : s.calls[index]? = some call)
    (answered : call.response.isSome = true) :
    pendingSaves (s.calls.eraseIdx index) = pendingSaves s.calls := by
  have none_ : pendingSaves [call] = [] := by
    cases answer : call.response <;> simp [pendingSaves, answer] at answered ⊢
  have all := congrArg pendingSaves (split_at found)
  rw [← List.singleton_append, pendingSaves_append, pendingSaves_append, none_] at all
  rw [all, List.eraseIdx_eq_take_drop_succ, pendingSaves_append, List.nil_append]

/-- The answer to one call leaves the saves of the others. -/
theorem pendingSaves_set {call : Call} (found : s.calls[index]? = some call) (answered : Call)
    (done : answered.response.isSome = true) :
    pendingSaves (s.calls.set index answered) =
      pendingSaves (s.calls.take index) ++ pendingSaves (s.calls.drop (index + 1)) := by
  have none_ : pendingSaves [answered] = [] := by
    cases answer : answered.response <;> simp [pendingSaves, answer] at done ⊢
  rw [set_split found, ← List.singleton_append, pendingSaves_append, pendingSaves_append, none_,
    List.nil_append]

end Pending

section Steps

theorem Suspends.restoring (suspends : Suspends s t) : ∀ c ∈ t.calls,
    isRestoring c.next = true → c ∈ s.calls := by
  obtain ⟨new, calls, plain⟩ := suspends.calls
  intro c member restores
  rw [calls] at member
  rcases List.mem_append.mp member with late | early
  · rw [live_of_plain (plain c late)] at restores
    cases restores
  · exact early

/-- Plain calls in front keep the calls of `initialize` apart. -/
theorem Suspends.alone (suspends : Suspends s t)
    (alone : s.calls.Pairwise fun a b => isRestoring a.next = true → isRestoring b.next = false) :
    t.calls.Pairwise fun a b => isRestoring a.next = true → isRestoring b.next = false := by
  obtain ⟨new, calls, plain⟩ := suspends.calls
  rw [calls]
  refine List.pairwise_append.mpr ⟨?_, alone, fun a member _ _ restores => ?_⟩
  · exact List.pairwise_of_forall_mem_list fun _ _ b member _ => live_of_plain (plain b member)
  · rw [live_of_plain (plain a member)] at restores
    cases restores

theorem Persisting.suspends (persisting : s.Persisting owed) (suspends : Suspends s t)
    (current : t.initialized = true → t.Owing ∨ t.Captures t.latest) : t.Persisting False where
  unready unready := by
    rw [suspends.pending]
    exact persisting.unready (suspends.initialized.symm.trans unready)
  restoring c member restores := by
    rw [suspends.initialized, suspends.volume]
    exact persisting.restoring c (suspends.restoring c member restores) restores
  alone := suspends.alone persisting.alone
  current ready := .inr (current ready)

/-- The last save captures what is in memory. -/
theorem Persisting.persist (persisting : s.Persisting owed) (ready : s.initialized = true)
    (live : isRestoring next = false) :
    (s.suspend (.save s.snapshot) next).Persisting False where
  unready unready := by
    rw [show s.initialized = false from unready] at ready
    cases ready
  restoring c member restores := by
    rcases List.mem_cons.mp member with rfl | rest
    · rw [live] at restores
      cases restores
    · exact persisting.restoring c rest restores
  alone := by
    refine List.pairwise_cons.mpr ⟨fun _ _ restores => ?_, persisting.alone⟩
    rw [live] at restores
    cases restores
  current _ := .inr (.inr ⟨rfl, rfl⟩)

theorem Persisting.outcome (persisting : s.Persisting owed) (outcome : Outcome s t owed stray)
    (certain : ¬ stray) : t.Persisting False := by
  cases outcome with
  | quiet suspends same free =>
    refine persisting.suspends suspends fun ready => ?_
    have images : t.images = s.images := congrArg LibrarySnapshot.images same
    have machines : t.app.machines = s.app.machines := congrArg LibrarySnapshot.machines same
    rcases persisting.current (suspends.initialized.symm.trans ready) with own | owing | current
    · exact absurd own free
    · exact .inl (owing.mono images suspends.kept)
    · refine .inr ?_
      rw [suspends.latest]
      exact ⟨current.1.trans machines.symm, current.2.trans images.symm⟩
  | owing suspends owes => exact persisting.suspends suspends fun _ => .inl owes
  | persisted u next before ready live after same =>
    -- between the two the change is owed, whatever it is
    have between : u.Persisting True := {
      unready := fun unready => by rw [unready] at ready; cases ready
      restoring := fun c member restores => by
        rw [before.initialized, before.volume]
        exact persisting.restoring c (before.restoring c member restores) restores
      alone := before.alone persisting.alone
      current := fun _ => .inl trivial }
    refine (between.persist ready live).suspends after fun _ => .inr ?_
    rw [after.latest]
    exact ⟨(congrArg LibrarySnapshot.machines same).symm,
      (congrArg LibrarySnapshot.images same).symm⟩
  | refused suspends unready =>
    refine persisting.suspends suspends fun ready => ?_
    rw [suspends.initialized, unready] at ready
    cases ready
  | astray suspends unsaved => exact absurd unsaved certain

/-- A call that has been taken out may owe a change. -/
theorem Persisting.takeOut (persisting : s.Persisting False)
    (found : s.calls[index]? = some ⟨work, next, some response⟩) :
    ({ s with calls := s.calls.eraseIdx index } : Session).Persisting (s.Owes next) where
  unready unready := (pendingSaves_erase found rfl).trans (persisting.unready unready)
  restoring c member := persisting.restoring c (mem_of_mem_eraseIdx member)
  alone := persisting.alone.sublist (List.eraseIdx_sublist _ _)
  current ready := by
    have same : ({ s with calls := s.calls.eraseIdx index } : Session).latest = s.latest := by
      simp only [latest, pendingSaves_erase found rfl]
    rw [same]
    rcases persisting.current ready with own | ⟨c, member, owes⟩ | current
    · exact own.elim
    · rcases List.mem_cons.mp ((mem_takeOut found c).mpr member) with rfl | rest
      · exact .inl owes
      · exact .inr (.inl ⟨c, rest, owes.of_images rfl⟩)
    · exact .inr (.inr current)

/-- Another step of `initialize` is begun while none is in flight. -/
theorem Persisting.restore (persisting : s.Persisting owed) (unready : s.initialized = false)
    (idle : ∀ c ∈ s.calls, isRestoring c.next = false) (plain : savedBy work = none)
    (restores : Restores s.volume ⟨work, next, none⟩) :
    (s.suspend work next).Persisting False where
  unready _ := by
    have rest := persisting.unready unready
    simpa [pendingSaves, suspend, plain] using rest
  restoring c member restoring := by
    rcases List.mem_cons.mp member with rfl | rest
    · exact ⟨unready, restores⟩
    · rw [idle c rest] at restoring
      cases restoring
  alone := List.pairwise_cons.mpr ⟨fun c member _ => idle c member, persisting.alone⟩
  current ready := by
    rw [show s.initialized = true from ready] at unready
    cases unready

/-- `initialize` ends before it has set the stores. -/
theorem Persisting.stop (persisting : s.Persisting owed) (unready : s.initialized = false)
    (suspends : Suspends s t) : t.Persisting False := by
  refine persisting.suspends suspends fun ready => ?_
  rw [suspends.initialized, unready] at ready
  cases ready

/-- `initialize` goes on, and owes what it has changed when it has set the stores. -/
theorem Persisting.restoration (persisting : s.Persisting owed) (unready : s.initialized = false)
    (idle : ∀ c ∈ s.calls, isRestoring c.next = false) (restoration : Restoration s t) :
    t.Persisting False := by
  -- The restoration ends, goes on, or lists the library and owes a save where the lists differ.
  cases restoration with
  | stops initialized volume calls _ _ =>
    exact persisting.stop unready (.same initialized volume calls)
  | continues work next suspends restoring restores =>
    rw [suspends]
    exact persisting.restore unready idle (restores.savesNothing restoring) restores
  | finishes snapshot same lists images ready volume calls =>
    constructor
    · intro unready
      rw [ready] at unready
      cases unready
    · intro c member restores
      rw [calls] at member
      rcases List.mem_cons.mp member with rfl | rest
      · cases restores
      · rw [idle c rest] at restores
        cases restores
    · rw [calls]
      exact List.pairwise_cons.mpr ⟨fun c member _ => idle c member, persisting.alone⟩
    · intro _
      have waiting : pendingSaves t.calls = [] := by
        have rest := persisting.unready unready
        simpa [pendingSaves, calls, savedBy] using rest
      have last : t.latest = snapshot := by
        rw [latest, waiting, volume, same]
        rfl
      rw [last]
      -- `toolsChecked` persists exactly when the lists are not those of the file.
      by_cases unchanged : t.images = snapshot.images ∧ t.app.machines = snapshot.machines
      · exact .inr (.inr ⟨unchanged.2.symm, unchanged.1.symm⟩)
      · have owes : t.Owes (.toolsChecked snapshot t.app.machines) :=
          Classical.not_and_iff_not_or_not.mp unchanged
        refine .inr (.inl ⟨⟨.outside, .toolsChecked snapshot t.app.machines, none⟩, ?_, owes⟩)
        rw [calls]
        exact List.mem_cons_self

/-- The saves that wait before and after a call. -/
theorem pendingSaves_split (found : s.calls[index]? = some ⟨work, next, none⟩) :
    pendingSaves s.calls = pendingSaves (s.calls.take index) ++
      ((savedBy work).toList ++ pendingSaves (s.calls.drop (index + 1))) := by
  have all := congrArg pendingSaves (split_at found)
  rw [← List.singleton_append, pendingSaves_append, pendingSaves_append] at all
  rw [all]
  cases saves : savedBy work <;> simp [pendingSaves, saves]

/-- The save asked for last is still waiting, or has just been executed. -/
theorem latest_work {faults : Faults} {outside : Response}
    (found : s.calls[index]? = some ⟨work, next, none⟩)
    (orderly : s.Orderly (.work index faults outside)) :
    ({ s with
      volume := (perform faults outside s.volume work).2
      calls := s.calls.set index ⟨work, next, some (perform faults outside s.volume work).1⟩ } :
        Session).latest = s.latest := by
  have rest := pendingSaves_set found ⟨work, next,
    some (perform faults outside s.volume work).1⟩ rfl
  unfold Session.latest
  rw [rest, pendingSaves_split found]
  cases saves : savedBy work with
  | none =>
    rw [perform_library saves]
    rfl
  | some snapshot =>
    obtain ⟨⟨answer, ok⟩, inOrder⟩ := orderly _ snapshot found rfl saves
    cases newer : pendingSaves (s.calls.take index) with
    | cons newest _ => rfl
    | nil =>
      have written : work = .save snapshot := by
        cases work <;> simp [savedBy] at saves
        rw [saves]
      subst written
      rw [inOrder newer, perform_save ok]
      rfl

/-- The answer to a call leaves the calls of `initialize` and what is owed. -/
theorem Persisting.perform {faults : Faults} {outside : Response} (persisting : s.Persisting False)
    (orderly : s.Orderly (.work index faults outside))
    (done : s.work index faults outside = some t) : t.Persisting False := by
  unfold Session.work at done
  split at done
  next work next found =>
    have old : ⟨work, next, none⟩ ∈ s.calls := List.mem_of_getElem? found
    have last := latest_work found orderly
    cases done
    constructor
    · intro unready
      have before := persisting.unready unready
      rw [pendingSaves_split found] at before
      simp only [List.append_eq_nil_iff] at before
      rw [pendingSaves_set found _ rfl, before.1, before.2.2]
      rfl
    · intro c member restoring
      have before : s.initialized = false ∧ Restores s.volume c := by
        rcases List.mem_or_eq_of_mem_set member with kept | rfl
        · exact persisting.restoring c kept restoring
        · obtain ⟨unready, restores⟩ := persisting.restoring _ old restoring
          exact ⟨unready, restores.answered faults outside⟩
      -- During the restoration nothing is saved, so the file stays as it was read.
      have saves : savedBy work = none := by
        have none_ := persisting.unready before.1
        rw [pendingSaves_split found] at none_
        simp only [List.append_eq_nil_iff, Option.toList_eq_nil_iff] at none_
        exact none_.2.1
      exact ⟨before.1, before.2.of_library (perform_library saves)⟩
    · have alone : (s.calls.map fun c => c.next).Pairwise fun a b =>
          isRestoring a = true → isRestoring b = false := List.pairwise_map.mpr persisting.alone
      rw [← map_set_of_eq (f := fun c => c.next) found ⟨work, next,
        some (App.perform faults outside s.volume work).1⟩ rfl] at alone
      exact List.pairwise_map.mp alone
    · intro ready
      -- The latest save is what the file will hold; doing one piece of work does not change it.
      rcases persisting.current ready with own | ⟨c, member, owes⟩ | current
      · exact own.elim
      · refine .inr (.inl ?_)
        rcases mem_set_of_mem found ⟨work, next,
          some (App.perform faults outside s.volume work).1⟩ member with ⟨rfl, changed⟩ | kept
        · exact ⟨_, changed, owes.of_images rfl⟩
        · exact ⟨c, kept, owes.of_images rfl⟩
      · refine .inr (.inr ?_)
        rw [last]
        exact current
  · cases done

theorem Persisting.resume (persisting : s.Persisting False) (orderly : s.Orderly (.resume index))
    (taken : s.resume index = some t) : t.Persisting False := by
  unfold Session.resume at taken
  split at taken
  next work next response found =>
    cases taken
    have rest := persisting.takeOut found
    cases restoring : isRestoring next with
    | true =>
      have own := persisting.restoring _ (List.mem_of_getElem? found) restoring
      have apart := (pairwise_takeOut symm_alone found persisting.alone).1
      have step : Restoration { s with calls := s.calls.eraseIdx index } _ :=
        goOn_restoration restoring own.2
      exact rest.restoration own.1 (fun c member => apart c member restoring) step
    | false =>
      have certain := orderly _ response found rfl
      exact rest.outcome (goOn_outcome restoring) certain
  · cases taken

/-- A report of a download that is in flight is persisted when the download ends. -/
theorem Persisting.progress {imageID : UUID} {phase : DownloadPhase}
    (persisting : s.Persisting False) (orderly : s.Orderly (.progress imageID phase)) :
    (s.recordPhase imageID phase).Persisting False := by
  rcases orderly with unknown | ⟨c, member, task, destination, isDownloading⟩
  · simp only [recordPhase, unknown]
    exact persisting
  · refine persisting.suspends recordPhase_suspends fun _ => .inl ⟨c, ?_, ?_⟩
    · exact recordPhase_suspends.kept c member
    · rw [isDownloading]
      trivial

/-- Step lemma: an orderly step keeps the library in line with the memory. -/
theorem Persisting.step {event : SessionEvent} (persisting : s.Persisting False)
    (orderly : s.Orderly event) (taken : s.step event = some t) : t.Persisting False := by
  unfold Session.step at taken
  split at taken
  · cases taken
  · cases event with
    | work index faults outside => exact persisting.perform orderly taken
    | resume index => exact persisting.resume orderly taken
    | runtimeChanges id state =>
      cases taken
      exact persisting.outcome runtimeChanges_outcome not_false
    | progress imageID phase =>
      cases taken
      exact persisting.progress orderly
    | call request =>
      cases taken
      cases request with
      | initializeModel fixture =>
        simp only [Session.request, initializeModel]
        split
        · exact persisting
        next ready =>
          have ready : s.initialized = false := Bool.eq_false_iff.mpr ready
          have cleared : ({ s with app := { s.app with errorMessage := none } } :
              Session).Persisting False := persisting.stop ready (.same rfl rfl rfl)
          have loads : Restores s.volume ⟨.load, .libraryLoaded fixture, none⟩ :=
            ⟨rfl, fun _ loaded => by cases loaded⟩
          exact cleared.restore ready (orderly ready) rfl loads
      | _ => exact persisting.outcome (request_outcome (by simp)) not_false

theorem Persisting.caughtUp (persisting : s.Persisting False) : s.CaughtUp := by
  intro ready waiting free
  rcases persisting.current ready with own | owing | current
  · exact own.elim
  · exact absurd owing free
  · simpa only [latest, waiting, List.headD_nil] using current

/-- `library.json` catches up in every run in which nothing overtakes the save asked for last. -/
theorem library_catches_up (s : Session) (events : List SessionEvent) (idle : s.calls = [])
    (saved : s.initialized = true → s.Captures s.volume.library)
    (orderly : Meets step Orderly s events) : Always step CaughtUp s events := by
  refine always_of_meets (I := fun s => s.Persisting False) (V := fun _ => True) ?_ ?_ s events ?_
    (fun _ _ => trivial) orderly
  · intro s event t persisting _ orderly taken
    exact persisting.step orderly taken
  · intro s persisting
    exact persisting.caughtUp
  · constructor
    · simp [pendingSaves, idle]
    · simp [idle]
    · simp [idle]
    · intro ready
      have last : s.latest = s.volume.library := by simp [latest, pendingSaves, idle]
      rw [last]
      exact .inr (.inr (saved ready))

end Steps

/-- A library with one machine, as it has been saved. -/
def savedMachine : Session where
  initialized := true
  app := { machines := [stoppedMachine] }
  volume := { metadata := some { machines := [stoppedMachine], images := [] } }

/-- Two edits of a setting, whose saves are executed in the order they were asked for. -/
theorem edits_saved_in_order :
    Always step CaughtUp savedMachine [.call (.setInputProfile .macOSGNOME stoppedMachine),
      .call (.setInputProfile .macOSWindows stoppedMachine), .work 1 (fun _ => none) (.ok .returns),
      .work 0 (fun _ => none) (.ok .returns)] := by
  apply library_catches_up
  · rfl
  · exact fun _ => ⟨rfl, rfl⟩
  · apply Meets.next rfl trivial
    apply Meets.next rfl trivial
    apply Meets.next rfl
    · intro call snapshot found _ _
      cases found
      exact ⟨⟨_, rfl⟩, fun newer => by cases newer⟩
    · apply Meets.next rfl
      · intro call snapshot found _ _
        cases found
        exact ⟨⟨_, rfl⟩, fun _ => rfl⟩
      · trivial

/-- The store executes the save of the second edit first, and `library.json` keeps the first. -/
theorem older_save_written_last : ¬ ∀ s events, s.calls = [] →
    (s.initialized = true → s.Captures s.volume.library) → Always step CaughtUp s events := by
  intro always
  let noFaults : Faults := fun _ => none
  have caught := always savedMachine [.call (.setInputProfile .macOSGNOME stoppedMachine),
    .call (.setInputProfile .macOSWindows stoppedMachine), .work 0 noFaults (.ok .returns),
    .work 1 noFaults (.ok .returns), .resume 1, .resume 0] rfl (fun _ => ⟨rfl, rfl⟩)
  have last := (((((caught.2 _ rfl).2 _ rfl).2 _ rfl).2 _ rfl).2 _ rfl).2 _ rfl
  have own := last rfl rfl fun ⟨_, member, _⟩ => by cases member
  exact absurd own.1 (by decide)

end SimpleVM.App.Session
