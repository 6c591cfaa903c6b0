import SimpleVM.Images.ImageDownloadClient
import SimpleVM.Transition.Run

/-!
# Cancelled downloads

`download` cut at the steps of its closure, with the cancellation handler, which may run between
any two of them, and the session that goes on meanwhile. A cancelled transfer ends with an error,
if the handler found it.
-/
namespace SimpleVM.Images

open Transition

variable {Content : Type}

/-- How far the closure of a call has come: the task is created, its context is registered, the
box holds it, it is resumed. -/
inductive CallPhase
  | entered | created | registered | boxed | resumed
deriving DecidableEq, Repr

/-- The box holds the task. -/
def CallPhase.isBoxed : CallPhase → Bool
  | .boxed | .resumed => true
  | .entered | .created | .registered => false

structure DownloadCall where
  destinationURL : String
  expectedSHA256 : String
  phase : CallPhase := .entered
  /-- The identifier of the task, once it is registered. -/
  task : Option Nat := none
  /-- The caller was cancelled before the file was verified. -/
  cancelled : Bool := false
  /-- The task of the session was cancelled. -/
  taskCancelled : Bool := false
deriving DecidableEq, Repr

/-- The file has passed its verification. -/
def Stage.passed : Stage Content → Bool
  | .removingDestination | .movingToDestination | .finishing (.ok _) => true
  | _ => false

structure Downloads (Content : Type) where
  client : Client Content
  calls : List DownloadCall

inductive CallEvent (Content : Type)
  | call (destinationURL expectedSHA256 : String)
  /-- The closure of a call takes its next step. -/
  | proceed (index : Nat)
  /-- The task of a caller is cancelled, and the handler runs. -/
  | cancel (index : Nat)
  | session (event : DownloadEvent Content)
deriving DecidableEq, Repr

namespace Downloads

/-- The closure takes its next step. -/
def advance (lowercased : String → String) (digest : Content → String) (s : Downloads Content)
    (index : Nat) (call : DownloadCall) : Option (Downloads Content) :=
  match call.phase with
  | .entered => some { s with calls := s.calls.set index { call with phase := .created } }
  | .created =>
    (s.client.step lowercased digest (.download call.destinationURL call.expectedSHA256)).map
      fun client => {
        client := client
        calls := s.calls.set index { call with
          phase := .registered
          task := some s.client.nextTask } }
  | .registered => some { s with calls := s.calls.set index { call with phase := .boxed } }
  | .boxed => some { s with calls := s.calls.set index { call with phase := .resumed } }
  | .resumed => none

/-- The file of the call has been verified. -/
def isVerified (s : Downloads Content) (call : DownloadCall) : Bool :=
  match s.client.delegate with
  | some callback => decide (call.task = some callback.task) && callback.stage.passed
  | none => false

/-- The call has returned. -/
def hasReturned (s : Downloads Content) (call : DownloadCall) : Bool :=
  match call.task with
  | some task => (s.client.contexts task).isNone
  | none => false

/-- `onCancel`: an empty box cancels nothing. -/
def handleCancel (s : Downloads Content) (index : Nat) (call : DownloadCall) :
    Downloads Content :=
  { s with calls := s.calls.set index { call with
      cancelled := call.cancelled || !s.isVerified call
      taskCancelled := call.taskCancelled || call.phase.isBoxed } }

/-- The session serves tasks that were resumed, and ends those that were cancelled. -/
def serves (s : Downloads Content) : DownloadEvent Content → Bool
  | .download _ _ => false
  | .proceeds _ => true
  | .writesData task | .finishesDownloading task _ _ =>
    s.calls.any fun call => decide (call.task = some task ∧ call.phase = .resumed)
  | .completes task _ =>
    s.calls.any fun call =>
      decide (call.task = some task ∧ (call.phase = .resumed ∨ call.taskCancelled = true))

def step (lowercased : String → String) (digest : Content → String) (s : Downloads Content) :
    CallEvent Content → Option (Downloads Content)
  | .call destinationURL expectedSHA256 =>
    some { s with calls := s.calls ++
      [{ destinationURL := destinationURL, expectedSHA256 := expectedSHA256 }] }
  | .proceed index =>
    match s.calls[index]? with
    | some call => s.advance lowercased digest index call
    | none => none
  | .cancel index =>
    match s.calls[index]? with
    | some call => if s.hasReturned call then none else some (s.handleCancel index call)
    | none => none
  | .session event =>
    if s.serves event then
      (s.client.step lowercased digest event).map fun client => { s with client := client }
    else none

/-- What cancellation promises of a state: the task of a call whose closure is over is
cancelled, the call does not return a file, and it throws when the session ends the task. -/
structure Stops (s : Downloads Content) : Prop where
  task : ∀ call ∈ s.calls, call.cancelled = true → call.phase = .resumed →
    call.taskCancelled = true
  throws : ∀ call ∈ s.calls, call.cancelled = true → ∀ task, call.task = some task →
    ∀ outcome ∈ s.client.resumed, outcome.task = task → ∃ error, outcome.result = .error error
  returns : ∀ call ∈ s.calls, call.cancelled = true → ∀ task, call.task = some task →
    task ∈ s.client.completed → ∃ outcome ∈ s.client.resumed, outcome.task = task

/-- No file is installed for a call that was cancelled before. -/
def InstallsNothing (s : Downloads Content) (event : CallEvent Content)
    (_ : Downloads Content) : Prop :=
  event = .session (.proceeds none) → ∀ callback, s.client.delegate = some callback →
    callback.stage = .movingToDestination → ∀ call ∈ s.calls, call.task = some callback.task →
      call.cancelled = false

/-- The handler finds the task in its box, and no file that arrives all the same passes its
verification. -/
def Timely (digest : Content → String) (s : Downloads Content) : CallEvent Content → Prop
  | .cancel index => ∀ call, s.calls[index]? = some call → call.phase.isBoxed = true
  | .session (.proceeds none) => ∀ callback, s.client.delegate = some callback →
    callback.stage = .hashing → ∀ file,
      s.client.files (partialURL callback.context.destinationURL) = some file →
        digest file.content = callback.context.expectedSHA256 →
          ∀ call ∈ s.calls, call.task = some callback.task → call.cancelled = false
  | _ => True

end Downloads

variable {lowercased : String → String} {digest : Content → String}

namespace Client

/-- A context is in the table until its continuation is resumed. -/
structure Serving (s : Client Content) : Prop where
  known : ∀ task, (s.contexts task).isSome = true → task < s.nextTask
  running : ∀ callback, s.delegate = some callback →
    s.contexts callback.task = some callback.context
  received : ∀ task context, s.contexts task = some context → context.receivedFile = true →
    ∃ callback, s.delegate = some callback ∧ callback.task = task
  waiting : ∀ outcome ∈ s.resumed, outcome.task < s.nextTask ∧ s.contexts outcome.task = none
  answered : ∀ task < s.nextTask, s.contexts task = none →
    ∃ outcome ∈ s.resumed, outcome.task = task
  completed : ∀ task ∈ s.completed, task < s.nextTask ∧ s.contexts task = none

variable {s t : Client Content} {callback : Callback Content} {task : Nat}

/-- What a step of the callback does to the table: the callback goes on, or it ends. -/
structure GoesOn (s t : Client Content) (callback next : Callback Content) : Prop where
  delegate : t.delegate = some next
  task : next.task = callback.task
  contexts : ∀ other, t.contexts other =
    if other = callback.task then some next.context else s.contexts other
  rest : t.resumed = s.resumed ∧ t.completed = s.completed ∧ t.nextTask = s.nextTask

/-- The callback goes on, passing verification only in the step that compares the digests, or it
finishes. -/
theorem proceed_cases {failure : Option String} (known : s.contexts callback.task =
    some callback.context) (taken : s.proceed digest callback failure = some t) :
    (∃ next, GoesOn s t callback next ∧
      (next.stage.passed = true → callback.stage.passed = true ∨
        callback.stage = .hashing ∧ failure = none ∧
          ∃ file, s.files (partialURL callback.context.destinationURL) = some file ∧
            digest file.content = callback.context.expectedSHA256)) ∨
      ∃ result, callback.stage = .finishing result ∧
        t = { s with delegate := none }.finish callback.task result := by
  -- Most stages only move the callback on: the contexts and what is waited for stay.
  have moves : ∀ (u : Client Content) (stage : Stage Content), u.contexts = s.contexts →
      u.resumed = s.resumed → u.completed = s.completed → u.nextTask = s.nextTask →
        GoesOn s (u.goTo callback stage) callback { callback with stage := stage } := by
    intro u stage contexts resumed completed nextTask
    refine ⟨rfl, rfl, fun other => ?_, resumed, completed, nextTask⟩
    simp only [Client.goTo, contexts]
    split
    · rename_i same
      rw [same, known]
    · rfl
  obtain ⟨task, context, stage⟩ := callback
  unfold proceed at taken
  cases stage with
  | creatingDirectory location =>
    left
    cases failure with
    | none =>
      cases taken
      exact ⟨_, moves s _ rfl rfl rfl rfl, by intros; contradiction⟩
    | some message =>
      cases taken
      exact ⟨_, moves s _ rfl rfl rfl rfl, by intros; contradiction⟩
  | removingPartial location =>
    left
    simp only at taken
    split at taken
    · cases taken
      exact ⟨_, moves s _ rfl rfl rfl rfl, by intros; contradiction⟩
    · cases taken
      exact ⟨_, moves (s.setFile _ none) _ rfl rfl rfl rfl, by intros; contradiction⟩
    · cases taken
      exact ⟨_, moves s _ rfl rfl rfl rfl, by intros; contradiction⟩
  | movingToPartial location =>
    left
    cases failure with
    | none =>
      simp only at taken
      split at taken
      · contradiction
      · cases taken
        refine ⟨_, ⟨rfl, rfl, fun other => ?_, rfl, rfl, rfl⟩, by intros; contradiction⟩
        simp only [Client.goTo, Client.setContext, Client.setFile]
    | some message =>
      cases taken
      exact ⟨_, moves s _ rfl rfl rfl rfl, by intros; contradiction⟩
  | hashing =>
    left
    cases failure with
    | none =>
      simp only at taken
      split at taken
      · contradiction
      · rename_i file found
        split at taken
        · rename_i right
          cases taken
          -- The one step that makes a callback pass: the digest of the file just read is right.
          exact ⟨_, moves s _ rfl rfl rfl rfl, fun _ => .inr ⟨rfl, rfl, file, found, right⟩⟩
        · cases taken
          exact ⟨_, moves s _ rfl rfl rfl rfl, by intros; contradiction⟩
    | some message =>
      cases taken
      exact ⟨_, moves s _ rfl rfl rfl rfl, by intros; contradiction⟩
  | rejecting actual =>
    left
    cases taken
    refine ⟨_, moves _ _ ?_ ?_ ?_ ?_, by intros; contradiction⟩
    all_goals split <;> rfl
  | removingDestination =>
    left
    simp only at taken
    split at taken
    · cases taken
      exact ⟨_, moves s _ rfl rfl rfl rfl, fun _ => .inl rfl⟩
    · cases taken
      exact ⟨_, moves (s.setFile _ none) _ rfl rfl rfl rfl, fun _ => .inl rfl⟩
    · cases taken
      exact ⟨_, moves s _ rfl rfl rfl rfl, fun _ => .inl rfl⟩
  | movingToDestination =>
    left
    cases failure with
    | none =>
      simp only at taken
      split at taken
      · rename_i file found empty
        cases taken
        exact ⟨_, moves ((s.setFile _ none).setFile _ (some file)) _ rfl rfl rfl rfl,
          fun _ => .inl rfl⟩
      · contradiction
    | some message =>
      cases taken
      exact ⟨_, moves s _ rfl rfl rfl rfl, fun _ => .inl rfl⟩
  | finishing result =>
    right
    cases taken
    exact ⟨result, rfl, rfl⟩

/-- With no callback running, a continuation is resumed once its context is taken out. -/
theorem Serving.finish (known : ∀ task, (s.contexts task).isSome = true → task < s.nextTask)
    (idle : s.delegate = none)
    (received : ∀ other context, s.contexts other = some context → context.receivedFile = true →
      other = task)
    (waiting : ∀ outcome ∈ s.resumed, outcome.task < s.nextTask ∧
      s.contexts outcome.task = none)
    (answered : ∀ task < s.nextTask, s.contexts task = none →
      ∃ outcome ∈ s.resumed, outcome.task = task)
    (completed : ∀ task ∈ s.completed, task < s.nextTask ∧ s.contexts task = none)
    (result : Except ImageDownloadError String) : (s.finish task result).Serving := by
  unfold Client.finish
  -- A task without a context was resumed before; one with a context is resumed here and loses it.
  cases held : s.contexts task with
  | none =>
    refine ⟨known, ?_, ?_, waiting, answered, completed⟩
    · intro callback running
      rw [idle] at running
      cases running
    · intro other context there file
      have same := received other context there file
      rw [same, held] at there
      cases there
  | some context =>
    have below : task < s.nextTask := known task (by rw [held]; rfl)
    refine ⟨?_, ?_, ?_, ?_, ?_, ?_⟩
    · intro other there
      simp only [Client.setContext] at there ⊢
      split at there
      · cases there
      · exact known other there
    · intro callback running
      simp only [Client.setContext, idle] at running
      cases running
    · intro other context there file
      simp only [Client.setContext] at there
      split at there
      · cases there
      · rename_i different
        exact absurd (received other context there file) different
    · intro outcome member
      simp only [Client.setContext] at member ⊢
      rcases List.mem_cons.mp member with rfl | member
      · exact ⟨below, by simp⟩
      · obtain ⟨known, gone⟩ := waiting outcome member
        refine ⟨known, ?_⟩
        split
        · rfl
        · exact gone
    -- Every other task without a context has its outcome already; this one's has just been
    -- recorded.
    · intro other small gone
      simp only [Client.setContext] at gone ⊢
      split at gone
      · rename_i same
        exact ⟨_, List.mem_cons_self, same.symm⟩
      · obtain ⟨outcome, member, isOther⟩ := answered other small gone
        exact ⟨outcome, List.mem_cons_of_mem _ member, isOther⟩
    · intro other member
      obtain ⟨small, gone⟩ := completed other member
      refine ⟨small, ?_⟩
      simp only [Client.setContext]
      split
      · rfl
      · exact gone

theorem GoesOn.serving {next : Callback Content} (goes : GoesOn s t callback next)
    (serving : s.Serving) (running : s.delegate = some callback) : t.Serving := by
  obtain ⟨resumed, completed, nextTask⟩ := goes.rest
  have own := serving.running callback running
  have below := serving.known callback.task (by rw [own]; rfl)
  -- The callback's own context is there, so a task that has lost its context is another one.
  have absent {other : Nat} (gone : s.contexts other = none) : t.contexts other = none := by
    rw [goes.contexts, if_neg]
    · exact gone
    · rintro rfl
      rw [own] at gone
      cases gone
  refine ⟨?_, ?_, ?_, ?_, ?_, ?_⟩
  · intro other there
    rw [goes.contexts] at there
    rw [nextTask]
    split at there
    · rename_i same
      rw [same]
      exact below
    · exact serving.known other there
  · intro now isNow
    rw [goes.delegate] at isNow
    cases isNow
    rw [goes.contexts, if_pos goes.task]
  · intro other context there file
    rw [goes.contexts] at there
    refine ⟨next, goes.delegate, ?_⟩
    split at there
    · rename_i same
      rw [goes.task, same]
    · obtain ⟨now, isNow, same⟩ := serving.received other context there file
      rw [running] at isNow
      cases isNow
      rw [goes.task, same]
  · intro outcome member
    rw [resumed] at member
    obtain ⟨small, gone⟩ := serving.waiting outcome member
    rw [nextTask]
    exact ⟨small, absent gone⟩
  · intro other small gone
    rw [nextTask] at small
    rw [goes.contexts] at gone
    rw [resumed]
    split at gone
    · cases gone
    · exact serving.answered other small gone
  · intro other member
    rw [completed] at member
    obtain ⟨small, gone⟩ := serving.completed other member
    rw [nextTask]
    exact ⟨small, absent gone⟩

/-- A task whose call cannot succeed any more. -/
structure Stopped (s : Client Content) (task : Nat) : Prop where
  known : task < s.nextTask
  unverified : ∀ callback, s.delegate = some callback → callback.task = task →
    callback.stage.passed = false
  throws : ∀ outcome ∈ s.resumed, outcome.task = task → ∃ error, outcome.result = .error error

/-- Resuming with an error, or the continuation of another task, changes nothing. -/
theorem Stopped.finish {other : Nat} {result : Except ImageDownloadError String}
    (stopped : s.Stopped task) (fails : other = task → ∃ error, result = .error error) :
    (s.finish other result).Stopped task := by
  unfold Client.finish
  split
  · exact stopped
  · refine ⟨stopped.known, stopped.unverified, fun outcome member own => ?_⟩
    rcases List.mem_cons.mp member with rfl | member
    · exact fails own
    · exact stopped.throws outcome member own

/-- The files of a task do not pass their verification in this step. -/
def Rejects (digest : Content → String) (s : Client Content) (task : Nat) :
    DownloadEvent Content → Prop
  | .proceeds none => ∀ callback, s.delegate = some callback → callback.stage = .hashing →
    ∀ file, s.files (partialURL callback.context.destinationURL) = some file →
      digest file.content = callback.context.expectedSHA256 → callback.task ≠ task
  | _ => True

theorem Serving.proceeds {failure : Option String} (serving : s.Serving)
    (taken : step lowercased digest s (.proceeds failure) = some t) :
    t.Serving ∧ ∀ task, s.Stopped task → s.Rejects digest task (.proceeds failure) →
      t.Stopped task := by
  simp only [step] at taken
  cases running : s.delegate with
  | none => simp [running] at taken
  | some callback =>
    rw [running] at taken
    have own := serving.running callback running
    -- Either the callback goes on, and passes only with a right digest, which a stopped task is
    -- refused by hypothesis, or it finishes.
    rcases proceed_cases own taken with ⟨next, goes, passes⟩ | ⟨result, finishing, rfl⟩
    · refine ⟨goes.serving serving running, fun task stopped rejects => ?_⟩
      obtain ⟨resumed, _, nextTask⟩ := goes.rest
      refine ⟨?_, ?_, ?_⟩
      · rw [nextTask]
        exact stopped.known
      · intro now isNow same
        rw [goes.delegate] at isNow
        cases isNow
        rw [goes.task] at same
        apply Bool.eq_false_iff.mpr
        intro passed
        rcases passes passed with before | ⟨hashing, rfl, file, found, right⟩
        · rw [stopped.unverified callback running same] at before
          contradiction
        · exact rejects callback running hashing file found right same
      · rw [resumed]
        exact stopped.throws
    · constructor
      · apply Serving.finish
        · exact serving.known
        · rfl
        · intro other context there file
          obtain ⟨now, isNow, same⟩ := serving.received other context there file
          rw [running] at isNow
          cases isNow
          exact same.symm
        · exact serving.waiting
        · exact serving.answered
        · exact serving.completed
      · intro task stopped _
        apply Stopped.finish
        · exact ⟨stopped.known, by intros; contradiction, stopped.throws⟩
        · intro same
          have unverified := stopped.unverified callback running same
          rw [finishing] at unverified
          cases result with
          | error error => exact ⟨error, rfl⟩
          | ok url => cases unverified

theorem Serving.download (serving : s.Serving) (destinationURL expectedSHA256 : String)
    (taken : step lowercased digest s (.download destinationURL expectedSHA256) = some t) :
    t.Serving ∧ t.nextTask = s.nextTask + 1 ∧ ∀ task, s.Stopped task → t.Stopped task := by
  simp only [Client.step, Option.some.injEq] at taken
  subst taken
  refine ⟨⟨?_, ?_, ?_, ?_, ?_, ?_⟩, rfl, ?_⟩
  · intro other there
    simp only [Client.setContext] at there ⊢
    split at there
    · omega
    · have below := serving.known other there
      omega
  · intro callback running
    have own := serving.running callback running
    have below := serving.known callback.task (by rw [own]; rfl)
    -- The new task's number is taken by none before it.
    have different : callback.task ≠ s.nextTask := by omega
    simp only [Client.setContext, different, if_false]
    exact own
  · intro other context there file
    simp only [Client.setContext] at there
    split at there
    · cases there
      cases file
    · exact serving.received other context there file
  · intro outcome member
    obtain ⟨small, gone⟩ := serving.waiting outcome member
    have different : outcome.task ≠ s.nextTask := by omega
    simp only [Client.setContext, different, if_false]
    exact ⟨by omega, gone⟩
  · intro other small gone
    simp only [Client.setContext] at small gone ⊢
    split at gone
    · cases gone
    · exact serving.answered other (by omega) gone
  · intro other member
    obtain ⟨small, gone⟩ := serving.completed other member
    have different : other ≠ s.nextTask := by omega
    simp only [Client.setContext, different, if_false]
    exact ⟨by omega, gone⟩
  · intro task stopped
    exact ⟨Nat.lt_succ_of_lt stopped.known, stopped.unverified, stopped.throws⟩

theorem received_not_passed (location : Content) (response : Response) :
    (received location response).passed = false := by
  unfold received
  split
  · rfl
  · split <;> rfl

/-- With no callback running, the end of a task always gives its call an error. -/
theorem Serving.complete_eq (serving : s.Serving) (idle : s.delegate = none) (task : Nat)
    (error : Option String) : ∃ thrown, s.complete task error = s.finish task (.error thrown) := by
  unfold Client.complete
  cases error with
  | some message => exact ⟨_, rfl⟩
  | none =>
    cases held : s.contexts task with
    | none =>
      refine ⟨.incompleteDownload, ?_⟩
      simp [Client.finish, held]
    | some context =>
      simp only
      split
      · rename_i file
        obtain ⟨callback, running, _⟩ := serving.received task context held file
        rw [idle] at running
        cases running
      · exact ⟨_, rfl⟩

theorem Serving.completes {error : Option String} (serving : s.Serving)
    (taken : step lowercased digest s (.completes task error) = some t) :
    t.Serving ∧ ∀ other, s.Stopped other → t.Stopped other := by
  simp only [Client.step] at taken
  split at taken
  · rename_i enabled
    obtain ⟨idle, below, _⟩ := enabled
    cases taken
    have none_ : s.delegate = none := by simpa using idle
    obtain ⟨thrown, ends⟩ := serving.complete_eq none_ task error
    rw [ends]
    have finished : (s.finish task (.error thrown)).Serving := by
      apply Serving.finish serving.known none_ _ serving.waiting serving.answered
        serving.completed
      intro other context there file
      obtain ⟨callback, running, _⟩ := serving.received other context there file
      rw [none_] at running
      cases running
    constructor
    -- The task now completed was resumed by then, here or by its callback.
    · refine { finished with completed := ?_ }
      intro other member
      rcases List.mem_cons.mp member with rfl | member
      · unfold Client.finish
        cases held : s.contexts other with
        | none => exact ⟨below, held⟩
        | some context => exact ⟨below, by simp [Client.setContext]⟩
      · apply finished.completed other
        unfold Client.finish
        split <;> exact member
    · intro other stopped
      have still : (s.finish task (.error thrown)).Stopped other :=
        stopped.finish fun _ => ⟨thrown, rfl⟩
      exact ⟨still.known, still.unverified, still.throws⟩
  · contradiction

theorem Serving.step {event : DownloadEvent Content} (serving : s.Serving)
    (taken : step lowercased digest s event = some t) :
    t.Serving ∧ ∀ task, s.Stopped task → s.Rejects digest task event → t.Stopped task := by
  cases event with
  | download destinationURL expectedSHA256 =>
    obtain ⟨serves, _, stops⟩ := serving.download destinationURL expectedSHA256 taken
    exact ⟨serves, fun task stopped _ => stops task stopped⟩
  | writesData task =>
    simp only [Client.step] at taken
    split at taken
    · cases taken
      exact ⟨serving, fun _ stopped _ => stopped⟩
    · contradiction
  | finishesDownloading task location response =>
    simp only [Client.step] at taken
    split at taken
    · rename_i enabled
      have idle : s.delegate = none := by simpa using enabled.1
      cases held : s.contexts task with
      | none =>
        simp only [held, Option.some.injEq] at taken
        subst taken
        exact ⟨serving, fun _ stopped _ => stopped⟩
      | some context =>
        simp only [held, Option.some.injEq] at taken
        subst taken
        refine ⟨{ serving with running := ?_, received := ?_ }, ?_⟩
        · intro callback running
          cases running
          exact held
        · intro other context there file
          obtain ⟨callback, running, _⟩ := serving.received other context there file
          rw [idle] at running
          cases running
        · intro other stopped _
          refine { stopped with unverified := ?_ }
          intro callback running _
          cases running
          exact received_not_passed location response
    · contradiction
  | proceeds failure => exact serving.proceeds taken
  | completes task error =>
    obtain ⟨serves, stops⟩ := serving.completes taken
    exact ⟨serves, fun other stopped _ => stops other stopped⟩

@[simp]
theorem finish_nextTask (s : Client Content) (task : Nat)
    (result : Except ImageDownloadError String) :
    (s.finish task result).nextTask = s.nextTask := by
  unfold Client.finish
  split <;> rfl

/-- Identifiers are not used again. -/
theorem Serving.nextTask_le {event : DownloadEvent Content} (serving : s.Serving)
    (taken : Client.step lowercased digest s event = some t) : s.nextTask ≤ t.nextTask := by
  cases event with
  | download destinationURL expectedSHA256 =>
    have grown := (serving.download destinationURL expectedSHA256 taken).2.1
    omega
  | writesData task =>
    simp only [Client.step] at taken
    split at taken
    · cases taken
      exact Nat.le_refl _
    · contradiction
  | finishesDownloading task location response =>
    simp only [Client.step] at taken
    split at taken
    · split at taken
      all_goals
        cases taken
        exact Nat.le_refl _
    · contradiction
  | proceeds failure =>
    simp only [Client.step] at taken
    cases running : s.delegate with
    | none => simp [running] at taken
    | some callback =>
      rw [running] at taken
      rcases proceed_cases (serving.running callback running) taken with ⟨_, goes, _⟩ |
        ⟨result, _, rfl⟩
      · exact Nat.le_of_eq goes.rest.2.2.symm
      · simp
  | completes task error =>
    simp only [Client.step] at taken
    split at taken
    · rename_i enabled
      have none_ : s.delegate = none := by simpa using enabled.1
      obtain ⟨thrown, ends⟩ := serving.complete_eq none_ task error
      rw [ends] at taken
      cases taken
      simp
    · contradiction

theorem create_serving (files : String → Option Content) : (create files).Serving where
  known := by
    intro task there
    cases there
  running := by
    intro callback running
    cases running
  received := by
    intro task context there
    cases there
  waiting := by
    intro outcome member
    cases member
  answered := by
    intro task small
    exact absurd small (Nat.not_lt_zero task)
  completed := by
    intro task member
    cases member

end Client

namespace Downloads

/-- The app before its first download. -/
def start (files : String → Option Content) : Downloads Content := ⟨Client.create files, []⟩

/-- A cancelled call has its task cancelled, and the client will not serve it. -/
structure Sound (s : Downloads Content) : Prop where
  serving : s.client.Serving
  tasks : ∀ call ∈ s.calls, ∀ task, call.task = some task → task < s.client.nextTask
  registered : ∀ call ∈ s.calls,
    call.task = none ↔ call.phase = .entered ∨ call.phase = .created
  cancelled : ∀ call ∈ s.calls, call.cancelled = true →
    call.taskCancelled = true ∧ ∃ task, call.task = some task ∧ s.client.Stopped task

variable {s t : Downloads Content} {event : CallEvent Content} {call : DownloadCall} {index : Nat}

theorem Sound.stops (sound : s.Sound) : s.Stops where
  task := fun call member cancelled _ => (sound.cancelled call member cancelled).1
  throws := by
    intro call member cancelled task own
    obtain ⟨_, other, isOther, stopped⟩ := sound.cancelled call member cancelled
    rw [own] at isOther
    cases isOther
    exact stopped.throws
  returns := by
    intro call member _ task own done
    obtain ⟨below, gone⟩ := sound.serving.completed task done
    exact sound.serving.answered task below gone

theorem Sound.installsNothing (sound : s.Sound) : s.InstallsNothing event t := by
  rintro rfl callback running moving call member own
  apply Bool.eq_false_iff.mpr
  intro cancelled
  obtain ⟨_, task, isTask, stopped⟩ := sound.cancelled call member cancelled
  rw [own] at isTask
  cases isTask
  have unverified := stopped.unverified callback running rfl
  rw [moving] at unverified
  contradiction

/-- One call changes, and the client with it. -/
theorem Sound.set (sound : s.Sound) {client : Client Content} {changed : DownloadCall}
    (serving : client.Serving) (grows : s.client.nextTask ≤ client.nextTask)
    (stops : ∀ task, s.client.Stopped task → client.Stopped task)
    (tasks : ∀ task, changed.task = some task → task < client.nextTask)
    (registered : changed.task = none ↔ changed.phase = .entered ∨ changed.phase = .created)
    (cancelled : changed.cancelled = true → changed.taskCancelled = true ∧
      ∃ task, changed.task = some task ∧ client.Stopped task) :
    Sound ⟨client, s.calls.set index changed⟩ where
  serving := serving
  tasks := by
    intro call member task own
    rcases List.mem_or_eq_of_mem_set member with member | rfl
    · have below := sound.tasks call member task own
      exact Nat.lt_of_lt_of_le below grows
    · exact tasks task own
  registered := by
    intro call member
    rcases List.mem_or_eq_of_mem_set member with member | rfl
    · exact sound.registered call member
    · exact registered
  cancelled := by
    intro call member isCancelled
    rcases List.mem_or_eq_of_mem_set member with member | rfl
    · obtain ⟨ended, task, own, stopped⟩ := sound.cancelled call member isCancelled
      exact ⟨ended, task, own, stops task stopped⟩
    · exact cancelled isCancelled

/-- A step of the closure. Only the context of a call that is not cancelled is registered: a
cancelled one has its task already. -/
theorem Sound.advance (sound : s.Sound) (found : s.calls[index]? = some call)
    (taken : s.advance lowercased digest index call = some t) : t.Sound := by
  have member := List.mem_of_getElem? found
  have tasks := sound.tasks call member
  have registered := sound.registered call member
  have cancelled := sound.cancelled call member
  unfold Downloads.advance at taken
  cases phase : call.phase with
  | entered =>
    rw [phase] at taken registered
    cases taken
    exact sound.set sound.serving (Nat.le_refl _) (fun _ stopped => stopped) tasks
      (by simp [registered]) cancelled
  | created =>
    rw [phase] at taken registered
    have none_ : call.task = none := by simp [registered]
    simp only [Option.map_eq_some_iff] at taken
    obtain ⟨client, begun, rfl⟩ := taken
    obtain ⟨serves, grown, stops⟩ := sound.serving.download _ _ begun
    apply sound.set serves
    · omega
    · exact stops
    · intro task own
      cases own
      omega
    · simp
    · intro isCancelled
      obtain ⟨_, task, own, _⟩ := cancelled isCancelled
      rw [none_] at own
      cases own
  | registered =>
    rw [phase] at taken registered
    cases taken
    exact sound.set sound.serving (Nat.le_refl _) (fun _ stopped => stopped) tasks
      (by simp [registered]) cancelled
  | boxed =>
    rw [phase] at taken registered
    cases taken
    exact sound.set sound.serving (Nat.le_refl _) (fun _ stopped => stopped) tasks
      (by simp [registered]) cancelled
  | resumed =>
    rw [phase] at taken
    cases taken

/-- The handler finds the task, unless the call cannot succeed any more. -/
theorem Sound.cancel (sound : s.Sound) (found : s.calls[index]? = some call)
    (waits : s.hasReturned call = false) (boxed : call.phase.isBoxed = true) :
    (s.handleCancel index call).Sound := by
  have member := List.mem_of_getElem? found
  have registered := sound.registered call member
  obtain ⟨task, own⟩ : ∃ task, call.task = some task := by
    cases known : call.task with
    | some task => exact ⟨task, rfl⟩
    | none =>
      rcases registered.mp known with phase | phase
      · rw [phase] at boxed
        contradiction
      · rw [phase] at boxed
        contradiction
  unfold handleCancel
  apply sound.set sound.serving (Nat.le_refl _) (fun _ stopped => stopped)
  · exact sound.tasks call member
  · exact registered
  · intro isCancelled
    simp only [Bool.or_eq_true, Bool.not_eq_true'] at isCancelled
    refine ⟨by simp [boxed], task, own, ?_⟩
    rcases isCancelled with before | unverified
    · obtain ⟨_, other, isOther, stopped⟩ := sound.cancelled call member before
      rw [own] at isOther
      cases isOther
      exact stopped
    · refine ⟨sound.tasks call member task own, ?_, ?_⟩
      · intro callback running same
        simpa [isVerified, running, own, same] using unverified
      · intro outcome resumed same
        have gone := (sound.serving.waiting outcome resumed).2
        simp [hasReturned, own, ← same, gone] at waits

theorem Sound.step (sound : s.Sound) (timely : s.Timely digest event)
    (taken : step lowercased digest s event = some t) : t.Sound := by
  cases event with
  | call destinationURL expectedSHA256 =>
    cases taken
    refine ⟨sound.serving, ?_, ?_, ?_⟩
    · intro call member task own
      rcases List.mem_append.mp member with member | fresh
      · exact sound.tasks call member task own
      · rw [List.mem_singleton.mp fresh] at own
        cases own
    · intro call member
      rcases List.mem_append.mp member with member | fresh
      · exact sound.registered call member
      · rw [List.mem_singleton.mp fresh]
        simp
    · intro call member cancelled
      rcases List.mem_append.mp member with member | fresh
      · exact sound.cancelled call member cancelled
      · rw [List.mem_singleton.mp fresh] at cancelled
        cases cancelled
  | proceed index =>
    simp only [Downloads.step] at taken
    split at taken
    · rename_i call found
      exact sound.advance found taken
    · contradiction
  | cancel index =>
    simp only [Downloads.step] at taken
    split at taken
    · rename_i call found
      split at taken
      · contradiction
      · rename_i waits
        cases taken
        exact sound.cancel found (by simpa using waits) (timely call found)
    · contradiction
  | session event =>
    simp only [Downloads.step] at taken
    split at taken
    · obtain ⟨client, stepped, rfl⟩ := Option.map_eq_some_iff.mp taken
      obtain ⟨serves, stops⟩ := sound.serving.step stepped
      refine ⟨serves, ?_, sound.registered, ?_⟩
      · intro call member task own
        have below := sound.tasks call member task own
        exact Nat.lt_of_lt_of_le below (sound.serving.nextTask_le stepped)
      -- A verification in time would have the digest right for a call that is still open.
      · intro call member cancelled
        obtain ⟨ended, task, own, stopped⟩ := sound.cancelled call member cancelled
        refine ⟨ended, task, own, stops task stopped ?_⟩
        unfold Client.Rejects
        split
        · intro callback running hashing file here right same
          have open_ := timely callback running hashing file here right call member
            (by rw [own, same])
          rw [cancelled] at open_
          contradiction
        · trivial
    · contradiction

/-- **Cancellation reaches the download** in every run in which the handler finds the task in
its box and no file of a cancelled call passes its verification. -/
theorem cancellation_reaches (lowercased : String → String) (digest : Content → String)
    (files : String → Option Content) (events : List (CallEvent Content))
    (timely : Meets (step lowercased digest) (Timely digest) (start files) events) :
    Always (step lowercased digest) Stops (start files) events ∧
      Along (step lowercased digest) InstallsNothing (start files) events := by
  have initial : (start files).Sound := by
    refine ⟨Client.create_serving files, ?_, ?_, ?_⟩
    all_goals
      intro call member
      cases member
  constructor
  · exact always_of_meets (I := Sound) (V := fun _ => True)
      (fun _ _ _ sound _ allowed taken => sound.step allowed taken)
      (fun _ sound => sound.stops) _ _ initial (fun _ _ => trivial) timely
  · exact along_of_meets (I := Sound)
      (fun _ _ _ sound allowed taken => sound.step allowed taken)
      (fun _ _ _ sound _ _ => sound.installsNothing) _ _ initial timely

section Samples

/-- Contents are texts, each its own digest. -/
def sampleStep : Downloads String → CallEvent String → Option (Downloads String) :=
  step (fun text => text) (fun content => content)

def sampleStart : Downloads String := start fun _ => none

/-- The closure runs to its end. -/
def begins : List (CallEvent String) :=
  [.call "/i.iso" "d", .proceed 0, .proceed 0, .proceed 0, .proceed 0]

/-- A download that is cancelled while it runs. -/
theorem cancellation_reaches_running :
    Always sampleStep Stops sampleStart
        (begins ++ [.cancel 0, .session (.completes 0 (some "cancelled"))]) ∧
      Along sampleStep InstallsNothing sampleStart
        (begins ++ [.cancel 0, .session (.completes 0 (some "cancelled"))]) := by
  apply cancellation_reaches
  apply Meets.next rfl trivial
  apply Meets.next rfl trivial
  apply Meets.next rfl trivial
  apply Meets.next rfl trivial
  apply Meets.next rfl trivial
  apply Meets.next rfl
  · intro call found
    cases found
    rfl
  apply Meets.next rfl trivial
  trivial

/-- Cancelled before its task is in the box, the transfer goes on. -/
theorem early_cancel_lost :
    ¬ Always sampleStep Stops sampleStart
      [.call "/i.iso" "d", .proceed 0, .cancel 0, .proceed 0, .proceed 0, .proceed 0] := by
  intro always
  obtain ⟨t, executed⟩ : ∃ t, execute sampleStep sampleStart
      [.call "/i.iso" "d", .proceed 0, .cancel 0, .proceed 0, .proceed 0, .proceed 0] = some t :=
    ⟨_, rfl⟩
  have stops := always.last (run_of_execute executed)
  cases executed
  have lost := stops.task _ List.mem_cons_self rfl rfl
  contradiction

end Samples

end Downloads

end SimpleVM.Images
