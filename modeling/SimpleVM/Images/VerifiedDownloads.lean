import SimpleVM.Images.ImageDownloadClient
import SimpleVM.Transition.Run

/-!
# Verified downloads

Every continuation is resumed once, with success only over a file of the digest that was asked
for, and what the client puts at a destination has been verified for it. The one exception is a
destination that is the `.partial` file of another one.
-/
namespace SimpleVM.Images

open Transition

variable {Content : Type} {lowercased : String → String} {digest : Content → String}

namespace Client

/-- How often the continuation of a task was resumed. -/
def resumptions (s : Client Content) (task : Nat) : Nat :=
  s.resumed.countP fun outcome => decide (outcome.task = task)

/-- No continuation is resumed twice, and that of a completed task once; where a call has returned a
file, or the client has put one, it has the digest that was asked for. -/
structure Verified (digest : Content → String) (s : Client Content) : Prop where
  once : ∀ task, s.resumptions task ≤ 1
  completed : ∀ task ∈ s.completed, s.resumptions task = 1
  success : ∀ outcome ∈ s.resumed, ∀ url, outcome.result = .ok url →
    ∃ request content, s.requests outcome.task = some request ∧ url = request.destinationURL ∧
      outcome.found = some content ∧ digest content = request.expectedSHA256
  held : ∀ task request, s.requests task = some request →
    ∀ file writer, s.files request.destinationURL = some file → file.writer = some writer →
      ∃ own, s.requests writer = some own ∧ own.destinationURL = request.destinationURL ∧
        digest file.content = own.expectedSHA256

/-- A new destination is not the `.partial` file of an earlier one, nor the other way round. -/
def KeepsApart (s : Client Content) : DownloadEvent Content → Prop
  | .download destinationURL _ => ∀ task request, s.requests task = some request →
    partialURL request.destinationURL ≠ destinationURL ∧
      partialURL destinationURL ≠ request.destinationURL
  | _ => True

/-- What is where the callback goes on. -/
def StageHolds (digest : Content → String) (s : Client Content) (callback : Callback Content) :
    Prop :=
  match callback.stage with
  | .hashing =>
    ∃ file, s.files (partialURL callback.context.destinationURL) = some file ∧
      file.writer = some callback.task
  | .removingDestination | .movingToDestination =>
    ∃ file, s.files (partialURL callback.context.destinationURL) = some file ∧
      file.writer = some callback.task ∧ digest file.content = callback.context.expectedSHA256
  | .finishing (.ok url) =>
    url = callback.context.destinationURL ∧
      ∃ file, s.files url = some file ∧ digest file.content = callback.context.expectedSHA256
  | _ => True

structure Sound (digest : Content → String) (s : Client Content) : Prop where
  known : ∀ task, (s.requests task).isSome = true ↔ task < s.nextTask
  contexts : ∀ task context, s.contexts task = some context →
    s.requests task = some context.toRequest
  waiting : ∀ task, (s.contexts task).isSome = true → s.resumptions task = 0
  settled : ∀ task, s.contexts task = none →
    s.resumptions task = if task < s.nextTask then 1 else 0
  received : ∀ task context, s.contexts task = some context → context.receivedFile = true →
    ∃ callback, s.delegate = some callback ∧ callback.task = task
  completed : ∀ task ∈ s.completed, task < s.nextTask ∧ s.contexts task = none
  delegate : ∀ callback, s.delegate = some callback →
    s.contexts callback.task = some callback.context ∧ s.StageHolds digest callback
  success : ∀ outcome ∈ s.resumed, ∀ url, outcome.result = .ok url →
    ∃ request content, s.requests outcome.task = some request ∧ url = request.destinationURL ∧
      outcome.found = some content ∧ digest content = request.expectedSHA256
  written : ∀ path file writer, s.files path = some file → file.writer = some writer →
    ∃ own, s.requests writer = some own ∧
      (path = own.destinationURL ∧ digest file.content = own.expectedSHA256 ∨
        path = partialURL own.destinationURL)
  apart : ∀ i j ri rj, s.requests i = some ri → s.requests j = some rj →
    partialURL ri.destinationURL ≠ rj.destinationURL

variable {s t : Client Content} {callback : Callback Content}

theorem partialURL_ne (path : String) : partialURL path ≠ path := by
  intro same
  have lengths := congrArg String.length same
  unfold partialURL at lengths
  rw [String.length_append] at lengths
  have longer : ".partial".length = 8 := by decide
  omega

/-- What `finish` leaves alone, and that it leaves no context. -/
theorem finish_frame (s : Client Content) (task : Nat) (result : Except ImageDownloadError String) :
    (s.finish task result).contexts task = none ∧
      (s.finish task result).completed = s.completed ∧
      (s.finish task result).nextTask = s.nextTask := by
  unfold Client.finish
  cases held : s.contexts task with
  | none => exact ⟨held, rfl, rfl⟩
  | some context => simp [Client.setContext]

namespace Sound

theorem verified (sound : Sound digest s) : Verified digest s where
  once := by
    intro task
    cases held : s.contexts task with
    | none =>
      rw [sound.settled task held]
      split <;> omega
    | some context =>
      rw [sound.waiting task (by simp [held])]
      omega
  completed := by
    intro task done
    obtain ⟨known, gone⟩ := sound.completed task done
    rw [sound.settled task gone, if_pos known]
  success := sound.success
  held := by
    intro task request asked file writer stored wrote
    obtain ⟨own, known, ⟨here, right⟩ | part⟩ := sound.written _ file writer stored wrote
    · exact ⟨own, known, here.symm, right⟩
    · exact absurd part.symm (sound.apart writer task own request known asked)

/-- The callback goes on where what it needs is there. -/
theorem goTo (sound : Sound digest s) (running : s.delegate = some callback)
    {stage : Stage Content} (holds : s.StageHolds digest { callback with stage := stage }) :
    Sound digest (s.goTo callback stage) := by
  obtain ⟨open_, -⟩ := sound.delegate callback running
  refine { sound with received := ?_, delegate := ?_ }
  · intro task context held received
    obtain ⟨other, isOther, same⟩ := sound.received task context held received
    rw [running] at isOther
    cases isOther
    exact ⟨_, rfl, same⟩
  · intro other isOther
    cases isOther
    exact ⟨open_, holds⟩

theorem fail (sound : Sound digest s) (running : s.delegate = some callback) (message : String) :
    Sound digest (s.fail callback message) :=
  sound.goTo running trivial

/-- A file may change while the callback that runs needs none. -/
theorem setFile (sound : Sound digest s) (running : s.delegate = some callback) (path : String)
    (file : Option (StoredFile Content))
    (needs : (s.setFile path file).StageHolds digest callback)
    (wrote : ∀ stored writer, file = some stored → stored.writer = some writer →
      ∃ own, s.requests writer = some own ∧
        (path = own.destinationURL ∧ digest stored.content = own.expectedSHA256 ∨
          path = partialURL own.destinationURL)) :
    Sound digest (s.setFile path file) := by
  refine { sound with delegate := ?_, written := ?_ }
  · intro other isOther
    have same : s.delegate = some other := isOther
    rw [running] at same
    cases same
    exact ⟨(sound.delegate callback running).1, needs⟩
  · intro place stored writer here wroteIt
    simp only [Client.setFile] at here
    split at here
    · rename_i isPath
      subst isPath
      exact wrote stored writer here wroteIt
    · exact sound.written place stored writer here wroteIt

/-- A file is taken away. -/
theorem removeFile (sound : Sound digest s) (running : s.delegate = some callback) (path : String)
    (needs : (s.setFile path none).StageHolds digest callback) :
    Sound digest (s.setFile path none) := by
  apply sound.setFile running path none needs
  intro stored writer none_
  cases none_

/-- The received file is now at the `.partial` path, and the context says so. -/
theorem receive (sound : Sound digest s) (running : s.delegate = some callback)
    (location : Content) :
    Sound digest (((s.setFile (partialURL callback.context.destinationURL)
      (some ⟨location, some callback.task⟩)).setContext callback.task
        (some { callback.context with receivedFile := true })).goTo
          { callback with context := { callback.context with receivedFile := true } } .hashing) := by
  obtain ⟨open_, -⟩ := sound.delegate callback running
  have asked := sound.contexts callback.task callback.context open_
  -- Only the callback's own context and its partial file change.
  refine ⟨sound.known, ?_, ?_, ?_, ?_, ?_, ?_, sound.success, ?_, sound.apart⟩
  · intro task context held
    simp only [Client.goTo, Client.setContext, Client.setFile] at held
    split at held
    · rename_i same
      subst same
      cases held
      exact asked
    · exact sound.contexts task context held
  · intro task held
    apply sound.waiting task
    simp only [Client.goTo, Client.setContext, Client.setFile] at held
    split at held
    · rename_i same
      rw [same, open_]
      rfl
    · exact held
  · intro task gone
    simp only [Client.goTo, Client.setContext, Client.setFile] at gone
    split at gone
    · cases gone
    · exact sound.settled task gone
  · intro task context held received
    simp only [Client.goTo, Client.setContext, Client.setFile] at held
    split at held
    · rename_i same
      exact ⟨_, rfl, same.symm⟩
    · obtain ⟨other, isOther, same⟩ := sound.received task context held received
      rw [running] at isOther
      cases isOther
      exact ⟨_, rfl, same⟩
  · intro task done
    obtain ⟨known, gone⟩ := sound.completed task done
    refine ⟨known, ?_⟩
    simp only [Client.goTo, Client.setContext, Client.setFile]
    split
    · rename_i same
      rw [same, open_] at gone
      cases gone
    · exact gone
  · intro other isOther
    cases isOther
    constructor
    · simp [Client.goTo, Client.setContext]
    · refine ⟨⟨location, some callback.task⟩, ?_, rfl⟩
      simp [Client.goTo, Client.setContext, Client.setFile]
  · intro path file writer stored wrote
    simp only [Client.goTo, Client.setContext, Client.setFile] at stored
    split at stored
    · rename_i isPath
      cases stored
      cases wrote
      exact ⟨_, asked, .inr isPath⟩
    · exact sound.written path file writer stored wrote

/-- The verified file takes the place of the destination. -/
theorem install (sound : Sound digest s) (running : s.delegate = some callback)
    {file : StoredFile Content} (writer : file.writer = some callback.task)
    (right : digest file.content = callback.context.expectedSHA256) :
    Sound digest (((s.setFile (partialURL callback.context.destinationURL) none).setFile
      callback.context.destinationURL (some file)).goTo callback
        (.finishing (.ok callback.context.destinationURL))) := by
  obtain ⟨open_, -⟩ := sound.delegate callback running
  have asked := sound.contexts callback.task callback.context open_
  have idle : Sound digest (s.goTo callback (.rejecting "")) := sound.goTo running trivial
  have removed := idle.removeFile rfl (partialURL callback.context.destinationURL) trivial
  have stored := removed.setFile rfl callback.context.destinationURL (some file) trivial (by
    intro other wrote isFile isWriter
    cases isFile
    rw [writer] at isWriter
    cases isWriter
    exact ⟨_, asked, .inl ⟨rfl, right⟩⟩)
  apply stored.goTo rfl
  refine ⟨rfl, file, ?_, right⟩
  simp [Client.setFile]

/-- The end of a callback, or of a task without one. -/
theorem finish (sound : Sound digest s) {task : Nat} {result : Except ImageDownloadError String}
    (idle : ∀ callback, s.delegate = some callback → callback.task = task)
    (right : ∀ url context, result = .ok url → s.contexts task = some context →
      url = context.destinationURL ∧
        ∃ file, s.files url = some file ∧ digest file.content = context.expectedSHA256) :
    Sound digest ({ s with delegate := none }.finish task result) := by
  unfold Client.finish
  cases held : s.contexts task with
  | none =>
    simp only
    refine { sound with received := ?_, delegate := ?_ }
    · intro other context present received
      obtain ⟨callback, running, same⟩ := sound.received other context present received
      rw [← same, idle callback running, held] at present
      cases present
    · intro other isOther
      cases isOther
  | some context =>
    simp only
    have asked := sound.contexts task context held
    have known : task < s.nextTask := by
      apply (sound.known task).mp
      rw [asked]
      rfl
    -- The outcome is one more resumption of this task and of no other.
    have count (other : Nat) : Client.resumptions { { s with delegate := none }.setContext task none
        with resumed := ⟨task, result, Client.found { s with delegate := none } result⟩ ::
          s.resumed } other =
        s.resumptions other + if task = other then 1 else 0 := by
      simp only [Client.resumptions, List.countP_cons, decide_eq_true_eq]
    refine ⟨sound.known, ?_, ?_, ?_, ?_, ?_, ?_, ?_, sound.written, sound.apart⟩
    · intro other c present
      simp only [Client.setContext] at present
      split at present
      · cases present
      · exact sound.contexts other c present
    · intro other present
      simp only [Client.setContext] at present
      split at present
      · cases present
      · rename_i differs
        rw [count, sound.waiting other present, if_neg (Ne.symm differs)]
    · intro other gone
      rw [count]
      by_cases same : task = other
      · subst same
        rw [sound.waiting task (by simp [held]), if_pos rfl]
        exact (if_pos known).symm
      · simp only [Client.setContext, if_neg (Ne.symm same)] at gone
        rw [sound.settled other gone, if_neg same]
        rfl
    · intro other c present received
      simp only [Client.setContext] at present
      split at present
      · cases present
      · rename_i differs
        obtain ⟨callback, running, same⟩ := sound.received other c present received
        exact absurd (same.symm.trans (idle callback running)) differs
    · intro other done
      obtain ⟨old, gone⟩ := sound.completed other done
      refine ⟨old, ?_⟩
      simp only [Client.setContext]
      split
      · rfl
      · exact gone
    · intro other isOther
      cases isOther
    · intro outcome listed url succeeded
      rcases List.mem_cons.mp listed with rfl | listed
      · -- What is found is what the callback has put there.
        simp only at succeeded
        subst succeeded
        obtain ⟨isURL, file, stored, verified⟩ := right url context rfl held
        refine ⟨context.toRequest, file.content, asked, isURL, ?_, verified⟩
        simp [Client.found, stored]
      · exact sound.success outcome listed url succeeded

theorem proceed (sound : Sound digest s) (running : s.delegate = some callback)
    {failure : Option String} (proceeded : s.proceed digest callback failure = some t) :
    Sound digest t := by
  obtain ⟨open_, holds⟩ := sound.delegate callback running
  unfold Client.proceed at proceeded
  simp only at proceeded
  cases stage : callback.stage with
  | creatingDirectory location =>
    rw [stage] at proceeded
    cases failure with
    | none =>
      cases proceeded
      exact sound.goTo running trivial
    | some message =>
      cases proceeded
      exact sound.fail running message
  | removingPartial location =>
    rw [stage] at proceeded
    simp only at proceeded
    split at proceeded
    · cases proceeded
      exact sound.goTo running trivial
    · cases proceeded
      have needs : (s.setFile (partialURL callback.context.destinationURL) none).StageHolds digest
          callback := by
        unfold StageHolds
        rw [stage]
        trivial
      exact (sound.removeFile running _ needs).goTo running trivial
    · cases proceeded
      exact sound.fail running _
  | movingToPartial location =>
    rw [stage] at proceeded
    cases failure with
    | none =>
      simp only at proceeded
      split at proceeded
      · cases proceeded
      · cases proceeded
        exact sound.receive running location
    | some message =>
      cases proceeded
      exact sound.fail running message
  | hashing =>
    rw [stage] at proceeded
    cases failure with
    | none =>
      simp only at proceeded
      split at proceeded
      · cases proceeded
      · rename_i file present
        split at proceeded
        · rename_i right
          cases proceeded
          -- What is hashed is what this call put there: callbacks do not interleave.
          unfold StageHolds at holds
          rw [stage] at holds
          obtain ⟨own, stored, writer⟩ := holds
          rw [present] at stored
          cases stored
          exact sound.goTo running ⟨file, present, writer, right⟩
        · cases proceeded
          exact sound.goTo running trivial
    | some message =>
      cases proceeded
      exact sound.fail running message
  | rejecting actual =>
    rw [stage] at proceeded
    cases proceeded
    have needs : (s.setFile (partialURL callback.context.destinationURL) none).StageHolds digest
        callback := by
      unfold StageHolds
      rw [stage]
      trivial
    split
    · exact (sound.removeFile running _ needs).goTo running trivial
    · exact sound.goTo running trivial
  | removingDestination =>
    rw [stage] at proceeded
    unfold StageHolds at holds
    rw [stage] at holds
    simp only at proceeded
    split at proceeded
    · cases proceeded
      exact sound.goTo running holds
    · cases proceeded
      -- The `.partial` file is another one.
      have kept : ∃ file, (s.setFile callback.context.destinationURL none).files
          (partialURL callback.context.destinationURL) = some file ∧
          file.writer = some callback.task ∧
          digest file.content = callback.context.expectedSHA256 := by
        obtain ⟨file, stored, rest⟩ := holds
        refine ⟨file, ?_, rest⟩
        simp only [Client.setFile, if_neg (partialURL_ne _)]
        exact stored
      have needs : (s.setFile callback.context.destinationURL none).StageHolds digest callback := by
        unfold StageHolds
        rw [stage]
        exact kept
      exact (sound.removeFile running _ needs).goTo running kept
    · cases proceeded
      exact sound.fail running _
  | movingToDestination =>
    rw [stage] at proceeded
    unfold StageHolds at holds
    rw [stage] at holds
    cases failure with
    | none =>
      simp only at proceeded
      split at proceeded
      · rename_i file present free
        cases proceeded
        obtain ⟨other, stored, writer, right⟩ := holds
        rw [present] at stored
        cases stored
        exact sound.install running writer right
      · cases proceeded
    | some message =>
      cases proceeded
      exact sound.fail running message
  | finishing result =>
    rw [stage] at proceeded
    cases proceeded
    apply sound.finish
    · intro other isOther
      rw [running] at isOther
      cases isOther
      rfl
    · intro url context succeeded present
      rw [open_] at present
      cases present
      unfold StageHolds at holds
      rw [stage, succeeded] at holds
      exact holds

/-- A completion finds no callback under way, so that a file that was received is done with. -/
theorem complete (sound : Sound digest s) (idle : s.delegate = none) {task : Nat}
    (known : task < s.nextTask) (error : Option String) :
    Sound digest { s.complete task error with completed := task :: s.completed } := by
  -- Only a failure ends a task here, so nothing has to be found at its destination.
  have ends (result : Except ImageDownloadError String) (failed : ∀ url, result ≠ .ok url) :
      Sound digest (s.finish task result) := by
    have same : { s with delegate := none } = s := by rw [← idle]
    rw [← same]
    apply sound.finish
    · intro callback running
      rw [idle] at running
      cases running
    · intro url context succeeded
      exact absurd succeeded (failed url)
  have ended : Sound digest (s.complete task error) ∧ (s.complete task error).contexts task = none ∧
      (s.complete task error).completed = s.completed ∧
      (s.complete task error).nextTask = s.nextTask := by
    unfold Client.complete
    cases error with
    | some message => exact ⟨ends _ (fun _ same => by cases same), finish_frame s task _⟩
    | none =>
      simp only
      cases held : s.contexts task with
      | none => exact ⟨sound, held, rfl, rfl⟩
      | some context =>
        simp only
        split
        · rename_i received
          -- A file received would still have its callback at work, but the delegate is idle.
          obtain ⟨callback, running, -⟩ := sound.received task context held received
          rw [idle] at running
          cases running
        · exact ⟨ends _ (fun _ same => by cases same), finish_frame s task _⟩
  obtain ⟨after, gone, completed, next⟩ := ended
  refine { after with completed := ?_ }
  intro other done
  rcases List.mem_cons.mp done with rfl | done
  · exact ⟨next ▸ known, gone⟩
  · exact after.completed other (completed ▸ done)

theorem download (sound : Sound digest s) {destinationURL expectedSHA256 : String}
    (apart : s.KeepsApart (.download destinationURL expectedSHA256))
    (began : s.step lowercased digest (.download destinationURL expectedSHA256) = some t) :
    Sound digest t := by
  cases began
  have fresh : s.requests s.nextTask = none := by
    cases asked : s.requests s.nextTask with
    | none => rfl
    | some request =>
      have known := (sound.known s.nextTask).mp (by simp [asked])
      omega
  have unopened : s.contexts s.nextTask = none := by
    cases held : s.contexts s.nextTask with
    | none => rfl
    | some context =>
      have asked := sound.contexts _ context held
      rw [fresh] at asked
      cases asked
  -- A request that was there is still there.
  have kept (task : Nat) (request : Request) (asked : s.requests task = some request) :
      (if task = s.nextTask then some (⟨destinationURL, lowercased expectedSHA256⟩ : Request)
        else s.requests task) = some request := by
    split
    · rename_i same
      rw [same, fresh] at asked
      cases asked
    · exact asked
  refine ⟨?_, ?_, ?_, ?_, ?_, ?_, ?_, ?_, ?_, ?_⟩
  · intro task
    simp only
    split
    · rename_i same
      subst same
      simp
    · rename_i other
      rw [sound.known task]
      omega
  · intro task context held
    simp only [Client.setContext] at held ⊢
    split at held
    · rename_i same
      cases held
      rw [if_pos same]
    · rename_i other
      rw [if_neg other]
      exact sound.contexts task context held
  · intro task held
    simp only [Client.setContext] at held
    split at held
    · rename_i same
      subst same
      have unsettled := sound.settled s.nextTask unopened
      rw [if_neg (Nat.lt_irrefl _)] at unsettled
      exact unsettled
    · exact sound.waiting task held
  · intro task gone
    simp only [Client.setContext] at gone ⊢
    split at gone
    · cases gone
    · rename_i other
      have settled := sound.settled task gone
      have same : (task < s.nextTask + 1) = (task < s.nextTask) := by
        apply propext
        omega
      simp only [same]
      exact settled
  · intro task context held received
    simp only [Client.setContext] at held
    split at held
    · cases held
      cases received
    · exact sound.received task context held received
  · intro task done
    obtain ⟨known, gone⟩ := sound.completed task done
    refine ⟨Nat.lt_succ_of_lt known, ?_⟩
    simp only [Client.setContext]
    rw [if_neg (by omega)]
    exact gone
  · intro callback running
    obtain ⟨open_, holds⟩ := sound.delegate callback running
    refine ⟨?_, holds⟩
    simp only [Client.setContext]
    split
    · rename_i same
      rw [same, unopened] at open_
      cases open_
    · exact open_
  · intro outcome listed url succeeded
    obtain ⟨request, content, asked, rest⟩ := sound.success outcome listed url succeeded
    exact ⟨request, content, kept _ _ asked, rest⟩
  · intro path file writer stored wrote
    obtain ⟨own, asked, rest⟩ := sound.written path file writer stored wrote
    exact ⟨own, kept _ _ asked, rest⟩
  · intro i j ri rj askedI askedJ
    simp only at askedI askedJ
    split at askedI
    · cases askedI
      split at askedJ
      · cases askedJ
        exact partialURL_ne _
      · exact (apart j rj askedJ).2
    · split at askedJ
      · cases askedJ
        exact (apart i ri askedI).1
      · exact sound.apart i j ri rj askedI askedJ

theorem step (sound : Sound digest s) {e : DownloadEvent Content} (apart : s.KeepsApart e)
    (stepped : s.step lowercased digest e = some t) : Sound digest t := by
  cases e with
  | download destinationURL expectedSHA256 => exact sound.download apart stepped
  | writesData task =>
    simp only [Client.step] at stepped
    split at stepped
    · cases stepped
      exact sound
    · cases stepped
  | finishesDownloading task location response =>
    simp only [Client.step] at stepped
    split at stepped
    · rename_i guarded
      split at stepped
      · cases stepped
        exact sound
      · rename_i context held
        cases stepped
        refine { sound with received := ?_, delegate := ?_ }
        · intro other c present received
          obtain ⟨callback, running, -⟩ := sound.received other c present received
          rw [running] at guarded
          simp at guarded
        · intro callback running
          cases running
          refine ⟨held, ?_⟩
          unfold Client.received
          cases response with
          | notHTTP => trivial
          | http statusCode =>
            simp only
            split <;> trivial
    · cases stepped
  | proceeds failure =>
    simp only [Client.step] at stepped
    split at stepped
    · cases stepped
    · rename_i callback running
      exact sound.proceed running stepped
  | completes task error =>
    simp only [Client.step] at stepped
    split at stepped
    · rename_i guarded
      cases stepped
      exact sound.complete (Option.isNone_iff_eq_none.mp guarded.1) guarded.2.1 error
    · cases stepped

end Sound

theorem sound_create (digest : Content → String) (files : String → Option Content) :
    Sound digest (create files) := by
  refine ⟨?_, ?_, ?_, ?_, ?_, ?_, ?_, ?_, ?_, ?_⟩
  · intro task
    simp [create]
  · intro task context held
    cases held
  · intro task held
    cases held
  · intro task gone
    simp [create, resumptions]
  · intro task context held
    cases held
  · intro task done
    cases done
  · intro callback running
    cases running
  · intro outcome listed
    cases listed
  · intro path file writer stored wrote
    simp only [create, Option.map_eq_some_iff] at stored
    obtain ⟨content, -, rfl⟩ := stored
    cases wrote
  · intro i j ri rj asked
    cases asked

/-- In every run of calls whose destinations keep apart, downloads are verified. -/
theorem downloads_verified (lowercased : String → String) (digest : Content → String)
    (files : String → Option Content) (labels : List (DownloadEvent Content))
    (apart : Meets (step lowercased digest) KeepsApart (create files) labels) :
    Always (step lowercased digest) (Verified digest) (create files) labels := by
  apply always_of_meets (V := fun _ => True) _ _ _ _ (sound_create digest files) _ apart
  · intro s e t sound _ allowed stepped
    exact sound.step allowed stepped
  · exact fun s sound => sound.verified
  · exact fun _ _ => trivial

/-- The digest of `abc`. -/
def abcDigest : String := "ba7816bf8f01cfea414140de5dae2223b00361a396177a9cb410ff61f20015ad"

/-- As much of SHA-256 as the runs below need. -/
def abcHash (content : String) : String := if content = "abc" then abcDigest else ""

/-- Two calls for one destination. The file of the first is hashed and installed, that of the second
replaces it. -/
def sharedDownloads : List (DownloadEvent String) :=
  let installs (task : Nat) : List (DownloadEvent String) :=
    .finishesDownloading task "abc" (.http 200) ::
      (List.replicate 7 (.proceeds none) ++ [.completes task none])
  .download "b" abcDigest :: .download "b" abcDigest :: (installs 0 ++ installs 1)

theorem downloads_verified_shared :
    Always (step id abcHash) (Verified abcHash) (create fun _ => none) sharedDownloads ∧
    ∃ last, Run (step id abcHash) (create fun _ => none) sharedDownloads last ∧
      last.resumed = [⟨1, .ok "b", some "abc"⟩, ⟨0, .ok "b", some "abc"⟩] := by
  refine ⟨downloads_verified id abcHash _ sharedDownloads ?_, _, run_of_execute rfl, rfl⟩
  refine .next rfl ?_ (.next rfl ?_ ?_)
  · intro task request asked
    cases asked
  · intro task request asked
    simp only at asked
    split at asked
    · cases asked
      exact ⟨by decide, by decide⟩
    · cases asked
  · -- No other event has anything to keep apart.
    iterate 18 refine .next rfl trivial ?_
    trivial

/-- A destination that is the `.partial` file of another one gets a file of a wrong digest. -/
theorem partial_overwrites_destination :
    ¬ Always (step id fun _ : String => abcDigest) (Verified fun _ => abcDigest)
      (create fun _ => none)
      [.download "b.partial" "00", .download "b" "00", .finishesDownloading 1 "abc" (.http 200),
        .proceeds none, .proceeds none, .proceeds none] := by
  intro always
  have verified := always.last (run_of_execute rfl)
  obtain ⟨own, asked, -, right⟩ :=
    verified.held 0 ⟨"b.partial", "00"⟩ rfl ⟨"abc", some 1⟩ 1 rfl rfl
  cases asked
  exact absurd right (by decide)

end Client

end SimpleVM.Images
