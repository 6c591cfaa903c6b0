import SimpleVM.App.DownloadTasks
import Mathlib.Data.List.Nodup

/-!
# The registry of downloads

`downloads[imageID]` is the newest task of an image as long as a task is begun only after the
earlier tasks of its image have ended. Two tasks of one image spoil it: whichever ends first
clears the entry by the identifier of the image.
-/
namespace SimpleVM.App.Session

open Domain Effects Storage Transition

/-- The unfinished task of the image that was begun last. -/
def Newest (s : Session) (imageID : UUID) (task : Nat) : Prop :=
  (imageID, task) ∈ s.unfinished ∧ ∀ other, (imageID, other) ∈ s.unfinished → other ≤ task

/-- The registry holds the newest unfinished task of every image. -/
def Registered (s : Session) : Prop :=
  ∀ imageID, (∀ task, s.downloads imageID = some task → s.Newest imageID task) ∧
    (s.downloads imageID = none → ∀ task, (imageID, task) ∉ s.unfinished)

/-- The event is a step of a call, or the work the call waits for. -/
def isAbout (index : Nat) : SessionEvent → Bool
  | .resume other | .work other _ _ => decide (other = index)
  | _ => false

/-- A step of a task leaves the records and the files of an image alone that a newer task is
downloading. -/
def SparesNewer (s : Session) (event : SessionEvent) (t : Session) : Prop :=
  ∀ index call imageID task newer, isAbout index event = true → s.calls[index]? = some call →
    taskOf call.next = some (imageID, task) → (imageID, newer) ∈ s.unfinished → task < newer →
      t.images = s.images ∧
      (∀ file ∈ s.volume.filesIn (.image imageID), file ∈ t.volume.filesIn (.image imageID)) ∧
      (.image imageID ∈ s.volume.directories → .image imageID ∈ t.volume.directories)

/-- `cancelDownload` cancels the newest unfinished task. -/
def ReachesLive (s : Session) (event : SessionEvent) (t : Session) : Prop :=
  ∀ imageID task, event = .call (.cancelDownload imageID) → s.Newest imageID task →
    task ∈ t.cancelledTasks

def Follows (s : Session) (event : SessionEvent) (t : Session) : Prop :=
  Registered t ∧ SparesNewer s event t ∧ ReachesLive s event t

/-- No task of the image is unfinished. -/
def NoTask (s : Session) (imageID : UUID) : Prop := ∀ task, (imageID, task) ∉ s.unfinished

/-- A download is begun for an image without unfinished tasks. -/
def BegunAlone (s : Session) : SessionEvent → Prop
  | .call (.download _ imageID) => s.NoTask imageID
  | .call (.createMachine env _ (.catalogEntry _)) => s.NoTask env.imageID
  | .resume index => ∀ call entry imageID, s.calls[index]? = some call →
      call.next = .retrySaved entry imageID → s.NoTask imageID
  | _ => True

/-- The store answers `destinationURL` with a location. -/
def Answers (call : Call) : Prop :=
  ∀ imageID task, call.next = .destinationMade imageID task →
    (∃ id fileExtension, call.work = .destinationURL id fileExtension) ∧
    ∀ answer, call.response = some (.ok answer) → ∃ location, answer = .location location

/-- Every image has one unfinished task at most, and it is registered. -/
structure Tracked (s : Session) : Prop where
  initialized : ∀ imageID task, (imageID, task) ∈ s.unfinished → s.initialized = true
  alone : (s.unfinished.map (·.1)).Nodup
  registered : ∀ imageID task, s.downloads imageID = some task ↔ (imageID, task) ∈ s.unfinished
  answers : ∀ call ∈ s.calls, Answers call

variable {s t : Session} {imageID : UUID} {task index : Nat} {call : Call} {next : Next}
  {response : Response} {event : SessionEvent}

theorem answers_of_other (other : taskOf call.next = none) : Answers call := by
  intro imageID task isMade
  rw [isMade] at other
  cases other

theorem unfinishedIn_append_other {new calls : List Call}
    (other : ∀ c ∈ new, taskOf c.next = none) :
    unfinishedIn (new ++ calls) = unfinishedIn calls := by
  have none_ : new.filterMap (fun c => taskOf c.next) = [] := List.filterMap_eq_nil_iff.mpr other
  simp only [unfinishedIn, List.filterMap_append, none_, List.nil_append]

theorem unfinishedIn_set {calls : List Call} {changed : Call} (found : calls[index]? = some call)
    (same : changed.next = call.next) :
    unfinishedIn (calls.set index changed) = unfinishedIn calls := by
  induction calls generalizing index with
  | nil => cases found
  | cons first rest ih =>
    cases index with
    | zero =>
      cases found
      simp only [unfinishedIn, List.set_cons_zero, List.filterMap_cons, same]
    | succ index =>
      have there : rest[index]? = some call := by simpa using found
      have tail := ih there
      simp only [unfinishedIn, List.set_cons_succ, List.filterMap_cons] at tail ⊢
      rw [tail]

/-- Taking a call out takes its task out. -/
theorem unfinishedIn_perm {calls : List Call} (found : calls[index]? = some call) :
    (unfinishedIn calls).Perm ((taskOf call.next).toList ++ unfinishedIn (calls.eraseIdx index)) := by
  induction calls generalizing index with
  | nil => cases found
  | cons first rest ih =>
    cases index with
    | zero =>
      cases found
      cases own : taskOf call.next <;> simp [unfinishedIn, own]
    | succ index =>
      have there : rest[index]? = some call := by simpa using found
      have tail := ih there
      simp only [unfinishedIn, List.eraseIdx_cons_succ, List.filterMap_cons] at tail ⊢
      cases taskOf first.next with
      | none => exact tail
      | some task => exact (tail.cons task).trans List.perm_middle.symm

theorem Tracked.newest (tracked : s.Tracked) (member : (imageID, task) ∈ s.unfinished) :
    s.Newest imageID task := by
  refine ⟨member, fun other also => ?_⟩
  have same := List.inj_on_of_nodup_map tracked.alone member also rfl
  cases same
  exact Nat.le_refl _

theorem Tracked.follows (tracked : s.Tracked) : s.Registered := by
  intro imageID
  constructor
  · intro task registered
    exact tracked.newest ((tracked.registered imageID task).mp registered)
  · intro none_ task member
    have registered := (tracked.registered imageID task).mpr member
    rw [none_] at registered
    cases registered

/-- A state with the same tasks and the same registry. -/
theorem Tracked.congr (tracked : s.Tracked) (downloads : t.downloads = s.downloads)
    (initialized : s.initialized = true → t.initialized = true)
    (unfinished : t.unfinished.Perm s.unfinished) (answers : ∀ call ∈ t.calls, Answers call) :
    t.Tracked where
  initialized imageID task member :=
    initialized (tracked.initialized imageID task (unfinished.mem_iff.mp member))
  alone := (unfinished.map (·.1)).nodup_iff.mpr tracked.alone
  registered imageID task := by
    rw [downloads, unfinished.mem_iff]
    exact tracked.registered imageID task
  answers := answers

theorem Tracked.leaves (tracked : s.Tracked) (leaves : LeavesTasks s t) : t.Tracked := by
  obtain ⟨new, calls, other⟩ := leaves.calls
  apply tracked.congr leaves.downloads leaves.initialized
  · simp only [unfinished, calls, unfinishedIn_append_other other]
    exact List.Perm.refl _
  · intro call member
    rw [calls] at member
    rcases List.mem_append.mp member with late | early
    · exact answers_of_other (other call late)
    · exact tracked.answers call early

/-- What begins a download adds one task, registered under its image. -/
theorem Tracked.begin (tracked : s.Tracked) (free : s.NoTask imageID)
    {entry : ImageCatalogEntry} : (s.beginDownload entry imageID).Tracked := by
  by_cases initialized : s.initialized = true
  · have begun : (s.beginDownload entry imageID).unfinished = (imageID, s.tasks) :: s.unfinished := by
      simp only [beginDownload, initialized, if_true]
      rfl
    have absent : imageID ∉ s.unfinished.map (·.1) := by
      intro member
      obtain ⟨⟨id, task⟩, listed, rfl⟩ := List.mem_map.mp member
      exact free task listed
    refine ⟨?_, ?_, ?_, ?_⟩
    · intro id task _
      simp only [beginDownload, initialized, if_true]
      rfl
    · rw [begun, List.map_cons, List.nodup_cons]
      exact ⟨absent, tracked.alone⟩
    · intro id task
      rw [begun, List.mem_cons, Prod.mk.injEq]
      simp only [beginDownload, initialized, if_true, suspend]
      -- Only the image itself has its entry replaced, and it had no task.
      by_cases here : id = imageID
      · subst here
        simp [free task, eq_comm]
      · simp [here, tracked.registered id task]
    · intro call member
      simp only [beginDownload, initialized, if_true, suspend_calls, List.mem_cons] at member
      rcases member with rfl | early
      · intro id task isMade
        cases isMade
      · exact tracked.answers call early
  · exact tracked.leaves (beginDownload_refused initialized)

/-- The task is suspended again. -/
structure Continues (s : Session) (imageID : UUID) (task : Nat) (t : Session) : Prop where
  downloads : t.downloads = s.downloads
  initialized : t.initialized = s.initialized
  calls : ∃ c, t.calls = c :: s.calls ∧ taskOf c.next = some (imageID, task) ∧ Answers c

/-- The task returns and clears the entry of its image. -/
structure Ends (s : Session) (imageID : UUID) (t : Session) : Prop where
  downloads : t.downloads = fun other => if other = imageID then none else s.downloads other
  initialized : t.initialized = s.initialized
  calls : t.calls = s.calls

theorem Continues.suspend {u : Session} {work : Work} (downloads : u.downloads = s.downloads)
    (initialized : u.initialized = s.initialized) (calls : u.calls = s.calls)
    (own : taskOf next = some (imageID, task)) (answers : Answers ⟨work, next, none⟩) :
    Continues s imageID task (u.suspend work next) :=
  ⟨downloads, initialized, ⟨work, next, none⟩, by rw [suspend_calls, calls], own, answers⟩

theorem continues_persist {u : Session} {refused : Session → Session}
    (there : s.initialized = true) (downloads : u.downloads = s.downloads)
    (initialized : u.initialized = s.initialized) (calls : u.calls = s.calls)
    (own : taskOf next = some (imageID, task)) (other : ∀ id n, next ≠ .destinationMade id n) :
    Continues s imageID task (u.persist next refused) := by
  unfold persist
  rw [if_pos (initialized.trans there)]
  apply Continues.suspend downloads initialized calls own
  intro id n isMade
  exact absurd isMade (other id n)

theorem continues_downloadFailed {failure : Failure} (there : s.initialized = true) :
    Continues s imageID task (s.downloadFailed imageID task failure) := by
  unfold downloadFailed
  split
  · apply Continues.suspend rfl rfl rfl rfl
    intro id n isMade
    cases isMade
  · apply continues_persist there <;> try rfl
    intro id n isMade
    cases isMade

/-- A step of a task takes it further or ends it. -/
theorem goOn_task (there : s.initialized = true) (own : taskOf next = some (imageID, task))
    (answers : ∀ id n answer, next = .destinationMade id n → response = .ok answer →
      ∃ location, answer = .location location) :
    Continues s imageID task (s.goOn response next) ∨ Ends s imageID (s.goOn response next) := by
  -- One case for each suspension of a download task: it suspends again, or it ends and clears its
  -- entry.
  cases next with
  | downloadBegun entry id n =>
    cases own
    left
    apply continues_persist there <;> try rfl
    intro id n isMade
    cases isMade
  | downloadListed id n =>
    cases own
    left
    cases response with
    | error failure => exact continues_downloadFailed there
    | ok answer =>
      apply Continues.suspend rfl rfl rfl rfl
      intro id n _
      exact ⟨⟨_, _, rfl⟩, by intros; contradiction⟩
  | destinationMade id n =>
    cases own
    left
    cases response with
    | error failure => exact continues_downloadFailed there
    | ok answer =>
      obtain ⟨location, rfl⟩ := answers _ _ answer rfl rfl
      apply Continues.suspend rfl rfl rfl rfl
      intro id n isMade
      cases isMade
  | downloaded id n destination =>
    cases own
    left
    cases response with
    | error failure => exact continues_downloadFailed there
    | ok answer =>
      simp only [goOn, downloaded]
      apply continues_persist there <;> try rfl
      intro id n isMade
      cases isMade
  | downloadSaved id n =>
    cases own
    cases response with
    | error failure => exact .inl (continues_downloadFailed there)
    | ok answer => exact .inr ⟨rfl, rfl, rfl⟩
  | failureSaved id n failure =>
    cases own
    exact .inr ⟨rfl, rfl, rfl⟩
  | cancelledFilesRemoved id n =>
    cases own
    left
    simp only [goOn, cancelledFilesRemoved]
    apply continues_persist there <;> try rfl
    intro id n isMade
    cases isMade
  | cancellationSaved id n =>
    cases own
    exact .inr ⟨rfl, rfl, rfl⟩
  | _ => cases own

/-- The calls that stay when one is taken out. -/
theorem Tracked.rest (tracked : s.Tracked) (found : s.calls[index]? = some call)
    (other : taskOf call.next = none) :
    Tracked { s with calls := s.calls.eraseIdx index } := by
  refine tracked.congr (t := { s with calls := s.calls.eraseIdx index }) rfl id ?_ ?_
  · have perm := unfinishedIn_perm found
    rw [other] at perm
    exact perm.symm
  · intro call member
    exact tracked.answers call (mem_of_mem_eraseIdx member)

theorem Tracked.resume (tracked : s.Tracked) (alone : s.BegunAlone (.resume index))
    (resumed : s.resume index = some t) : t.Tracked := by
  unfold Session.resume at resumed
  cases found : s.calls[index]? with
  | none => simp [found] at resumed
  | some call =>
    obtain ⟨work, next, answered⟩ := call
    cases answered with
    | none => simp [found] at resumed
    | some response =>
      simp only [found, Option.some.injEq] at resumed
      subst resumed
      have perm := unfinishedIn_perm found
      cases own : taskOf next with
      | none =>
        -- A call that is no download leaves the tasks alone, except for the retry that begins one.
        have rest := tracked.rest found own
        by_cases retries : ∃ entry imageID, next = .retrySaved entry imageID
        · obtain ⟨entry, imageID, rfl⟩ := retries
          have free := alone _ entry imageID found rfl
          rw [own] at perm
          exact rest.begin fun task member => free task (perm.mem_iff.mpr member)
        · apply rest.leaves
          apply goOn_leaves own
          intro entry imageID same
          exact retries ⟨entry, imageID, same⟩
      -- A download task goes on under its own number, or ends and takes its entry with it.
      | some own_ =>
        obtain ⟨imageID, task⟩ := own_
        rw [own] at perm
        have member : (imageID, task) ∈ s.unfinished := perm.mem_iff.mpr List.mem_cons_self
        have there := tracked.initialized imageID task member
        have answers := tracked.answers _ (List.mem_of_getElem? found)
        have before : ({ s with calls := s.calls.eraseIdx index } : Session).initialized = true :=
          there
        have locates : ∀ id n answer, next = .destinationMade id n → response = .ok answer →
            ∃ location, answer = .location location :=
          fun id n answer isMade ok => (answers id n isMade).2 answer (by simp [ok])
        have goes := goOn_task before own locates
        rcases goes with goes | goes
        · obtain ⟨c, calls, same, answersToo⟩ := goes.calls
          apply tracked.congr goes.downloads (fun _ => goes.initialized.trans there)
          · simp only [unfinished, calls, unfinishedIn, List.filterMap_cons, same]
            exact perm.symm
          · intro call member
            rw [calls] at member
            rcases List.mem_cons.mp member with rfl | early
            · exact answersToo
            · exact tracked.answers call (mem_of_mem_eraseIdx early)
        · have left_ : (Session.goOn { s with calls := s.calls.eraseIdx index } response
              next).unfinished = unfinishedIn (s.calls.eraseIdx index) := by
            simp only [unfinished, goes.calls]
          -- The image has no second task, so none is left without an entry.
          have nodup := (perm.map (·.1)).nodup_iff.mp tracked.alone
          simp only [Option.toList_some, List.singleton_append, List.map_cons,
            List.nodup_cons] at nodup
          refine ⟨?_, ?_, ?_, ?_⟩
          · intro _ _ _
            exact goes.initialized.trans there
          · rw [left_]
            exact nodup.2
          · intro id n
            rw [left_, goes.downloads]
            by_cases here : id = imageID
            · subst here
              simp only [if_true]
              constructor
              · intro impossible
                cases impossible
              · intro remains
                exact absurd (List.mem_map.mpr ⟨_, remains, rfl⟩) nodup.1
            · simp only [here, if_false]
              rw [tracked.registered id n]
              refine Iff.trans perm.mem_iff ?_
              simp [here]
          · intro call member
            rw [goes.calls] at member
            exact tracked.answers call (mem_of_mem_eraseIdx member)

theorem perform_destinationURL {faults : Faults} {outside : Response} {v : Volume} {id : UUID}
    {fileExtension : String} {answer : Answer}
    (answered : (perform faults outside v (.destinationURL id fileExtension)).1 = .ok answer) :
    ∃ location, answer = .location location := by
  simp only [perform, App.answered] at answered
  split at answered
  · cases answered
    exact ⟨_, rfl⟩
  · cases answered

theorem Tracked.work (tracked : s.Tracked) {faults : Faults} {outside : Response}
    (done : s.work index faults outside = some t) : t.Tracked := by
  unfold Session.work at done
  cases found : s.calls[index]? with
  | none => simp [found] at done
  | some call =>
    obtain ⟨work, next, answered⟩ := call
    cases answered with
    | some response => simp [found] at done
    | none =>
      simp only [found, Option.some.injEq] at done
      subst done
      have answers := tracked.answers _ (List.mem_of_getElem? found)
      apply Tracked.congr tracked
      · rfl
      · exact id
      · simp only [unfinished, unfinishedIn_set found]
        exact List.Perm.refl _
      · intro call member
        rcases List.mem_or_eq_of_mem_set member with early | rfl
        · exact tracked.answers call early
        · intro imageID task isMade
          obtain ⟨⟨id, fileExtension, isWork⟩, -⟩ := answers imageID task isMade
          dsimp only at isWork
          subst isWork
          refine ⟨⟨id, fileExtension, rfl⟩, fun answer ok => ?_⟩
          exact perform_destinationURL (Option.some.inj ok)

theorem Tracked.download (tracked : s.Tracked) (entry : ImageCatalogEntry)
    (free : s.NoTask imageID) : (s.download entry imageID).1.Tracked := by
  unfold Session.download
  split
  · split
    · exact tracked
    · have added : Tracked { s with images := s.images ++ [catalogImage entry imageID] } :=
        tracked.leaves (.same rfl rfl rfl)
      exact added.begin free
  · exact tracked.leaves (.same rfl rfl rfl)

theorem Tracked.request (tracked : s.Tracked) {request : Request}
    (alone : s.BegunAlone (.call request)) : (s.request request).Tracked := by
  cases begins : beginsTask request with
  | false => exact tracked.leaves (request_leaves begins)
  | true =>
    cases request with
    | download entry imageID => exact tracked.download _ alone
    | createMachine env draft source =>
      cases source with
      | managedImage => cases begins
      | catalogEntry id =>
        simp only [Session.request, createMachine]
        split
        · split
          · exact tracked
          · rename_i entry _
            have downloads := tracked.download entry alone
            cases result : s.download entry env.imageID with
            | mk u created =>
              rw [result] at downloads
              cases created with
              | none => exact downloads
              | some imageID => exact downloads.leaves createFromImage_leaves
        · exact tracked
    | _ => cases begins

theorem recordPhase_leaves {phase : DownloadPhase} :
    LeavesTasks s (s.recordPhase imageID phase) := by
  unfold recordPhase
  split
  · exact .refl s
  · cases phase <;> exact .same rfl rfl rfl

theorem Tracked.step (tracked : s.Tracked) (alone : s.BegunAlone event)
    (taken : s.step event = some t) : t.Tracked := by
  unfold Session.step at taken
  split at taken
  · cases taken
  · cases event with
    | call request =>
      cases taken
      exact tracked.request alone
    | work index faults outside => exact tracked.work taken
    | resume index => exact tracked.resume alone taken
    | runtimeChanges id state =>
      cases taken
      exact tracked.leaves runtimeChanges_leaves
    | progress imageID phase =>
      cases taken
      exact tracked.leaves recordPhase_leaves

/-- With one task to an image there is no older one. -/
theorem Tracked.sparesNewer (tracked : s.Tracked) : s.SparesNewer event t := by
  intro index call imageID task newer _ found own also later
  have perm := unfinishedIn_perm found
  rw [own] at perm
  have member : (imageID, task) ∈ s.unfinished := perm.mem_iff.mpr List.mem_cons_self
  have least := (tracked.newest member).2 newer also
  omega

theorem Tracked.reachesLive (tracked : s.Tracked) (taken : s.step event = some t) :
    s.ReachesLive event t := by
  rintro imageID task rfl ⟨live, -⟩
  have registered := (tracked.registered imageID task).mpr live
  unfold Session.step at taken
  split at taken
  · cases taken
  · cases taken
    simp [Session.request, cancelDownload, registered]

/-- The registry follows the downloads in every run that begins a task for an image only when
its earlier tasks have ended. -/
theorem registry_follows (s : Session) (events : List SessionEvent) (idle : s.calls = [])
    (cleared : ∀ imageID, s.downloads imageID = none) (alone : Meets step BegunAlone s events) :
    Along step Follows s events := by
  apply along_of_meets (I := Tracked) _ _ s events _ alone
  · intro s event t tracked alone taken
    exact tracked.step alone taken
  · intro s event t tracked alone taken
    exact ⟨(tracked.step alone taken).follows, tracked.sparesNewer, tracked.reachesLive taken⟩
  · refine ⟨?_, ?_, ?_, ?_⟩ <;> simp [unfinished, unfinishedIn, idle, cleared]

/-- An entry of the catalog. -/
def sampleEntry : ImageCatalogEntry where
  id := "alpine"
  name := "Alpine"
  architecture := .arm64
  artifactKind := .installerISO
  remoteURL := "alpine.iso"
  sha256 := "aa"
  sizeBytes := 1

/-- A library that lists the entry and has no images. -/
def sampleSession : Session where
  initialized := true
  catalog := [sampleEntry]

theorem registry_follows_download :
    Along step Follows sampleSession [.call (.download sampleEntry ⟨7⟩),
      .call (.cancelDownload ⟨7⟩)] := by
  apply registry_follows
  · rfl
  · intro imageID
    rfl
  · apply Meets.next rfl
    · intro task member
      cases member
    · apply Meets.next rfl
      · trivial
      · trivial

/-- A retry begins a second task; the first one fails and marks what the second downloads. -/
theorem first_task_marks_second :
    ¬ ∀ s events, s.calls = [] → (∀ imageID, s.downloads imageID = none) →
      Along step Follows s events := by
  intro always
  let noFaults : Faults := fun _ => none
  let diskFull : Faults := fun step => if step = .persist then some ⟨"disk full", fun _ => true, none⟩ else none
  have along := always sampleSession
    [.call (.download sampleEntry ⟨7⟩), .call (.retryDownload (catalogImage sampleEntry ⟨7⟩)),
      .work 0 noFaults (.ok .returns), .resume 0, .work 0 noFaults (.ok .returns), .resume 0,
      .work 1 noFaults (.ok .returns), .resume 1, .work 0 diskFull (.ok .returns), .resume 0]
    rfl (fun _ => rfl)
  have last := ((((((((((along _ rfl).2 _ rfl).2 _ rfl).2 _ rfl).2 _ rfl).2 _ rfl).2 _ rfl).2 _
    rfl).2 _ rfl).2 _ rfl).1
  obtain ⟨same, -⟩ := last.2.1 0 _ ⟨7⟩ 0 1 rfl rfl rfl (by decide) (by decide)
  cases same

end SimpleVM.App.Session
