import SimpleVM.App.Session

/-!
# What image events do to machines

A download reports to every machine that was made from its image, whatever the machine has
become since. The reports that matter are those that find a machine settled, and a progress
report that finds the image available.
-/
namespace SimpleVM.App.Session

open Domain Effects Storage Transition

/-- The machine boots from its own disk, or its installation has begun. -/
def isSettled (m : Machine) : Bool :=
  decide (m.bootMedia = .systemDisk) || decide (m.provisioningState = .installing) ||
    decide (m.provisioningState = .ready)

def isAvailable : ImageAvailability → Bool
  | .available _ => true
  | _ => false

/-- The continuations of download tasks and of retries. -/
def isDownloadNext : Next → Bool
  | .downloadBegun _ _ _ | .downloadListed _ _ | .destinationMade _ _ | .downloaded _ _ _
  | .downloadSaved _ _ | .failureSaved _ _ _ | .cancelledFilesRemoved _ _
  | .cancellationSaved _ _ | .retryFilesRemoved _ _ | .retrySaved _ _ => true
  | _ => false

/-- A step of a download, of a retry, or a report of progress. -/
def isImageEvent (s : Session) : SessionEvent → Bool
  | .progress _ _ => true
  | .resume index =>
    match s.calls[index]? with
    | some call => isDownloadNext call.next
    | none => false
  | _ => false

/-- The state a report puts machines in. -/
def DownloadPhase.provisioningState : DownloadPhase → MachineProvisioningState
  | .downloading progress => .downloading progress
  | .verifying => .verifying

/-- The provisioning state that the catch block of a download task records. -/
def failureState (s : Session) (imageID : UUID) (task : Nat) (failure : Failure) :
    Option (UUID × MachineProvisioningState) :=
  if task ∈ s.cancelledTasks ∨ failure = .cancelled then none
  else some (imageID, .failed failure.localizedDescription)

def notInitializedFailure : Failure := .error (.app .notInitialized)

/-- The provisioning state a call records when it goes on, and for the machines of which image. -/
def recordedState (s : Session) : Response → Next → Option (UUID × MachineProvisioningState)
  | _, .downloadBegun _ imageID task =>
    if s.initialized then none else s.failureState imageID task notInitializedFailure
  | .error failure, .downloadListed imageID task
  | .error failure, .destinationMade imageID task
  | .error failure, .downloaded imageID task _
  | .error failure, .downloadSaved imageID task => s.failureState imageID task failure
  | .ok _, .downloaded imageID task _ =>
    if s.initialized then some (imageID, .readyToInstall)
    else s.failureState imageID task notInitializedFailure <|> some (imageID, .readyToInstall)
  | _, .cancelledFilesRemoved imageID _ => some (imageID, .failed "Image download canceled.")
  | _, .retryFilesRemoved _ imageID => some (imageID, .downloading 0)
  | _, _ => none

/-- The same for an event. -/
def eventState (s : Session) : SessionEvent → Option (UUID × MachineProvisioningState)
  | .progress imageID phase => (s.image imageID).map fun _ => (imageID, phase.provisioningState)
  | .resume index =>
    match s.calls[index]? with
    | some ⟨_, next, some response⟩ => s.recordedState response next
    | _ => none
  | _ => none

/-- Every machine made from the image gets the state. -/
def provision (machines : List Machine) :
    Option (UUID × MachineProvisioningState) → List Machine
  | none => machines
  | some (imageID, state) => machines.map fun m =>
      if m.sourceImageID = imageID then { m with provisioningState := state } else m

variable {s t : Session} {imageID : UUID} {task : Nat} {failure : Failure} {response : Response}
  {next : Next} {event : SessionEvent}

theorem provision_provision {machines : List Machine} {first second : MachineProvisioningState} :
    provision (provision machines (some (imageID, first))) (some (imageID, second)) =
      provision machines (some (imageID, second)) := by
  simp only [provision, List.map_map]
  apply List.map_congr_left
  intro m _
  by_cases made : m.sourceImageID = imageID <;> simp [made]

theorem persist_machines {refused : Session → Session}
    (same : (refused s).app.machines = s.app.machines) :
    (s.persist next refused).app.machines = s.app.machines := by
  unfold persist
  split
  · rfl
  · exact same

theorem downloadFailed_machines :
    (s.downloadFailed imageID task failure).app.machines =
      provision s.app.machines (s.failureState imageID task failure) := by
  unfold downloadFailed failureState
  split
  · rfl
  · exact persist_machines rfl

theorem beginDownload_machines {entry : ImageCatalogEntry} :
    (s.beginDownload entry imageID).app.machines = s.app.machines := by
  unfold beginDownload
  split <;> rfl

theorem downloaded_machines {destination : Location} {answer : Answer} :
    (s.downloaded imageID task destination (.ok answer)).app.machines =
      provision s.app.machines (s.recordedState (.ok answer) (.downloaded imageID task destination)) := by
  simp only [downloaded, persist, recordedState]
  split
  · rename_i initialized
    have there : s.initialized = true := initialized
    simp only [there, if_true]
    rfl
  · rename_i missing
    have none_ : s.initialized ≠ true := missing
    simp only [none_, Bool.false_eq_true, if_false, downloadFailed_machines]
    -- The failure is recorded over the success.
    simp only [failureState]
    split
    · rename_i cancelled
      have given_up : task ∈ s.cancelledTasks ∨ notInitializedFailure = .cancelled := cancelled
      rw [if_pos given_up]
      rfl
    · rename_i live
      have kept_up : ¬ (task ∈ s.cancelledTasks ∨ notInitializedFailure = .cancelled) := live
      rw [if_neg kept_up]
      exact provision_provision

/-- What a call of a download or of a retry does to the machines. -/
theorem goOn_machines (image : isDownloadNext next = true) :
    (s.goOn response next).app.machines = provision s.app.machines (s.recordedState response next) := by
  cases next with
  | downloadBegun entry imageID task =>
    simp only [goOn, downloadBegun, persist, recordedState]
    split
    · rfl
    · exact downloadFailed_machines
  | downloadListed imageID task =>
    cases response with
    | ok answer => rfl
    | error failure => exact downloadFailed_machines
  | destinationMade imageID task =>
    cases response with
    | ok answer => cases answer <;> rfl
    | error failure => exact downloadFailed_machines
  | downloaded imageID task destination =>
    cases response with
    | ok answer => exact downloaded_machines
    | error failure => exact downloadFailed_machines
  | downloadSaved imageID task =>
    cases response with
    | ok answer => rfl
    | error failure => exact downloadFailed_machines
  | failureSaved imageID task failure => cases response <;> rfl
  | cancelledFilesRemoved imageID task =>
    cases response <;> exact persist_machines rfl
  | cancellationSaved imageID task => cases response <;> rfl
  | retryFilesRemoved entry imageID =>
    cases response <;> exact persist_machines beginDownload_machines
  | retrySaved entry imageID =>
    cases response <;> exact beginDownload_machines
  | _ => cases image

theorem recordPhase_machines {phase : DownloadPhase} :
    (s.recordPhase imageID phase).app.machines =
      provision s.app.machines ((s.image imageID).map fun _ => (imageID, phase.provisioningState)) := by
  unfold recordPhase
  cases s.image imageID with
  | none => rfl
  | some image => cases phase <;> rfl

/-- An image event gives one state to the machines of one image. -/
theorem step_machines (image : s.isImageEvent event = true) (taken : s.step event = some t) :
    t.app.machines = provision s.app.machines (s.eventState event) := by
  unfold step at taken
  split at taken
  · cases taken
  · cases event with
    | progress imageID phase =>
      cases taken
      exact recordPhase_machines
    | resume index =>
      simp only [resume] at taken
      simp only [isImageEvent] at image
      simp only [eventState]
      cases found : s.calls[index]? with
      | none => simp [found] at taken
      | some call =>
        obtain ⟨work, next, answered⟩ := call
        cases answered with
        | none => simp [found] at taken
        | some response =>
          simp only [found, Option.some.injEq] at taken image ⊢
          subst taken
          exact goOn_machines image
    | _ => cases image

/-- An image event leaves settled machines alone, and no report of progress takes an available
image or the machines made from it back. -/
def NoRegress (s : Session) (event : SessionEvent) (t : Session) : Prop :=
  (s.isImageEvent event = true →
    ∀ (index : Nat) (m : Machine), s.app.machines[index]? = some m → isSettled m = true →
      ∃ m' : Machine, t.app.machines[index]? = some m' ∧ m'.provisioningState = m.provisioningState) ∧
  (∀ imageID phase image, event = .progress imageID phase → s.image imageID = some image →
    isAvailable image.availability = true →
      t.image imageID = some image ∧ t.app.machines = s.app.machines)

/-- The settled machines of an image are in the state its events record, and the progress of a
download is reported before its success. -/
def Harmless (s : Session) (event : SessionEvent) : Prop :=
  (∀ imageID state, s.eventState event = some (imageID, state) →
    ∀ m ∈ s.app.machines, m.sourceImageID = imageID → isSettled m = true →
      m.provisioningState = state) ∧
  (∀ imageID phase image, event = .progress imageID phase → s.image imageID = some image →
    isAvailable image.availability = false)

theorem isImageEvent_of_eventState {recorded : UUID × MachineProvisioningState}
    (records : s.eventState event = some recorded) : s.isImageEvent event = true := by
  cases event with
  | progress imageID phase => rfl
  | resume index =>
    simp only [eventState] at records
    simp only [isImageEvent]
    cases found : s.calls[index]? with
    | none => simp [found] at records
    | some call =>
      obtain ⟨work, next, answered⟩ := call
      cases answered with
      | none => simp [found] at records
      | some response =>
        simp only [found] at records ⊢
        cases next <;> cases response <;> first | rfl | cases records
  | _ => cases records

theorem setAvailability_image {availability : ImageAvailability} {image : MachineImage}
    (found : s.image imageID = some image) :
    (s.setAvailability imageID availability).image imageID =
      some { image with availability := availability } := by
  obtain ⟨images⟩ : ∃ images, s.images = images := ⟨_, rfl⟩
  simp only [Session.image, setAvailability, updateImage] at found ⊢
  generalize s.images = images at found ⊢
  induction images with
  | nil => cases found
  | cons first rest ih =>
    by_cases here : first.id = imageID
    · simp only [List.find?_cons, here, decide_true, Option.some.injEq] at found
      subst found
      simp [updateFirst, here]
    · simp only [List.find?_cons, here, decide_false] at found
      simp [updateFirst, here, ih found]

/-- A report takes an available image back. -/
theorem recordPhase_image (phase : DownloadPhase) {image : MachineImage}
    (found : s.image imageID = some image) :
    ∃ image', (s.recordPhase imageID phase).image imageID = some image' ∧
      isAvailable image'.availability = false := by
  unfold recordPhase
  rw [found]
  cases phase with
  | downloading progress => exact ⟨_, setAvailability_image found, rfl⟩
  | verifying => exact ⟨_, setAvailability_image found, rfl⟩

theorem noRegress_of_harmless (harmless : s.Harmless event) (taken : s.step event = some t) :
    s.NoRegress event t := by
  constructor
  · intro image index m here settled
    rw [step_machines image taken]
    cases records : s.eventState event with
    | none => exact ⟨m, here, rfl⟩
    | some recorded =>
      obtain ⟨imageID, state⟩ := recorded
      simp only [provision, List.getElem?_map, here, Option.map_some, Option.some.injEq,
        exists_eq_left']
      split
      · rename_i made
        exact (harmless.1 imageID state records m (List.mem_of_getElem? here) made settled).symm
      · rfl
  · intro imageID phase image isReport found available
    have missing := harmless.2 imageID phase image isReport found
    rw [missing] at available
    cases available

theorem harmless_of_noRegress (taken : s.step event = some t) (safe : s.NoRegress event t) :
    s.Harmless event := by
  constructor
  · intro imageID state records m member made settled
    have image := isImageEvent_of_eventState records
    obtain ⟨index, here⟩ := List.getElem?_of_mem member
    obtain ⟨m', there, same⟩ := safe.1 image index m here settled
    rw [step_machines image taken, records] at there
    simp only [provision, List.getElem?_map, here, Option.map_some, Option.some.injEq, made,
      if_true] at there
    subst there
    exact same.symm
  · intro imageID phase image isReport found
    subst isReport
    cases available : isAvailable image.availability with
    | false => rfl
    | true =>
      obtain ⟨same, -⟩ := safe.2 imageID phase image rfl found available
      obtain ⟨image', moved, gone⟩ := recordPhase_image phase found
      unfold step at taken
      split at taken
      · cases taken
      · cases taken
        rw [same] at moved
        cases moved
        rw [available] at gone
        cases gone

/-- Provisioning does not regress in exactly the runs in which every image event finds the settled
machines of its image in the state it records, and no progress is reported of an available
image. -/
theorem provisioning_keeps_iff (s : Session) (events : List SessionEvent) :
    Along step NoRegress s events ↔ Meets step Harmless s events := by
  apply along_iff_meets (I := fun _ => True)
  · intros
    trivial
  · intro s event t _ harmless taken
    exact noRegress_of_harmless harmless taken
  · intro s event t _ taken safe
    exact harmless_of_noRegress taken safe
  · trivial

/-- A machine was started from its installer's image, made to boot from its own disk, and the
image's download was lost; the machine is back at `downloading` when the user retries it. -/
theorem retry_regresses_ready_machine :
    ¬ ∀ s events, Along step NoRegress s events := by
  intro always
  let imageID : UUID := ⟨7⟩
  let entry : ImageCatalogEntry :=
    { id := "alpine", name := "Alpine", architecture := .arm64, artifactKind := .installerISO,
      remoteURL := "alpine.iso", sha256 := "aa", sizeBytes := 1 }
  let image : MachineImage :=
    { catalogImage entry imageID with
      availability := .failed "The transfer was interrupted. Retry the download." }
  let machine : Machine :=
    { id := ⟨1⟩, name := "A", sourceImageID := imageID, disk := ⟨⟨2⟩, "Machines/A/Disk.img", 1⟩,
      spec := { cpuCount := 2, memorySizeBytes := 1, diskSizeBytes := 1, architecture := .arm64 },
      provisioningState := .ready, bootMedia := .systemDisk, backend := .appleVirtualization,
      backendState := ⟨"Machines/A/Backend"⟩, createdAt := 0 }
  let s : Session :=
    { initialized := true, app := { machines := [machine] }, images := [image],
      catalog := [entry] }
  have along := always s [.call (.retryDownload image), .work 0 (fun _ => none) (.ok .returns),
    .resume 0]
  have last := (((along _ rfl).2 _ rfl).2 _ rfl).1
  obtain ⟨after, found, same⟩ := last.1 rfl 0 machine rfl rfl
  cases found
  cases same

end SimpleVM.App.Session
