import SimpleVM.App.DownloadRegistry
import SimpleVM.App.Restoration

/-!
# The removal of orphans

`initialize` removes what the snapshot it has loaded does not reference, and puts the snapshot
in the place of the lists. Nothing is lost as long as no second `initialize` is called before
the first one has set the stores: only then are there no machines and images but those of the
snapshot.
-/
namespace SimpleVM.App.Session

open Domain Effects Storage Transition

/-- The directory of what the call is creating. -/
def creating (next : Next) : Option ManagedDirectory :=
  match next with
  | .fixtureCreated fixture _ => some (.machine fixture.env.machineID)
  | .toolsPrepared env _ _ | .filesCreated env _ _ _ | .diskProvisioned env _ _ _ _ _
  | .filesCloned env _ => some (.machine env.machineID)
  | .machineSaved id | .cloneSaved id => some (.machine id)
  | .fileImported env _ _ _ _ | .fileDigested env _ _ _ _ _ => some (.image env.imageID)
  | .importSaved id => some (.image id)
  | next => (taskOf next).map fun own => .image own.1

/-- The lists have the machine or image of the directory. -/
def HasOwner (snapshot : LibrarySnapshot) : ManagedDirectory → Prop
  | .machine id => ∃ m ∈ snapshot.machines, m.id = id
  | .image id => ∃ image ∈ snapshot.images, image.id = id

/-- The machine or image of the directory is in memory, in `library.json`, or being created. -/
def Live (s : Session) (d : ManagedDirectory) : Prop :=
  HasOwner s.snapshot d ∨ HasOwner s.volume.library d ∨
    ∃ c ∈ s.calls, creating c.next = some d

/-- The removal of orphans spares what is live, and an `initialize` that completes lists it. -/
def SparesLive (s : Session) (event : SessionEvent) (t : Session) : Prop :=
  match event with
  | .work index _ _ => ∀ c, s.calls[index]? = some c → sweeps c.work = true →
      ∀ d, s.Live d → SameDirectory d s.volume t.volume
  | .resume index => ∀ work snapshot machines answer,
      s.calls[index]? = some ⟨work, .imagesCleaned snapshot machines, some (.ok answer)⟩ →
      s.bundled.isSome = true → ∀ d, s.Live d → HasOwner t.snapshot d
  | _ => True

/-- The operations that `initialize` may overlap with. -/
def creates : SessionEvent → Bool
  | .call request =>
    match request with
    | .initializeModel _ | .createMachine _ _ _ | .cloneMachine _ _ | .importImage _ _ _ _ _
    | .download _ _ | .cancelDownload _ | .retryDownload _ => true
    | _ => false
  | .runtimeChanges _ _ => false
  | .work _ _ _ | .resume _ | .progress _ _ => true

/-- `initialize` is not called again before it has set the stores, or has failed. -/
def InitializesOnce (s : Session) : SessionEvent → Prop
  | .call (.initializeModel _) =>
    s.initialized = false → ∀ c ∈ s.calls, isRestoring c.next = false
  | _ => True

/-- No call removes orphans any more. -/
def Clean (s : Session) : Prop :=
  ∀ c ∈ s.calls, isRestoring c.next = false ∧ sweeps c.work = false

/-- Nothing has been done but to begin to initialize. -/
structure Unstarted (s : Session) : Prop where
  machines : s.app.machines = []
  images : s.images = []
  catalog : s.catalog = []
  calls : s.calls = [] ∨ ∃ c, s.calls = [c] ∧ isRestoring c.next = true ∧ Restores s.volume c

/-- Before the stores are set there is nothing but the library, afterwards no removal. -/
structure Cleaning (s : Session) : Prop where
  ready : s.initialized = true → s.Clean
  fresh : s.initialized = false → s.Unstarted

variable {s t : Session} {c : Call} {work : Work} {next : Next} {response : Response} {index : Nat}
  {event : SessionEvent} {owed stray : Prop}

section Ready

theorem Clean.suspends (clean : s.Clean) (suspends : Suspends s t) : t.Clean := by
  obtain ⟨new, calls, plain⟩ := suspends.calls
  intro c member
  rw [calls] at member
  rcases List.mem_append.mp member with late | early
  · exact ⟨live_of_plain (plain c late), sweepsNothing_of_plain (plain c late)⟩
  · exact clean c early

/-- Only `initialize` removes orphans. -/
theorem Clean.outcome (clean : s.Clean) (outcome : Outcome s t owed stray) :
    t.initialized = s.initialized ∧ t.Clean := by
  cases outcome with
  | quiet suspends _ _ => exact ⟨suspends.initialized, clean.suspends suspends⟩
  | owing suspends _ => exact ⟨suspends.initialized, clean.suspends suspends⟩
  | refused suspends _ => exact ⟨suspends.initialized, clean.suspends suspends⟩
  | astray suspends _ => exact ⟨suspends.initialized, clean.suspends suspends⟩
  | persisted u next before ready live after _ =>
    have saving : (u.suspend (.save u.snapshot) next).Clean := by
      intro c member
      rcases List.mem_cons.mp member with rfl | rest
      · exact ⟨live, rfl⟩
      · exact clean.suspends before c rest
    exact ⟨after.initialized.trans before.initialized, saving.suspends after⟩

theorem Clean.perform {faults : Faults} {outside : Response} (clean : s.Clean)
    (taken : s.work index faults outside = some t) :
    t.initialized = s.initialized ∧ t.Clean := by
  unfold Session.work at taken
  split at taken
  next work next found =>
    cases taken
    refine ⟨rfl, fun c member => ?_⟩
    rcases List.mem_or_eq_of_mem_set member with kept | rfl
    · exact clean c kept
    · exact clean ⟨work, next, none⟩ (List.mem_of_getElem? found)
  · cases taken

theorem Clean.resume (clean : s.Clean) (taken : s.resume index = some t) :
    t.initialized = s.initialized ∧ t.Clean := by
  unfold Session.resume at taken
  split at taken
  next work next response found =>
    cases taken
    have rest : ({ s with calls := s.calls.eraseIdx index } : Session).Clean :=
      fun c member => clean c (mem_of_mem_eraseIdx member)
    have live : isRestoring next = false := (clean _ (List.mem_of_getElem? found)).1
    exact rest.outcome (goOn_outcome live)
  · cases taken

/-- Once the stores are set no step removes orphans or sets them again. -/
theorem Clean.step (clean : s.Clean) (ready : s.initialized = true)
    (taken : s.step event = some t) : t.initialized = s.initialized ∧ t.Clean := by
  unfold Session.step at taken
  split at taken
  · cases taken
  · cases event with
    | work index faults outside => exact clean.perform taken
    | resume index => exact clean.resume taken
    | runtimeChanges id state =>
      cases taken
      exact clean.outcome (runtimeChanges_outcome : Outcome s _ False False)
    | progress imageID phase =>
      cases taken
      exact ⟨recordPhase_suspends.initialized, clean.suspends recordPhase_suspends⟩
    | call request =>
      cases taken
      cases request with
      | initializeModel fixture =>
        simp only [Session.request, initializeModel, ready, if_true]
        exact ⟨trivial, clean⟩
      | _ => exact clean.outcome (request_outcome (by simp) : Outcome s _ False False)

end Ready

section Unready

/-- Nothing that the removal depends on has changed. -/
structure SameStart (s t : Session) : Prop where
  initialized : t.initialized = s.initialized
  volume : t.volume = s.volume
  machines : t.app.machines = s.app.machines
  images : t.images = s.images
  catalog : t.catalog = s.catalog
  calls : t.calls = s.calls

theorem Unstarted.same (unstarted : s.Unstarted) (same : SameStart s t) : t.Unstarted where
  machines := same.machines.trans unstarted.machines
  images := same.images.trans unstarted.images
  catalog := same.catalog.trans unstarted.catalog
  calls := by
    rw [same.calls, same.volume]
    exact unstarted.calls

/-- The only call in flight is a step of `initialize`. -/
theorem Unstarted.only (unstarted : s.Unstarted) (found : s.calls[index]? = some c) :
    s.calls = [c] ∧ index = 0 ∧ isRestoring c.next = true ∧ Restores s.volume c := by
  rcases unstarted.calls with idle | ⟨own, calls, restoring, restores⟩
  · rw [idle] at found
    cases found
  · rw [calls] at found
    cases index with
    | zero =>
      cases found
      exact ⟨calls, rfl, restoring, restores⟩
    | succ index => cases found

/-- Without the stores every other operation is refused. -/
theorem Unstarted.request {request : Request} (unstarted : s.Unstarted)
    (unready : s.initialized = false) (allowed : creates (.call request) = true)
    (other : ∀ fixture, request ≠ .initializeModel fixture) : SameStart s (s.request request) := by
  cases request with
  | initializeModel fixture => exact absurd rfl (other fixture)
  | createMachine env draft source =>
    have invalid : s.draftIsValid env draft = false := by simp [draftIsValid, unready]
    cases source <;>
      simp only [Session.request, createMachine, invalid, Bool.false_eq_true, if_false] <;>
      exact ⟨rfl, rfl, rfl, rfl, rfl, rfl⟩
  | cloneMachine env machine =>
    simp only [Session.request, cloneMachine, unready, Bool.false_eq_true, if_false]
    exact ⟨rfl, rfl, rfl, rfl, rfl, rfl⟩
  | importImage env source operatingSystem architecture artifactKind =>
    simp only [Session.request, importImage, unready, Bool.false_eq_true, if_false]
    exact ⟨rfl, rfl, rfl, rfl, rfl, rfl⟩
  | download entry imageID =>
    simp only [Session.request, download, unready, Bool.false_eq_true, if_false]
    exact ⟨rfl, rfl, rfl, rfl, rfl, rfl⟩
  | cancelDownload imageID =>
    simp only [Session.request, cancelDownload]
    split <;> exact ⟨rfl, rfl, rfl, rfl, rfl, rfl⟩
  | retryDownload image =>
    simp only [Session.request, retryDownload, unstarted.catalog, List.find?_nil]
    exact ⟨rfl, rfl, rfl, rfl, rfl, rfl⟩
  | _ => cases allowed

/-- `initialize` goes on alone. -/
theorem Unstarted.restoration (unstarted : s.Unstarted) (unready : s.initialized = false)
    (idle : s.calls = []) (restoration : Restoration s t) : t.Cleaning := by
  cases restoration with
  | stops initialized volume calls same catalog =>
    have start : SameStart s t := ⟨initialized, volume, congrArg LibrarySnapshot.machines same,
      congrArg LibrarySnapshot.images same, catalog, calls⟩
    refine ⟨fun ready => ?_, fun _ => unstarted.same start⟩
    rw [initialized, unready] at ready
    cases ready
  | continues work next suspends restoring restores =>
    have calls : t.calls = [⟨work, next, none⟩] := by rw [suspends, suspend_calls, idle]
    subst suspends
    refine ⟨fun ready => ?_, fun _ => ?_⟩
    · rw [show s.initialized = true from ready] at unready
      cases unready
    · exact ⟨unstarted.machines, unstarted.images, unstarted.catalog,
        .inr ⟨_, calls, restoring, restores⟩⟩
  | finishes snapshot same lists images ready volume calls =>
    refine ⟨fun _ c member => ?_, fun unready => ?_⟩
    · rw [calls, idle, List.mem_singleton] at member
      subst member
      exact ⟨rfl, rfl⟩
    · rw [ready] at unready
      cases unready

theorem Unstarted.resume (unstarted : s.Unstarted) (unready : s.initialized = false)
    (taken : s.resume index = some t) : t.Cleaning := by
  unfold Session.resume at taken
  split at taken
  next work next response found =>
    cases taken
    obtain ⟨calls, rfl, restoring, restores⟩ := unstarted.only found
    have alone : s.calls.eraseIdx 0 = [] := by
      rw [calls]
      rfl
    have rest : ({ s with calls := s.calls.eraseIdx 0 } : Session).Unstarted :=
      ⟨unstarted.machines, unstarted.images, unstarted.catalog, .inl alone⟩
    exact rest.restoration unready alone (goOn_restoration restoring restores)
  · cases taken

/-- The work of `initialize` leaves `library.json`. -/
theorem Unstarted.perform {faults : Faults} {outside : Response} (unstarted : s.Unstarted)
    (taken : s.work index faults outside = some t) :
    t.initialized = s.initialized ∧ t.Unstarted := by
  unfold Session.work at taken
  split at taken
  next work next found =>
    cases taken
    obtain ⟨calls, rfl, restoring, restores⟩ := unstarted.only found
    have kept : (App.perform faults outside s.volume work).2.library = s.volume.library :=
      perform_library (restores.savesNothing restoring)
    have done := (restores.answered faults outside).of_library kept
    have alone : s.calls.set 0 ⟨work, next, some (App.perform faults outside s.volume work).1⟩ =
        [⟨work, next, some (App.perform faults outside s.volume work).1⟩] := by
      rw [calls]
      rfl
    exact ⟨rfl, unstarted.machines, unstarted.images, unstarted.catalog,
      .inr ⟨_, alone, restoring, done⟩⟩
  · cases taken

end Unready

/-- Step lemma: as long as `initialize` is called once at a time, nothing is created before the
stores are set, and nothing removed afterwards. -/
theorem Cleaning.step (cleaning : s.Cleaning) (allowed : creates event = true)
    (once : s.InitializesOnce event) (taken : s.step event = some t) : t.Cleaning := by
  -- Once the library is listed no cleanup is under way; before that only its one `initialize` is.
  cases ready : s.initialized with
  | true =>
    obtain ⟨still, clean⟩ := (cleaning.ready ready).step ready taken
    refine ⟨fun _ => clean, fun unready => ?_⟩
    rw [still, ready] at unready
    cases unready
  | false =>
    have unstarted := cleaning.fresh ready
    have keeps {u : Session} (initialized : u.initialized = s.initialized)
        (unstarted : u.Unstarted) : u.Cleaning := by
      refine ⟨fun started => ?_, fun _ => unstarted⟩
      rw [initialized, ready] at started
      cases started
    unfold Session.step at taken
    split at taken
    · cases taken
    · cases event with
      | work index faults outside =>
        obtain ⟨initialized, after⟩ := unstarted.perform taken
        exact keeps initialized after
      | resume index => exact unstarted.resume ready taken
      | runtimeChanges id state => cases allowed
      | progress imageID phase =>
        cases taken
        have unknown : s.image imageID = none := by simp [Session.image, unstarted.images]
        simp only [recordPhase, unknown]
        exact cleaning
      | call request =>
        cases taken
        by_cases initializes : ∃ fixture, request = .initializeModel fixture
        · obtain ⟨fixture, rfl⟩ := initializes
          -- The condition excludes a second `initialize` beside the first.
          have idle : s.calls = [] := by
            rcases unstarted.calls with idle | ⟨c, calls, restoring, -⟩
            · exact idle
            · have live := once ready c (calls ▸ List.mem_singleton_self c)
              rw [restoring] at live
              cases live
          simp only [Session.request, initializeModel, ready, Bool.false_eq_true, if_false]
          refine keeps ready.symm ⟨unstarted.machines, unstarted.images, unstarted.catalog,
            .inr ⟨⟨.load, .libraryLoaded fixture, none⟩, ?_, rfl, rfl, fun _ loaded => ?_⟩⟩
          · rw [suspend_calls, idle]
          · cases loaded
        · have same := unstarted.request ready allowed fun fixture is => initializes ⟨fixture, is⟩
          exact keeps same.initialized (unstarted.same same)

section Sparing

/-- Before the stores are set the library is all there is. -/
theorem Unstarted.live (unstarted : s.Unstarted) (restoring : ∀ c ∈ s.calls, creating c.next = none)
    {d : ManagedDirectory} (live : s.Live d) : HasOwner s.volume.library d := by
  rcases live with listed | saved | ⟨c, member, makes⟩
  · cases d with
    | machine id =>
      obtain ⟨m, member, -⟩ := listed
      simp only [Session.snapshot, unstarted.machines] at member
      cases member
    | image id =>
      obtain ⟨image, member, -⟩ := listed
      simp only [Session.snapshot, unstarted.images] at member
      cases member
  · exact saved
  · rw [restoring c member] at makes
    cases makes

/-- The removal of orphans keeps what the snapshot has. -/
theorem sweeps_spares {faults : Faults} {outside : Response} {v : Volume} {d : ManagedDirectory}
    (restores : Restores v c) (restoring : isRestoring c.next = true) (sweeping : sweeps c.work = true)
    (owner : HasOwner v.library d) :
    SameDirectory d v (perform faults outside v c.work).2 := by
  obtain ⟨work, next, response⟩ := c
  have answered {x : Store Unit} (keeps : Keeps (SameDirectory d) x) :
      SameDirectory d v (App.answered (fun _ => .returns) (x v)).2 := by
    have kept := keeps v
    unfold App.answered
    split
    next run =>
      rw [run] at kept
      exact kept
    next run =>
      rw [run] at kept
      exact kept
  -- The machines are swept by the identifiers of the library, and so are the images.
  cases next with
  | machinesCleaned fixture snapshot =>
    obtain ⟨rfl, rfl⟩ := restores
    refine answered (removeOrphaned_keeps ?_)
    cases d with
    | machine id =>
      obtain ⟨m, member, rfl⟩ := owner
      exact decide_eq_true (List.mem_map_of_mem member)
    | image id => rfl
  | imagesCleaned snapshot machines =>
    obtain ⟨rfl, -, rfl⟩ := restores
    refine answered (removeOrphaned_keeps ?_)
    cases d with
    | machine id => rfl
    | image id =>
      obtain ⟨image, member, rfl⟩ := owner
      exact decide_eq_true (List.mem_map_of_mem member)
  | libraryLoaded fixture =>
    obtain ⟨rfl, -⟩ := restores
    cases sweeping
  | fixtureCreated fixture snapshot =>
    rw [restores.2.2.2] at sweeping
    cases sweeping
  | snapshotsListed snapshot machines =>
    rw [restores.2.2.2] at sweeping
    cases sweeping
  | _ => cases restoring

theorem restoredImages_owner {snapshot : LibrarySnapshot} {image : MachineImage}
    (member : image ∈ snapshot.images) : ∃ i ∈ restoredImages snapshot, i.id = image.id := by
  refine ⟨_, List.mem_map_of_mem member, ?_⟩
  split <;> rfl

/-- An `initialize` that completes lists what is in `library.json`. -/
theorem imagesCleaned_lists {snapshot : LibrarySnapshot} {machines : List Machine} {answer : Answer}
    (restores : Restores s.volume ⟨work, .imagesCleaned snapshot machines, some (.ok answer)⟩)
    (bundled : s.bundled.isSome = true) {d : ManagedDirectory}
    (owner : HasOwner s.volume.library d) :
    HasOwner (s.goOn (.ok answer) (.imagesCleaned snapshot machines)).snapshot d := by
  obtain ⟨same, lists, -⟩ := restores
  obtain ⟨catalogs, here⟩ := Option.isSome_iff_exists.mp bundled
  subst same
  simp only [goOn, imagesCleaned, here]
  cases d with
  | machine id =>
    obtain ⟨m, member, rfl⟩ := owner
    exact lists.settled m member
  | image id =>
    obtain ⟨image, member, rfl⟩ := owner
    exact restoredImages_owner member

/-- With one `initialize` at a time what is live is what the snapshot has. -/
theorem Cleaning.spares (cleaning : s.Cleaning) (taken : s.step event = some t) :
    SparesLive s event t := by
  unfold Session.step at taken
  split at taken
  · cases taken
  · cases event with
    | work index faults outside =>
      intro c found sweeping d live
      -- A cleanup under way means that the library is not listed yet, so what is live is what the
      -- library holds.
      have unready : s.initialized = false := by
        refine Bool.eq_false_iff.mpr fun ready => ?_
        have clean := cleaning.ready ready c (List.mem_of_getElem? found)
        rw [sweeping] at clean
        cases clean.2
      have unstarted := cleaning.fresh unready
      obtain ⟨calls, rfl, restoring, restores⟩ := unstarted.only found
      have owner := unstarted.live (fun other member => ?_) live
      · have done : s.work 0 faults outside = some t := taken
        unfold Session.work at done
        split at done
        next work next here =>
          cases done
          rw [found] at here
          cases here
          exact sweeps_spares restores restoring sweeping owner
        · cases done
      · rw [calls, List.mem_singleton] at member
        subst member
        obtain ⟨work, next, response⟩ := other
        cases next with
        | fixtureCreated fixture snapshot =>
          rw [restores.2.2.2] at sweeping
          cases sweeping
        | libraryLoaded | machinesCleaned | snapshotsListed | imagesCleaned => rfl
        | _ => cases restoring
    | resume index =>
      intro work snapshot machines answer found bundled d live
      -- Likewise when the images have been swept and the library is listed.
      have unready : s.initialized = false := by
        refine Bool.eq_false_iff.mpr fun ready => ?_
        cases (cleaning.ready ready _ (List.mem_of_getElem? found)).1
      have unstarted := cleaning.fresh unready
      obtain ⟨calls, rfl, restoring, restores⟩ := unstarted.only found
      have owner := unstarted.live (fun other member => ?_) live
      · simp only [Session.resume, found, Option.some.injEq] at taken
        subst taken
        exact imagesCleaned_lists (s := { s with calls := s.calls.eraseIdx 0 }) restores bundled
          owner
      · rw [calls, List.mem_singleton] at member
        subst member
        rfl
    | _ => trivial

end Sparing

/-- Nothing live is removed or lost in a run from the launch in which `initialize` is called once
at a time. -/
theorem cleanup_spares_live (s : Session) (events : List SessionEvent)
    (unready : s.initialized = false) (machines : s.app.machines = []) (images : s.images = [])
    (catalog : s.catalog = []) (idle : s.calls = [])
    (allowed : ∀ event ∈ events, creates event = true) (once : Meets step InitializesOnce s events) :
    Along step SparesLive s events := by
  have kinds : Meets step (fun _ event => creates event = true) s events :=
    Meets.of_labels allowed
  refine along_of_meets (I := Cleaning) ?_ ?_ s events ?_ (kinds.and once)
  · intro s event t cleaning guarded taken
    exact cleaning.step guarded.1 guarded.2 taken
  · intro s event t cleaning _ taken
    exact cleaning.spares taken
  · refine ⟨fun ready => ?_, fun _ => ⟨machines, images, catalog, .inl idle⟩⟩
    rw [unready] at ready
    cases ready

/-- A download after an `initialize` that runs alone. -/
theorem download_after_initialize_spared :
    Along step SparesLive {} [.call (.initializeModel none), .work 0 (fun _ => none) (.ok .returns),
      .resume 0, .work 0 (fun _ => none) (.ok .returns), .resume 0,
      .work 0 (fun _ => none) (.ok .returns), .resume 0,
      .call (.download sampleEntry ⟨7⟩)] := by
  apply cleanup_spares_live
  · rfl
  · rfl
  · rfl
  · rfl
  · rfl
  · exact List.all_eq_true.mp rfl
  · apply Meets.next rfl
    · intro _ c member
      cases member
    · apply Meets.next rfl trivial
      apply Meets.next rfl trivial
      apply Meets.next rfl trivial
      apply Meets.next rfl trivial
      apply Meets.next rfl trivial
      apply Meets.next rfl trivial
      apply Meets.next rfl trivial
      trivial

section Overlap

variable (answer : Option Response)

/-- The calls of an `initialize` that has found no library. -/
def loading : Call := ⟨.load, .libraryLoaded none, answer⟩

def cleaningMachines : Call :=
  ⟨.removeOrphanedMachines [], .machinesCleaned none { machines := [], images := [] }, answer⟩

def cleaningImages : Call :=
  ⟨.removeOrphanedImages [], .imagesCleaned { machines := [], images := [] } [], answer⟩

end Overlap

/-- Only calls to `initialize` are in flight. -/
def launching (calls : List Call) : Session := { calls := calls }

/-- One window has set the stores while another has yet to remove the orphans of the images. -/
def lagging : Session where
  initialized := true
  calls := [⟨.outside, .toolsChecked { machines := [], images := [] } [], none⟩, cleaningImages none]

def overlapping : List SessionEvent :=
  [.call (.initializeModel none), .call (.initializeModel none),
    .work 0 (fun _ => none) (.ok .returns), .resume 0,
    .work 0 (fun _ => none) (.ok .returns), .resume 0,
    .work 1 (fun _ => none) (.ok .returns), .resume 1,
    .work 0 (fun _ => none) (.ok .returns), .resume 0,
    .work 0 (fun _ => none) (.ok .returns), .resume 0]

theorem overlapping_run : Run step {} overlapping lagging := by
  let loaded : Answer := .loaded { machines := [], images := [] }
  refine .next (t := launching [loading none]) rfl ?_
  refine .next (t := launching [loading none, loading none]) rfl ?_
  -- the second one loads the library and goes on to the images
  refine .next (t := launching [loading (some (.ok loaded)), loading none]) rfl ?_
  refine .next (t := launching [cleaningMachines none, loading none]) rfl ?_
  refine .next (t := launching [cleaningMachines (some (.ok .returns)), loading none]) rfl ?_
  refine .next (t := launching [cleaningImages none, loading none]) rfl ?_
  -- the first one completes
  refine .next (t := launching [cleaningImages none, loading (some (.ok loaded))]) rfl ?_
  refine .next (t := launching [cleaningMachines none, cleaningImages none]) rfl ?_
  refine .next (t := launching [cleaningMachines (some (.ok .returns)), cleaningImages none]) rfl ?_
  refine .next (t := launching [cleaningImages none, cleaningImages none]) rfl ?_
  refine .next (t := launching [cleaningImages (some (.ok .returns)), cleaningImages none]) rfl ?_
  exact .next rfl (.done lagging)

/-- Meanwhile a download has made the directory of its image. -/
def downloadingBeside : Session where
  initialized := true
  images := [catalogImage sampleEntry ⟨7⟩]
  downloads := fun other => if other = ⟨7⟩ then some 0 else none
  tasks := 1
  volume := { directories := [.image ⟨7⟩],
              metadata := some { machines := [], images := [catalogImage sampleEntry ⟨7⟩] } }
  calls := [⟨.destinationURL ⟨7⟩ "iso", .destinationMade ⟨7⟩ 0,
      some (.ok (.location (artifact ⟨7⟩ "iso")))⟩,
    ⟨.outside, .toolsChecked { machines := [], images := [] } [], none⟩, cleaningImages none]

def begunDownload : List SessionEvent :=
  [.call (.download sampleEntry ⟨7⟩), .work 0 (fun _ => none) (.ok .returns), .resume 0,
    .work 0 (fun _ => none) (.ok .returns), .resume 0, .work 0 (fun _ => none) (.ok .returns)]

theorem begunDownload_run : Run step lagging begunDownload downloadingBeside :=
  .next rfl (.next rfl (.next rfl (.next rfl (.next rfl (.next rfl (.done _))))))

/-- The second window removes the directory of an image that is being downloaded. -/
theorem second_initialize_removes_image :
    ¬ ∀ s events, s.initialized = false → s.app.machines = [] → s.images = [] → s.catalog = [] →
      s.calls = [] → (∀ event ∈ events, creates event = true) → Along step SparesLive s events := by
  intro always
  let noFaults : Faults := fun _ => none
  have along := always {} (overlapping ++ (begunDownload ++ [.work 2 noFaults (.ok .returns)]))
    rfl rfl rfl rfl rfl (List.all_eq_true.mp rfl)
  have last := (((along.after overlapping_run).after begunDownload_run) _ rfl).1
  have kept := (last _ rfl rfl (.image ⟨7⟩) (.inl ⟨_, List.mem_cons_self, rfl⟩)).2
  have gone : (perform noFaults (.ok .returns) downloadingBeside.volume
    (.removeOrphanedImages [])).2.directories = [] := rfl
  have left : ManagedDirectory.image ⟨7⟩ ∈ (perform noFaults (.ok .returns)
    downloadingBeside.volume (.removeOrphanedImages [])).2.directories :=
      kept.mpr List.mem_cons_self
  rw [gone] at left
  cases left

end SimpleVM.App.Session
