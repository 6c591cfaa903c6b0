import SimpleVM.App.Exclusion
import SimpleVM.App.Rollback
import SimpleVM.App.Session

/-!
# References to images

`removeImage` looks for machines of the image once, before it waits for the store, and a machine
that is being created or cloned is in no list yet. The references of the machines stay valid in
every run in which no image is removed that such a machine will boot from, and none is booted
from that is being removed.
-/
namespace SimpleVM.App.Session

open Domain Effects Storage Transition

/-- The image is in the library. -/
def HasImage (s : Session) (id : UUID) : Prop := ∃ image ∈ s.images, image.id = id

/-- Every installer that a machine boots from is in the library. -/
def Refers (s : Session) : Prop :=
  ∀ m ∈ s.app.machines, ∀ id, m.bootMedia = .installer id → s.HasImage id

/-- The files of the image are being removed. -/
def Removing (s : Session) (id : UUID) : Prop := ∃ c ∈ s.calls, c.next = .imageFilesRemoved id

/-- The installer that a machine which is being created or cloned will boot from. -/
def installs : Next → Option UUID
  | .toolsPrepared _ draft image | .filesCreated _ draft image _
  | .diskProvisioned _ draft image _ _ _ =>
    if ImageArtifactKind.isBootable image.artifactKind then none else some draft.imageID
  | .filesCloned _ machine =>
    match machine.bootMedia with
    | .systemDisk => none
    | .installer id => some id
  | _ => none

/-- References are valid after the step, and a removal that completes removes no image that a
machine which is being created or cloned will boot from. -/
def KeepsReferences (s : Session) (event : SessionEvent) (t : Session) : Prop :=
  t.Refers ∧ ∀ index work id answer, event = .resume index →
    s.calls[index]? = some ⟨work, .imageFilesRemoved id, some (.ok answer)⟩ →
    ∀ c ∈ s.calls, installs c.next ≠ some id

/-- The operations that make and remove machines and images. -/
def maintains : SessionEvent → Bool
  | .call request =>
    match request with
    | .createMachine _ _ _ | .cloneMachine _ _ | .deleteMachine _ | .ejectInstaller _
    | .download _ _ | .cancelDownload _ | .retryDownload _ | .importImage _ _ _ _ _
    | .removeImage _ => true
    | _ => false
  | .runtimeChanges _ _ => false
  | .work _ _ _ | .resume _ | .progress _ _ => true

/-- The image that `createMachine` creates a machine from. -/
def chosenImage (s : Session) (env : Environment) (draft : MachineDraft) :
    MachineCreationSource → Option MachineImage
  | .managedImage => s.image draft.imageID
  | .catalogEntry id =>
    match s.catalog.find? fun entry => entry.id = id with
    | none => none
    | some entry =>
      match s.existingImage entry with
      | some existing => s.image existing.id
      | none => (s.images ++ [catalogImage entry env.imageID]).find? fun image =>
          image.id = env.imageID

/-- A removal and a creation of one image do not overlap. -/
def Separate (s : Session) : SessionEvent → Prop
  | .call (.createMachine env draft source) => ∀ image, s.chosenImage env draft source = some image →
      ImageArtifactKind.isBootable image.artifactKind = false → ¬ s.Removing image.id
  | .call (.cloneMachine _ machine) => ∀ id, machine.bootMedia = .installer id →
      machine.sourceImageID = id ∧ s.HasImage id ∧ ¬ s.Removing id
  | .call (.removeImage image) => s.removalRefused image = none →
      ∀ c ∈ s.calls, installs c.next ≠ some image.id
  | _ => True

/-- A step of the operations that neither makes a machine nor removes an image. -/
def standsBy : Next → Bool
  | .machineSaved _ | .machineDiscarded | .cloneSaved _ | .cloneDiscarded _ | .machineRemoved _
  | .deletionSaved | .ejectionSaved | .fileImported _ _ _ _ _ | .fileDigested _ _ _ _ _ _
  | .importSaved _ | .importDiscarded | .downloadBegun _ _ _ | .downloadListed _ _
  | .destinationMade _ _ | .downloaded _ _ _ | .downloadSaved _ _ | .failureSaved _ _ _
  | .cancelledFilesRemoved _ _ | .cancellationSaved _ _ | .retryFilesRemoved _ _ | .retrySaved _ _
  | .removalSaved => true
  | _ => false

def takesPart : Next → Bool
  | .toolsPrepared _ _ _ | .filesCreated _ _ _ _ | .diskProvisioned _ _ _ _ _ _ | .filesCloned _ _
  | .imageFilesRemoved _ => true
  | next => standsBy next

/-- The image is in the library and stays there for now. -/
def Stays (s : Session) (id : UUID) : Prop := s.HasImage id ∧ ¬ s.Removing id

/-- What a machine boots from is the image it was made from, which is not being removed. The
same holds for the machines to come. -/
structure Referring (s : Session) : Prop where
  parts : ∀ c ∈ s.calls, takesPart c.next = true
  machines : ∀ m ∈ s.app.machines, ∀ id, m.bootMedia = .installer id →
    m.sourceImageID = id ∧ s.Stays id
  installers : ∀ c ∈ s.calls, ∀ id, installs c.next = some id → s.Stays id
  clones : ∀ c ∈ s.calls, ∀ env machine id, c.next = .filesCloned env machine →
    machine.bootMedia = .installer id → machine.sourceImageID = id

/-- A step beside all this: no machine gets another installer, no image is taken away, and the
calls that are suspended stand by. -/
structure Beside (s t : Session) : Prop where
  machines : ∀ m ∈ t.app.machines, ∀ id, m.bootMedia = .installer id →
    ∃ n ∈ s.app.machines, n.bootMedia = .installer id ∧ n.sourceImageID = m.sourceImageID
  images : ∀ id, s.HasImage id → t.HasImage id
  calls : ∃ new, t.calls = new ++ s.calls ∧ ∀ c ∈ new, standsBy c.next = true

variable {s t u : Session} {work : Work} {next : Next} {response : Response} {machine : Machine}
  {index : Nat} {event : SessionEvent} {id : UUID}

theorem mem_updateMachine {mutation : Machine → Machine} {machines : List Machine} {m : Machine}
    (member : m ∈ App.updateMachine id mutation machines) :
    m ∈ machines ∨ ∃ n ∈ machines, m = mutation n := by
  induction machines with
  | nil => cases member
  | cons first rest ih =>
    unfold App.updateMachine at member
    split at member
    · rcases List.mem_cons.mp member with rfl | later
      · exact .inr ⟨first, List.mem_cons_self, rfl⟩
      · exact .inl (List.mem_cons_of_mem _ later)
    · rcases List.mem_cons.mp member with rfl | later
      · exact .inl List.mem_cons_self
      · rcases ih later with kept | ⟨n, listed, changed⟩
        · exact .inl (List.mem_cons_of_mem _ kept)
        · exact .inr ⟨n, List.mem_cons_of_mem _ listed, changed⟩

/-- An image whose availability changes keeps its place. -/
theorem setAvailability_hasImage {imageID : UUID} {availability : ImageAvailability}
    (has : s.HasImage id) : (s.setAvailability imageID availability).HasImage id := by
  obtain ⟨image, member, same⟩ := has
  unfold HasImage setAvailability updateImage
  simp only
  generalize s.images = images at member
  induction images with
  | nil => cases member
  | cons first rest ih =>
    unfold updateFirst
    rcases List.mem_cons.mp member with rfl | later
    · split
      · exact ⟨_, List.mem_cons_self, same⟩
      · exact ⟨_, List.mem_cons_self, same⟩
    · split
      · exact ⟨image, List.mem_cons_of_mem _ later, same⟩
      · obtain ⟨i, listed, own⟩ := ih later
        exact ⟨i, List.mem_cons_of_mem _ listed, own⟩

namespace Beside

theorem same (machines : t.app.machines = s.app.machines) (images : t.images = s.images)
    (calls : t.calls = s.calls) : Beside s t where
  machines m member id boots := ⟨m, machines ▸ member, boots, rfl⟩
  images id has := by
    unfold HasImage
    rw [images]
    exact has
  calls := ⟨[], calls, by simp⟩

theorem refl (s : Session) : Beside s s := same rfl rfl rfl

theorem trans (first : Beside s t) (second : Beside t u) : Beside s u where
  machines m member id boots := by
    obtain ⟨n, listed, own, source⟩ := second.machines m member id boots
    obtain ⟨o, before, old, older⟩ := first.machines n listed id own
    exact ⟨o, before, old, older.trans source⟩
  images id has := second.images id (first.images id has)
  calls := by
    obtain ⟨new, calls, stands⟩ := first.calls
    obtain ⟨newer, more, alsoStands⟩ := second.calls
    refine ⟨newer ++ new, by rw [more, calls, List.append_assoc], fun c member => ?_⟩
    rcases List.mem_append.mp member with late | early
    · exact alsoStands c late
    · exact stands c early

theorem suspend (beside : Beside s t) (stands : standsBy next = true) :
    Beside s (t.suspend work next) :=
  beside.trans {
    machines := fun m member _ boots => ⟨m, member, boots, rfl⟩
    images := fun _ has => has
    calls := ⟨[⟨work, next, none⟩], rfl, by simpa using stands⟩ }

theorem present (beside : Beside s t) {message : String} : Beside s (t.present message) :=
  beside.trans (same rfl rfl rfl)

theorem refuse (beside : Beside s t) {error : AppModelError} : Beside s (t.refuse error) :=
  beside.present

theorem persist {refused : Session → Session} (beside : Beside s t)
    (stands : standsBy next = true) (refuses : Beside t (refused t)) :
    Beside s (t.persist next refused) := by
  unfold Session.persist
  split
  · exact beside.suspend stands
  · exact beside.trans refuses

/-- Machines may be taken out of the list. -/
theorem filter (keep : Machine → Bool) (machines : t.app.machines = s.app.machines.filter keep)
    (images : t.images = s.images) (calls : t.calls = s.calls) : Beside s t where
  machines m member id boots := by
    rw [machines] at member
    exact ⟨m, (List.mem_filter.mp member).1, boots, rfl⟩
  images id has := by
    unfold HasImage
    rw [images]
    exact has
  calls := ⟨[], calls, by simp⟩

theorem updateProvisioning {imageID : UUID} {state : MachineProvisioningState} :
    Beside s (s.updateProvisioning imageID state) where
  machines m member id boots := by
    obtain ⟨n, listed, rfl⟩ := List.mem_map.mp member
    refine ⟨n, listed, ?_, ?_⟩
    · split at boots <;> exact boots
    · split <;> rfl
  images _ has := has
  calls := ⟨[], rfl, by simp⟩

theorem setAvailability {imageID : UUID} {availability : ImageAvailability} :
    Beside s (s.setAvailability imageID availability) where
  machines m member _ boots := ⟨m, member, boots, rfl⟩
  images _ := setAvailability_hasImage
  calls := ⟨[], rfl, by simp⟩

/-- What becomes of an image becomes of its machines. -/
theorem setImage {imageID : UUID} {availability : ImageAvailability}
    {state : MachineProvisioningState} :
    Beside s ((s.setAvailability imageID availability).updateProvisioning imageID state) :=
  setAvailability.trans updateProvisioning

theorem appendImage {image : MachineImage} :
    Beside s { s with images := s.images ++ [image] } where
  machines m member _ boots := ⟨m, member, boots, rfl⟩
  images id has := by
    obtain ⟨i, member, same⟩ := has
    exact ⟨i, List.mem_append_left _ member, same⟩
  calls := ⟨[], rfl, by simp⟩

end Beside

open Beside

section Machines

theorem discardMachine_beside : Beside s (s.discardMachine id) := by
  have filtered : Beside s (s.withMachines (s.app.machines.filter fun m => m.id ≠ id)) :=
    .filter _ rfl rfl rfl
  exact filtered.suspend rfl

theorem machineSaved_beside : Beside s (s.machineSaved id response) := by
  cases response with
  | ok => exact refl s
  | error failure => exact discardMachine_beside

theorem discardClone_beside {failure : Failure} : Beside s (s.discardClone id failure) :=
  (refl s).suspend rfl

theorem cloneSaved_beside : Beside s (s.cloneSaved id response) := by
  cases response with
  | ok => exact refl s
  | error failure => exact discardClone_beside

theorem whenIdle_beside {go : Session → Session} (goes : ∀ u, Beside s u → Beside s (go u)) :
    Beside s (s.whenIdle machine go) := by
  unfold Session.whenIdle
  split
  · exact goes _ (same rfl rfl rfl)
  · exact same rfl rfl rfl
  · exact same rfl rfl rfl

theorem deleteMachine_beside : Beside s (s.deleteMachine machine) := by
  unfold deleteMachine
  split
  · exact whenIdle_beside fun u idle => idle.suspend rfl
  · exact (refl s).refuse

theorem machineRemoved_beside : Beside s (s.machineRemoved machine response) := by
  unfold machineRemoved
  split
  · have removed : Beside s { s with app := { s.app with
        machines := s.app.machines.filter fun m => m.id ≠ machine.id
        runtimes := fun other => if other = machine.id then none else s.app.runtimes other } } :=
      .filter _ rfl rfl rfl
    exact removed.persist rfl (refl _).refuse
  · exact (refl s).present

/-- An ejected installer is no longer booted from. -/
theorem ejectInstaller_beside : Beside s (s.ejectInstaller machine) := by
  unfold ejectInstaller
  split
  · exact (refl s).refuse
  · simp only
    split
    · refine Beside.persist ⟨fun m member id boots => ?_, fun _ has => has, [], rfl, by simp⟩ rfl
        (refl _)
      rcases mem_updateMachine member with kept | ⟨n, listed, rfl⟩
      · exact ⟨m, kept, boots, rfl⟩
      · cases boots
    · exact (same rfl rfl rfl : Beside s { s with app := s.app.withRuntime machine }).refuse

theorem ended_beside : Beside s (s.ended response) := by
  cases response with
  | ok => exact refl s
  | error failure => exact (refl s).present

end Machines

section Images

variable {env : Environment} {source : SourceFile} {operatingSystem : GuestOperatingSystem}
  {architecture : GuestArchitecture} {artifactKind : ImageArtifactKind} {image : MachineImage}
  {entry : ImageCatalogEntry} {imageID : UUID} {task : Nat} {failure : Failure}

theorem importImage_beside :
    Beside s (s.importImage env source operatingSystem architecture artifactKind) := by
  unfold importImage
  split
  · exact (refl s).suspend rfl
  · exact refl s

theorem discardImport_beside : Beside s (s.discardImport imageID) := (refl s).suspend rfl

theorem fileImported_beside :
    Beside s (s.fileImported env source operatingSystem architecture artifactKind response) := by
  unfold fileImported
  split
  · exact (refl s).suspend rfl
  · exact discardImport_beside

theorem fileDigested_beside {destination : Location} : Beside s (s.fileDigested env source
    operatingSystem architecture artifactKind destination response) := by
  unfold fileDigested
  split
  · exact appendImage.persist rfl discardImport_beside
  · exact discardImport_beside

theorem importSaved_beside : Beside s (s.importSaved imageID response) := by
  cases response with
  | ok => exact refl s
  | error failure => exact discardImport_beside

theorem beginDownload_beside : Beside s (s.beginDownload entry imageID) := by
  unfold beginDownload
  split
  · have registered : Beside s { s with
        tasks := s.tasks + 1
        downloads := fun other => if other = imageID then some s.tasks else s.downloads other } :=
      same rfl rfl rfl
    exact registered.suspend rfl
  · exact (refl s).refuse

theorem download_beside : Beside s (s.download entry imageID).1 := by
  unfold download
  split
  · split
    · exact refl s
    · exact appendImage.trans beginDownload_beside
  · exact (refl s).refuse

theorem cancelDownload_beside : Beside s (s.cancelDownload imageID) := by
  unfold cancelDownload
  split <;> exact same rfl rfl rfl

theorem endDownload_beside : Beside s (s.endDownload imageID) := same rfl rfl rfl

theorem downloadFailed_beside : Beside s (s.downloadFailed imageID task failure) := by
  unfold downloadFailed
  split
  · exact (refl s).suspend rfl
  · exact setImage.persist rfl ((refl _).present.trans endDownload_beside)

theorem downloadBegun_beside : Beside s (s.downloadBegun imageID task) :=
  (refl s).persist rfl downloadFailed_beside

theorem downloadListed_beside : Beside s (s.downloadListed imageID task response) := by
  cases response with
  | ok => exact (refl s).suspend rfl
  | error failure => exact downloadFailed_beside

theorem destinationMade_beside : Beside s (s.destinationMade imageID task response) := by
  unfold destinationMade
  split
  · exact (refl s).suspend rfl
  · exact refl s
  · exact downloadFailed_beside

theorem downloaded_beside {destination : Location} :
    Beside s (s.downloaded imageID task destination response) := by
  unfold downloaded
  split
  · exact setImage.persist rfl downloadFailed_beside
  · exact downloadFailed_beside

theorem downloadSaved_beside : Beside s (s.downloadSaved imageID task response) := by
  cases response with
  | ok => exact endDownload_beside
  | error failure => exact downloadFailed_beside

theorem cancelledFilesRemoved_beside : Beside s (s.cancelledFilesRemoved imageID task) :=
  setImage.persist rfl endDownload_beside

theorem recordPhase_beside {phase : DownloadPhase} : Beside s (s.recordPhase imageID phase) := by
  unfold recordPhase
  split
  · exact refl s
  · split <;> exact setImage

theorem retryDownload_beside : Beside s (s.retryDownload image) := by
  unfold retryDownload
  split
  · exact (refl s).refuse
  · exact (refl s).suspend rfl

theorem retryFilesRemoved_beside : Beside s (s.retryFilesRemoved entry imageID) :=
  setImage.persist rfl beginDownload_beside

end Images

section Referring

variable {env : Environment} {draft : MachineDraft} {image : MachineImage}
  {backend : VirtualizationBackendKind} {disk : MachineDisk} {backendState : BackendStateReference}

theorem installs_of_standsBy (stands : standsBy next = true) : installs next = none := by
  cases next with
  | toolsPrepared | filesCreated | diskProvisioned | filesCloned => cases stands
  | _ => rfl

theorem Stays.mono (stays : s.Stays id) (has : s.HasImage id → t.HasImage id)
    (removing : t.Removing id → s.Removing id) : t.Stays id :=
  ⟨has stays.1, fun removed => stays.2 (removing removed)⟩

theorem Stays.beside (stays : s.Stays id) (beside : Beside s t) : t.Stays id := by
  refine stays.mono (beside.images id) fun ⟨c, member, isRemoval⟩ => ?_
  obtain ⟨new, calls, stands⟩ := beside.calls
  rw [calls] at member
  rcases List.mem_append.mp member with late | early
  · have own := stands c late
    rw [isRemoval] at own
    cases own
  · exact ⟨c, early, isRemoval⟩

theorem Referring.beside (referring : s.Referring) (beside : Beside s t) : t.Referring := by
  obtain ⟨new, calls, stands⟩ := beside.calls
  have split (c : Call) (member : c ∈ t.calls) : standsBy c.next = true ∨ c ∈ s.calls := by
    rw [calls] at member
    rcases List.mem_append.mp member with late | early
    · exact .inl (stands c late)
    · exact .inr early
  constructor
  · intro c member
    rcases split c member with own | before
    · cases next : c.next <;> rw [next] at own <;> first | exact own | cases own
    · exact referring.parts c before
  · intro m member id boots
    obtain ⟨n, listed, own, source⟩ := beside.machines m member id boots
    obtain ⟨same, stays⟩ := referring.machines n listed id own
    exact ⟨source.symm.trans same, stays.beside beside⟩
  · intro c member id own
    rcases split c member with stand | before
    · rw [installs_of_standsBy stand] at own
      cases own
    · exact (referring.installers c before id own).beside beside
  · intro c member env machine id is boots
    rcases split c member with stand | before
    · rw [is] at stand
      cases stand
    · exact referring.clones c before env machine id is boots

/-- A machine begins to be made from an image that stays. -/
theorem Referring.install (referring : s.Referring) (part : takesPart next = true)
    (removes : ∀ id, next ≠ .imageFilesRemoved id)
    (stays : ∀ id, installs next = some id → s.Stays id)
    (source : ∀ env machine id, next = .filesCloned env machine →
      machine.bootMedia = .installer id → machine.sourceImageID = id) :
    (s.suspend work next).Referring := by
  have kept {id : UUID} (stays : s.Stays id) : (s.suspend work next).Stays id := by
    refine stays.mono (fun has => has) fun ⟨c, member, isRemoval⟩ => ?_
    rcases List.mem_cons.mp member with rfl | rest
    · exact absurd isRemoval (removes id)
    · exact ⟨c, rest, isRemoval⟩
  constructor
  · intro c member
    rcases List.mem_cons.mp member with rfl | rest
    · exact part
    · exact referring.parts c rest
  · intro m member id boots
    obtain ⟨same, stays⟩ := referring.machines m member id boots
    exact ⟨same, kept stays⟩
  · intro c member id own
    rcases List.mem_cons.mp member with rfl | rest
    · exact kept (stays id own)
    · exact kept (referring.installers c rest id own)
  · intro c member env machine id is boots
    rcases List.mem_cons.mp member with rfl | rest
    · exact source env machine id is boots
    · exact referring.clones c rest env machine id is boots

/-- The machine that has been made boots from an image that stays. -/
theorem Referring.append (referring : s.Referring)
    (stays : ∀ id, machine.bootMedia = .installer id → machine.sourceImageID = id ∧ s.Stays id) :
    (s.withMachines (s.app.machines ++ [machine])).Referring where
  parts := referring.parts
  machines m member id boots := by
    rcases List.mem_append.mp member with listed | new
    · exact referring.machines m listed id boots
    · rw [List.mem_singleton] at new
      subst new
      exact stays id boots
  installers := referring.installers
  clones := referring.clones

theorem Referring.persist {refused : Session → Session} (referring : s.Referring)
    (stands : standsBy next = true) (refuses : Beside s (refused s)) :
    (s.persist next refused).Referring :=
  referring.beside ((refl s).persist stands refuses)

section Create

/-- The installer of the machine to come, if it has one, stays. -/
def Installable (s : Session) (draft : MachineDraft) (image : MachineImage) : Prop :=
  ImageArtifactKind.isBootable image.artifactKind = false → s.Stays draft.imageID

theorem stays_of_installs (installable : s.Installable draft image)
    (own : (if ImageArtifactKind.isBootable image.artifactKind then none
      else some draft.imageID) = some id) : s.Stays id := by
  split at own
  · cases own
  next installer =>
    cases own
    exact installable (Bool.eq_false_iff.mpr installer)

/-- A creation begins or goes on, with the installer it needs. -/
theorem Referring.creation (referring : s.Referring) (installable : s.Installable draft image)
    (part : takesPart next = true)
    (installer : installs next = if ImageArtifactKind.isBootable image.artifactKind then none
      else some draft.imageID)
    (removes : ∀ id, next ≠ .imageFilesRemoved id)
    (clones : ∀ env machine, next ≠ .filesCloned env machine) :
    (s.suspend work next).Referring := by
  refine referring.install part removes (fun id own => ?_) fun env machine id is => ?_
  · rw [installer] at own
    exact stays_of_installs installable own
  · exact absurd is (clones env machine)

theorem Referring.createFiles (referring : s.Referring) (installable : s.Installable draft image) :
    (s.createFiles env draft image).Referring := by
  unfold Session.createFiles
  split
  · exact referring.creation installable rfl rfl (by simp) (by simp)
  · exact referring

theorem Referring.createFromImage (referring : s.Referring)
    (chosen : ∀ image, s.image draft.imageID = some image → s.Installable draft image) :
    (s.createFromImage env draft).Referring := by
  unfold Session.createFromImage
  split
  · exact referring
  next image found =>
    have installable := chosen image found
    split
    · split
      · exact referring.creation installable rfl rfl (by simp) (by simp)
      · exact referring.createFiles installable
    · exact referring

theorem Referring.appendMachine (referring : s.Referring)
    (installable : s.Installable draft image) :
    (s.appendMachine env draft image backend disk backendState).Referring := by
  unfold Session.appendMachine
  refine (referring.append fun id boots => ?_).persist rfl discardMachine_beside
  simp only [newMachine] at boots ⊢
  split at boots
  · cases boots
  next installer =>
    cases boots
    exact ⟨rfl, installable (Bool.eq_false_iff.mpr installer)⟩

theorem Referring.filesCreated (referring : s.Referring) (installable : s.Installable draft image) :
    (s.filesCreated env draft image backend response).Referring := by
  unfold Session.filesCreated
  split
  · split
    · exact referring.creation installable rfl rfl (by simp) (by simp)
    · exact referring.appendMachine installable
  · exact referring

theorem Referring.diskProvisioned (referring : s.Referring)
    (installable : s.Installable draft image) :
    (s.diskProvisioned env draft image backend disk backendState response).Referring := by
  unfold Session.diskProvisioned
  split
  · exact referring.appendMachine installable
  · exact referring.beside discardMachine_beside

end Create

theorem Referring.filesCloned (referring : s.Referring)
    (stays : ∀ id, machine.bootMedia = .installer id → machine.sourceImageID = id ∧ s.Stays id) :
    (s.filesCloned env machine response).Referring := by
  unfold Session.filesCloned
  split
  next disk backendState =>
    have listed : (s.withMachines (s.app.machines ++ [machine.cloned env.machineID
        env.hardwareUUID disk backendState env.now])).Referring := referring.append stays
    exact listed.persist rfl discardClone_beside
  · exact referring
  · exact referring.beside discardClone_beside

section Remove

/-- An image begins to be removed that no machine boots from, now or later. -/
theorem Referring.remove (referring : s.Referring)
    (unused : ∀ m ∈ s.app.machines, m.sourceImageID ≠ image.id)
    (unchosen : ∀ c ∈ s.calls, installs c.next ≠ some image.id) :
    (s.suspend (.removeImage image.id) (.imageFilesRemoved image.id)).Referring := by
  have kept {id : UUID} (stays : s.Stays id) (other : id ≠ image.id) :
      (s.suspend (.removeImage image.id) (.imageFilesRemoved image.id)).Stays id := by
    refine stays.mono (fun has => has) fun ⟨c, member, isRemoval⟩ => ?_
    rcases List.mem_cons.mp member with rfl | rest
    · cases isRemoval
      exact absurd rfl other
    · exact ⟨c, rest, isRemoval⟩
  constructor
  · intro c member
    rcases List.mem_cons.mp member with rfl | rest
    · rfl
    · exact referring.parts c rest
  · intro m member id boots
    obtain ⟨same, stays⟩ := referring.machines m member id boots
    exact ⟨same, kept stays fun is => unused m member (same.trans is)⟩
  · intro c member id own
    rcases List.mem_cons.mp member with rfl | rest
    · cases own
    · refine kept (referring.installers c rest id own) fun is => ?_
      rw [is] at own
      exact unchosen c rest own
  · intro c member env machine id is boots
    rcases List.mem_cons.mp member with rfl | rest
    · cases is
    · exact referring.clones c rest env machine id is boots

theorem removalRefused_eq_none (allowed : s.removalRefused image = none) :
    ∀ m ∈ s.app.machines, m.sourceImageID ≠ image.id := by
  unfold removalRefused at allowed
  split at allowed
  · cases allowed
  · split at allowed
    · cases allowed
    · split at allowed
      · cases allowed
      next free =>
        intro m member is
        exact free (List.any_eq_true.mpr ⟨m, member, decide_eq_true is⟩)

theorem Referring.removeImage (referring : s.Referring)
    (separate : s.Separate (.call (.removeImage image))) : (s.removeImage image).Referring := by
  unfold Session.removeImage
  split
  · exact referring.beside (refl s).refuse
  next allowed =>
    have unused := removalRefused_eq_none allowed
    have unchosen := separate allowed
    have cancels : Beside s (s.cancelDownload image.id) := cancelDownload_beside
    apply (referring.beside cancels).remove
    · unfold cancelDownload
      split <;> exact unused
    · unfold cancelDownload
      split <;> exact unchosen

/-- Calls that are taken out leave the rest as it is. -/
theorem Referring.takeOut (referring : s.Referring) :
    ({ s with calls := s.calls.eraseIdx index } : Session).Referring := by
  have kept {id : UUID} (stays : s.Stays id) :
      ({ s with calls := s.calls.eraseIdx index } : Session).Stays id :=
    stays.mono (fun has => has) fun ⟨c, member, is⟩ => ⟨c, mem_of_mem_eraseIdx member, is⟩
  constructor
  · exact fun c member => referring.parts c (mem_of_mem_eraseIdx member)
  · intro m member id boots
    obtain ⟨same, stays⟩ := referring.machines m member id boots
    exact ⟨same, kept stays⟩
  · exact fun c member id own => kept (referring.installers c (mem_of_mem_eraseIdx member) id own)
  · exact fun c member => referring.clones c (mem_of_mem_eraseIdx member)

/-- Nothing boots from the image whose record is taken out of the library. -/
theorem Referring.imageFilesRemoved {removed : UUID} (referring : s.Referring)
    (machines : ∀ m ∈ s.app.machines, m.bootMedia ≠ .installer removed)
    (calls : ∀ c ∈ s.calls, installs c.next ≠ some removed) :
    (s.imageFilesRemoved removed response).Referring := by
  unfold Session.imageFilesRemoved
  split
  · have kept {id : UUID} (stays : s.Stays id) (other : id ≠ removed) :
        ({ s with images := s.images.filter fun image => image.id ≠ removed } : Session).Stays id := by
      refine stays.mono (fun ⟨image, member, same⟩ => ?_) fun removing => removing
      exact ⟨image, List.mem_filter.mpr ⟨member, decide_eq_true (same ▸ other)⟩, same⟩
    have filtered : ({ s with images := s.images.filter fun image => image.id ≠ removed } :
        Session).Referring := by
      constructor
      · exact referring.parts
      · intro m member id boots
        obtain ⟨same, stays⟩ := referring.machines m member id boots
        refine ⟨same, kept stays fun is => machines m member ?_⟩
        rw [boots, is]
      · intro c member id own
        refine kept (referring.installers c member id own) fun is => calls c member ?_
        rw [own, is]
      · exact referring.clones
    exact filtered.persist rfl (refl _).refuse
  · exact referring.beside (refl s).present

end Remove

end Referring

/-- The calls that stand by go on beside. -/
theorem goOn_beside (stands : standsBy next = true) : Beside s (s.goOn response next) := by
  cases next with
  | machineSaved => exact machineSaved_beside
  | cloneSaved => exact cloneSaved_beside
  | cloneDiscarded failure => exact (refl s).present
  | machineRemoved => exact machineRemoved_beside
  | deletionSaved | removalSaved => exact ended_beside
  | machineDiscarded | ejectionSaved | importDiscarded => exact refl s
  | fileImported => exact fileImported_beside
  | fileDigested => exact fileDigested_beside
  | importSaved => exact importSaved_beside
  | downloadBegun => exact downloadBegun_beside
  | downloadListed => exact downloadListed_beside
  | destinationMade => exact destinationMade_beside
  | downloaded => exact downloaded_beside
  | downloadSaved => exact downloadSaved_beside
  | failureSaved => exact (refl s).present.trans endDownload_beside
  | cancelledFilesRemoved => exact cancelledFilesRemoved_beside
  | cancellationSaved => exact endDownload_beside
  | retryFilesRemoved => exact retryFilesRemoved_beside
  | retrySaved => exact beginDownload_beside
  | _ => cases stands

section Steps

theorem Referring.perform {faults : Faults} {outside : Response} (referring : s.Referring)
    (taken : s.work index faults outside = some t) : t.Referring := by
  unfold Session.work at taken
  split at taken
  next work next found =>
    cases taken
    have old : ⟨work, next, none⟩ ∈ s.calls := List.mem_of_getElem? found
    -- a call that is answered goes on as before
    have before (c : Call) (member : c ∈ s.calls.set index
        ⟨work, next, some (App.perform faults outside s.volume work).1⟩) :
        ∃ d ∈ s.calls, d.next = c.next := by
      rcases List.mem_or_eq_of_mem_set member with kept | rfl
      · exact ⟨c, kept, rfl⟩
      · exact ⟨_, old, rfl⟩
    have kept {id : UUID} (stays : s.Stays id) : ({ s with
        volume := (App.perform faults outside s.volume work).2
        calls := s.calls.set index ⟨work, next, some (App.perform faults outside s.volume work).1⟩ } :
          Session).Stays id := by
      refine stays.mono (fun has => has) fun ⟨c, member, is⟩ => ?_
      obtain ⟨d, there, same⟩ := before c member
      exact ⟨d, there, same.trans is⟩
    constructor
    · intro c member
      obtain ⟨d, there, same⟩ := before c member
      rw [← same]
      exact referring.parts d there
    · intro m member id boots
      obtain ⟨same, stays⟩ := referring.machines m member id boots
      exact ⟨same, kept stays⟩
    · intro c member id own
      obtain ⟨d, there, same⟩ := before c member
      rw [← same] at own
      exact kept (referring.installers d there id own)
    · intro c member env machine id is
      obtain ⟨d, there, same⟩ := before c member
      exact referring.clones d there env machine id (same.trans is)
  · cases taken

/-- While the files of an image are removed nothing boots from it. -/
theorem Referring.unused (referring : s.Referring) (removing : s.Removing id) :
    (∀ m ∈ s.app.machines, m.bootMedia ≠ .installer id) ∧
      ∀ c ∈ s.calls, installs c.next ≠ some id :=
  ⟨fun m member boots => (referring.machines m member id boots).2.2 removing,
    fun c member own => (referring.installers c member id own).2 removing⟩

theorem Referring.resume (referring : s.Referring) (taken : s.resume index = some t) :
    t.Referring := by
  unfold Session.resume at taken
  split at taken
  next work next response found =>
    cases taken
    have member : ⟨work, next, some response⟩ ∈ s.calls := List.mem_of_getElem? found
    have part := referring.parts _ member
    have rest : ({ s with calls := s.calls.eraseIdx index } : Session).Referring :=
      referring.takeOut
    -- What the resumed call installs from stays while the other calls go on.
    have stays (id : UUID) (own : installs next = some id) :
        ({ s with calls := s.calls.eraseIdx index } : Session).Stays id := by
      refine (referring.installers _ member id own).mono (fun has => has) ?_
      exact fun ⟨c, left, is⟩ => ⟨c, mem_of_mem_eraseIdx left, is⟩
    have installable {draft : MachineDraft} {image : MachineImage}
        (own : installs next = if ImageArtifactKind.isBootable image.artifactKind then none
          else some draft.imageID) :
        ({ s with calls := s.calls.eraseIdx index } : Session).Installable draft image := by
      intro installer
      rw [installer] at own
      exact stays _ own
    -- Machines are listed from the creation's and the clone's continuations, and images removed
    -- from one.
    cases next with
    | toolsPrepared env draft image =>
      cases response with
      | ok => exact rest.createFiles (installable rfl)
      | error failure => exact rest
    | filesCreated => exact rest.filesCreated (installable rfl)
    | diskProvisioned => exact rest.diskProvisioned (installable rfl)
    | filesCloned env machine =>
      refine rest.filesCloned fun id boots => ?_
      have own : installs (.filesCloned env machine) = some id := by simp only [installs, boots]
      exact ⟨referring.clones _ member env machine id rfl boots, stays id own⟩
    | imageFilesRemoved id =>
      obtain ⟨machines, calls⟩ := referring.unused ⟨_, member, rfl⟩
      exact rest.imageFilesRemoved machines fun c left => calls c (mem_of_mem_eraseIdx left)
    | _ => exact rest.beside (goOn_beside part)
  · cases taken

theorem mem_image {image : MachineImage} (found : s.image id = some image) :
    image ∈ s.images ∧ image.id = id := by
  unfold Session.image at found
  have own := List.find?_some found
  exact ⟨List.mem_of_find?_eq_some found, of_decide_eq_true own⟩

/-- A download that is chosen ends up with the chosen image. -/
theorem download_chosen {env : Environment} {entryID : String} {entry : ImageCatalogEntry}
    {imageID : UUID} (draft : MachineDraft)
    (found : (s.catalog.find? fun entry => entry.id = entryID) = some entry)
    (downloads : s.download entry env.imageID = (u, some imageID)) :
    u.image imageID = s.chosenImage env draft (.catalogEntry entryID) ∧
      ∀ id, u.Removing id → s.Removing id := by
  simp only [chosenImage, found]
  unfold download at downloads
  split at downloads
  next ready =>
    cases here : s.existingImage entry with
    | some existing =>
      simp only [here] at downloads
      cases downloads
      exact ⟨rfl, fun _ removing => removing⟩
    | none =>
      simp only [here, beginDownload, ready, if_true, Prod.mk.injEq, Option.some.injEq] at downloads
      obtain ⟨rfl, rfl⟩ := downloads
      refine ⟨rfl, fun id ⟨c, member, is⟩ => ?_⟩
      rcases List.mem_cons.mp member with rfl | rest
      · cases is
      · exact ⟨c, rest, is⟩
  · cases downloads

/-- A machine is created from an image that is not being removed. -/
theorem Referring.createMachine {env : Environment} {draft : MachineDraft}
    {source : MachineCreationSource} (referring : s.Referring)
    (separate : s.Separate (.call (.createMachine env draft source))) :
    (s.createMachine env draft source).Referring := by
  unfold Session.createMachine
  split
  · split
    · refine referring.createFromImage fun image found installer => ?_
      obtain ⟨member, same⟩ := mem_image found
      have stays := separate image found installer
      rw [same] at stays
      exact ⟨⟨image, member, same⟩, stays⟩
    · exact referring
  next entryID =>
    split
    · split
      · exact referring
      next entry known =>
        -- The image of a catalog entry is downloaded first; the machine is created from what that
        -- leaves.
        have after : (s.download entry env.imageID).1.Referring := referring.beside download_beside
        split
        next u imageID downloads =>
          rw [downloads] at after
          obtain ⟨chosen, removing⟩ := download_chosen draft known downloads
          refine after.createFromImage fun image found installer => ?_
          obtain ⟨member, same⟩ := mem_image found
          have stays := separate image (chosen.symm.trans found) installer
          rw [same] at stays
          exact ⟨⟨image, member, same⟩, fun removed => stays (removing _ removed)⟩
        next u downloads =>
          rw [downloads] at after
          exact after
    · exact referring

theorem Referring.cloneMachine {env : Environment} (referring : s.Referring)
    (separate : s.Separate (.call (.cloneMachine env machine))) :
    (s.cloneMachine env machine).Referring := by
  unfold Session.cloneMachine
  split
  · have known : Beside s { s with app := s.app.withRuntime machine } := same rfl rfl rfl
    unfold Session.whenIdle
    split
    · refine (referring.beside known).install rfl ?_ (fun id own => ?_) ?_
      · intro id is
        cases is
      · have boots : machine.bootMedia = .installer id := by
          simp only [installs] at own
          split at own
          · cases own
          next other boots =>
            cases own
            exact boots
        obtain ⟨-, has, kept⟩ := separate id boots
        exact Stays.beside ⟨has, kept⟩ known
      · intro env' machine' id is boots
        cases is
        exact (separate id boots).1
    · exact referring.beside known.refuse
    · exact referring.beside (refl s).refuse
  · exact referring.beside (refl s).refuse

theorem Referring.request {request : Request} (referring : s.Referring)
    (allowed : maintains (.call request) = true) (separate : s.Separate (.call request)) :
    (s.request request).Referring := by
  cases request with
  | createMachine env draft source => exact referring.createMachine separate
  | cloneMachine env machine => exact referring.cloneMachine separate
  | deleteMachine machine => exact referring.beside deleteMachine_beside
  | ejectInstaller machine => exact referring.beside ejectInstaller_beside
  | download entry imageID => exact referring.beside download_beside
  | cancelDownload imageID => exact referring.beside cancelDownload_beside
  | retryDownload image => exact referring.beside retryDownload_beside
  | importImage env source operatingSystem architecture artifactKind =>
    exact referring.beside importImage_beside
  | removeImage image => exact referring.removeImage separate
  | _ => cases allowed

/-- Step lemma: the references stay valid as long as removals and creations of one image do not
overlap. -/
theorem Referring.step (referring : s.Referring) (allowed : maintains event = true)
    (separate : s.Separate event) (taken : s.step event = some t) : t.Referring := by
  unfold Session.step at taken
  split at taken
  · cases taken
  · cases event with
    | call request =>
      cases taken
      exact referring.request allowed separate
    | work index faults outside => exact referring.perform taken
    | resume index => exact referring.resume taken
    | runtimeChanges id state => cases allowed
    | progress imageID phase =>
      cases taken
      exact referring.beside recordPhase_beside

theorem Referring.refers (referring : s.Referring) : s.Refers :=
  fun m member id boots => (referring.machines m member id boots).2.1

end Steps

/-- References stay valid in every run in which no image is removed and booted from at the same
time. -/
theorem references_stay_valid (s : Session) (events : List SessionEvent) (idle : s.calls = [])
    (source : ∀ m ∈ s.app.machines, ∀ id, m.bootMedia = .installer id →
      m.sourceImageID = id ∧ s.HasImage id)
    (allowed : ∀ event ∈ events, maintains event = true) (separate : Meets step Separate s events) :
    Along step KeepsReferences s events := by
  have kinds : Meets step (fun _ event => maintains event = true) s events :=
    Meets.of_labels allowed
  refine along_of_meets (I := Referring) ?_ ?_ s events ?_ (kinds.and separate)
  · intro s event t referring guarded taken
    exact referring.step guarded.1 guarded.2 taken
  · intro s event t referring guarded taken
    refine ⟨(referring.step guarded.1 guarded.2 taken).refers, ?_⟩
    intro index work id answer _ found
    exact (referring.unused ⟨_, List.mem_of_getElem? found, rfl⟩).2
  · have none_ (id : UUID) : ¬ s.Removing id := by
      rintro ⟨c, member, -⟩
      rw [idle] at member
      cases member
    constructor
    · simp [idle]
    · intro m member id boots
      obtain ⟨same, has⟩ := source m member id boots
      exact ⟨same, has, none_ id⟩
    · simp [idle]
    · simp [idle]

/-- A machine that has yet to install from its image, beside an image that nothing uses. -/
def installerInUse : Session where
  initialized := true
  app := { machines := [{ stoppedMachine with
    sourceImageID := ⟨9⟩, bootMedia := .installer ⟨9⟩ }] }
  images := [alpineInstaller, { alpineInstaller with id := ⟨8⟩ }]

theorem unused_image_removed :
    Along step KeepsReferences installerInUse
      [.call (.removeImage { alpineInstaller with id := ⟨8⟩ }),
        .work 0 (fun _ => none) (.ok .returns), .resume 0] := by
  apply references_stay_valid
  · rfl
  · intro m member id boots
    rw [List.mem_singleton.mp member] at boots ⊢
    cases boots
    exact ⟨rfl, alpineInstaller, List.mem_cons_self, rfl⟩
  · exact List.all_eq_true.mp rfl
  · apply Meets.next rfl
    · intro _ c member
      cases member
    · apply Meets.next rfl trivial
      apply Meets.next rfl trivial
      trivial

/-- A library with an installer that no machine has been created from. -/
def unusedInstaller : Session where
  initialized := true
  images := [alpineInstaller]

/-- The files of a machine for the installer are being created. -/
def creatingMachine : Session where
  initialized := true
  images := [alpineInstaller]
  calls := [⟨.createFiles unsaved.machineID unsaved.diskID 512 .appleVirtualization .linux none,
    .filesCreated unsaved alpineDraft alpineInstaller .appleVirtualization, none⟩]

theorem createMachine_begun : Run step unusedInstaller
    [.call (.createMachine unsaved alpineDraft .managedImage)] creatingMachine := by
  have valid : unusedInstaller.draftIsValid unsaved alpineDraft = true := by decide +kernel
  have begun : unusedInstaller.createMachine unsaved alpineDraft .managedImage =
      creatingMachine := by
    simp only [Session.createMachine, valid, if_true]
    rfl
  have taken : step unusedInstaller (.call (.createMachine unsaved alpineDraft .managedImage)) =
      some creatingMachine := congrArg some begun
  exact .next taken (.done _)

/-- The installer is removed before the machine that will boot from it is listed. -/
theorem installer_removed_during_creation :
    ¬ ∀ s events, s.calls = [] → (∀ m ∈ s.app.machines, ∀ id, m.bootMedia = .installer id →
      m.sourceImageID = id ∧ s.HasImage id) → (∀ event ∈ events, maintains event = true) →
        Along step KeepsReferences s events := by
  intro always
  let noFaults : Faults := fun _ => none
  have along := always unusedInstaller
    ([.call (.createMachine unsaved alpineDraft .managedImage)] ++
      [.call (.removeImage alpineInstaller), .work 0 noFaults (.ok .returns), .resume 0])
    rfl (fun m member => by cases member) (List.all_eq_true.mp rfl)
  have last := ((((along.after createMachine_begun) _ rfl).2 _ rfl).2 _ rfl).1
  exact last.2 0 _ ⟨9⟩ .returns rfl rfl _ (List.mem_cons_of_mem _ List.mem_cons_self) rfl

end SimpleVM.App.Session
