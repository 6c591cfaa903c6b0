import SimpleVM.App.Calls

/-!
# The calls of the image library

`ImageLibraryModel`, each function cut at its awaits. `initialized` stands for the image store
and the layout as well, which `restore` sets without an await before the stores of the app.
-/
namespace SimpleVM.App.Session

open Domain Effects Storage

def updateProvisioning (s : Session) (imageID : UUID) (state : MachineProvisioningState) :
    Session :=
  s.updateMachinesForImage imageID fun m => { m with provisioningState := state }

def setAvailability (s : Session) (imageID : UUID) (availability : ImageAvailability) : Session :=
  s.updateImage imageID fun image => { image with availability := availability }

section Imports

def importImage (s : Session) (env : Environment) (source : SourceFile)
    (operatingSystem : GuestOperatingSystem) (architecture : GuestArchitecture)
    (artifactKind : ImageArtifactKind) : Session :=
  if s.initialized then
    s.suspend (.importFile source env.imageID)
      (.fileImported env source operatingSystem architecture artifactKind)
  else s

/-- The catch block of `importImage`. -/
def discardImport (s : Session) (imageID : UUID) : Session :=
  s.suspend (.removeImage imageID) .importDiscarded

def fileImported (s : Session) (env : Environment) (source : SourceFile)
    (operatingSystem : GuestOperatingSystem) (architecture : GuestArchitecture)
    (artifactKind : ImageArtifactKind) : Response → Session
  | .ok (.location destination) =>
    s.suspend .outside (.fileDigested env source operatingSystem architecture artifactKind
      destination)
  | _ => s.discardImport env.imageID

def fileDigested (s : Session) (env : Environment) (source : SourceFile)
    (operatingSystem : GuestOperatingSystem) (architecture : GuestArchitecture)
    (artifactKind : ImageArtifactKind) (destination : Location) : Response → Session
  | .ok _ =>
    let image := importedImage env source operatingSystem architecture artifactKind
      (source.contents.getD []) destination
    ({ s with images := s.images ++ [image] } : Session).persist (.importSaved env.imageID)
      fun s => s.discardImport env.imageID
  | .error _ => s.discardImport env.imageID

def importSaved (s : Session) (imageID : UUID) : Response → Session
  | .ok _ => s
  | .error _ => s.discardImport imageID

/-- An error of `persist` leaves the image in the list. -/
def addOCIReference (s : Session) (env : Environment) (reference : String)
    (architecture : GuestArchitecture) : Session :=
  if trimmed reference = "" then s
  else
    let image := ociImage env (trimmed reference) architecture
    ({ s with images := s.images ++ [image] } : Session).persist .referenceSaved id

end Imports

section Downloads

def ImageAvailability.isFailed : ImageAvailability → Bool
  | .failed _ => true
  | _ => false

/-- The record that `download` appends. -/
def catalogImage (entry : ImageCatalogEntry) (imageID : UUID) : MachineImage where
  id := imageID
  name := entry.name
  version := entry.version
  operatingSystem := entry.operatingSystem
  architecture := entry.architecture
  artifactKind := entry.artifactKind
  origin := .catalog entry.remoteURL
  sha256 := some entry.sha256
  sizeBytes := some entry.sizeBytes
  availability := .downloading 0

def beginDownload (s : Session) (entry : ImageCatalogEntry) (imageID : UUID) : Session :=
  if s.initialized then
    ({ s with
      tasks := s.tasks + 1
      downloads := fun other => if other = imageID then some s.tasks else s.downloads other } :
        Session).suspend .task (.downloadBegun entry imageID s.tasks)
  else s.refuse .notInitialized

/-- The image that has the contents of the entry already. -/
def existingImage (s : Session) (entry : ImageCatalogEntry) : Option MachineImage :=
  s.images.find? fun image =>
    image.sha256 = some entry.sha256 ∧ ImageAvailability.isFailed image.availability = false

/-- `download`, with the identifier it returns. -/
def download (s : Session) (entry : ImageCatalogEntry) (imageID : UUID) :
    Session × Option UUID :=
  if s.initialized then
    match s.existingImage entry with
    | some existing => (s, some existing.id)
    | none =>
      (({ s with images := s.images ++ [catalogImage entry imageID] } : Session).beginDownload
        entry imageID, some imageID)
  else (s.refuse .notInitialized, none)

/-- `downloads[imageID]?.cancel()`. -/
def cancelDownload (s : Session) (imageID : UUID) : Session :=
  match s.downloads imageID with
  | none => s
  | some task => { s with cancelledTasks := task :: s.cancelledTasks }

def endDownload (s : Session) (imageID : UUID) : Session :=
  { s with downloads := fun other => if other = imageID then none else s.downloads other }

/-- The catch block of the task, where a cancelled task throws away its files. -/
def downloadFailed (s : Session) (imageID : UUID) (task : Nat) (failure : Failure) : Session :=
  if task ∈ s.cancelledTasks ∨ failure = .cancelled then
    s.suspend (.removeImage imageID) (.cancelledFilesRemoved imageID task)
  else
    ((s.setAvailability imageID (.failed failure.localizedDescription)).updateProvisioning imageID
      (.failed failure.localizedDescription)).persist (.failureSaved imageID task failure)
      fun s => (s.present failure.localizedDescription).endDownload imageID

def downloadBegun (s : Session) (imageID : UUID) (task : Nat) : Session :=
  s.persist (.downloadListed imageID task) fun s =>
    s.downloadFailed imageID task (.error (.app .notInitialized))

def downloadListed (s : Session) (imageID : UUID) (task : Nat) : Response → Session
  | .ok _ => s.suspend (.destinationURL imageID "iso") (.destinationMade imageID task)
  | .error failure => s.downloadFailed imageID task failure

def destinationMade (s : Session) (imageID : UUID) (task : Nat) : Response → Session
  | .ok (.location destination) => s.suspend .outside (.downloaded imageID task destination)
  | .ok _ => s
  | .error failure => s.downloadFailed imageID task failure

def downloaded (s : Session) (imageID : UUID) (task : Nat) (destination : Location) :
    Response → Session
  | .ok _ =>
    ((s.setAvailability imageID (.available destination.relativePath)).updateProvisioning imageID
      .readyToInstall).persist (.downloadSaved imageID task)
      fun s => s.downloadFailed imageID task (.error (.app .notInitialized))
  | .error failure => s.downloadFailed imageID task failure

def downloadSaved (s : Session) (imageID : UUID) (task : Nat) : Response → Session
  | .ok _ => s.endDownload imageID
  | .error failure => s.downloadFailed imageID task failure

def failureSaved (s : Session) (imageID : UUID) (failure : Failure) : Session :=
  (s.present failure.localizedDescription).endDownload imageID

def cancelledFilesRemoved (s : Session) (imageID : UUID) (task : Nat) : Session :=
  ((s.setAvailability imageID (.failed "Download canceled.")).updateProvisioning imageID
    (.failed "Image download canceled.")).persist (.cancellationSaved imageID task)
    fun s => s.endDownload imageID

/-- What the downloader reports, a task of its own each time. -/
inductive DownloadPhase
  | downloading (progress : Rat)
  | verifying
deriving DecidableEq, Repr

/-- `record(phase:imageID:)`. -/
def recordPhase (s : Session) (imageID : UUID) (phase : DownloadPhase) : Session :=
  match s.image imageID with
  | none => s
  | some _ =>
    match phase with
    | .downloading progress =>
      (s.setAvailability imageID (.downloading progress)).updateProvisioning imageID
        (.downloading progress)
    | .verifying => (s.setAvailability imageID .verifying).updateProvisioning imageID .verifying

def retryDownload (s : Session) (image : MachineImage) : Session :=
  match s.catalog.find? fun entry => some entry.sha256 = image.sha256 with
  | none => s.refuse .catalogEntryUnavailable
  | some entry => s.suspend (.removeImage image.id) (.retryFilesRemoved entry image.id)

def retryFilesRemoved (s : Session) (entry : ImageCatalogEntry) (imageID : UUID) : Session :=
  ((s.setAvailability imageID (.downloading 0)).updateProvisioning imageID
    (.downloading 0)).persist (.retrySaved entry imageID) fun s => s.beginDownload entry imageID

end Downloads

section Removal

/-- The error `removeImage` refuses with, if any. -/
def removalRefused (s : Session) (image : MachineImage) : Option AppModelError :=
  if s.initialized = false then some .notInitialized
  else if image.id ∈ s.exportingImageIDs then some .exportInProgress
  else if s.app.machines.any fun m => m.sourceImageID = image.id then some .imageInUse
  else none

def removeImage (s : Session) (image : MachineImage) : Session :=
  match s.removalRefused image with
  | some error => s.refuse error
  | none =>
    (s.cancelDownload image.id).suspend (.removeImage image.id) (.imageFilesRemoved image.id)

def imageFilesRemoved (s : Session) (imageID : UUID) : Response → Session
  | .ok _ =>
    ({ s with images := s.images.filter fun image => image.id ≠ imageID } : Session).persist
      .removalSaved fun s => s.refuse .notInitialized
  | .error failure => s.present failure.localizedDescription

/-- `exportImage`, which marks an image that is available while it is copied. -/
def exportImage (s : Session) (image : MachineImage) : Session :=
  match image.availability with
  | .available _ =>
    if s.initialized ∧ image.id ∉ s.exportingImageIDs then
      ({ s with exportingImageIDs := image.id :: s.exportingImageIDs } : Session).suspend .outside
        (.imageExported image.id)
    else s
  | _ => s

def imageExported (s : Session) (imageID : UUID) : Session :=
  { s with exportingImageIDs := s.exportingImageIDs.filter fun other => other ≠ imageID }

end Removal

end SimpleVM.App.Session
