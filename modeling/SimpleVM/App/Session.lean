import SimpleVM.App.SettingCalls
import SimpleVM.Transition.Run
import SimpleVM.Transition.Tasks

/-!
# Sessions

A session takes a step when a call is made, when awaited work is done, and when a call goes on
with its answer. The work of the stores is done in any order.
-/
namespace SimpleVM.App

open Domain Effects Storage

/-- A call of the user interface. Identifiers that a call makes are in its environment. -/
inductive Request
  | initializeModel (fixture : Option Fixture)
  | createMachine (env : Environment) (draft : MachineDraft) (source : MachineCreationSource)
  | cloneMachine (env : Environment) (machine : Machine)
  | deleteMachine (machine : Machine)
  | ejectInstaller (machine : Machine)
  | start (machine : Machine)
  | exportMachineDisk (machine : Machine)
  | setInputProfile (profile : MachineInputProfile) (machine : Machine)
  | setCustomInputProfile (id : UUID) (baseProfile : MachineInputProfile) (machine : Machine)
  | removeCustomInputProfile (id : UUID)
  | setSharedDirectory (path : Option String) (isDirectory : Bool) (machine : Machine)
  | setWindowsSupportToolsAttached (attached : Bool) (machine : Machine)
  | setDisplayMode (mode : MachineDisplayMode) (machine : Machine)
  | importImage (env : Environment) (source : SourceFile) (operatingSystem : GuestOperatingSystem)
    (architecture : GuestArchitecture) (artifactKind : ImageArtifactKind)
  | addOCIReference (env : Environment) (reference : String) (architecture : GuestArchitecture)
  | download (entry : ImageCatalogEntry) (imageID : UUID)
  | cancelDownload (imageID : UUID)
  | retryDownload (image : MachineImage)
  | removeImage (image : MachineImage)
  | exportImage (image : MachineImage)

inductive SessionEvent
  | call (request : Request)
  /-- The work of a call is done. -/
  | work (index : Nat) (faults : Faults) (outside : Response)
  /-- A call goes on with the answer. -/
  | resume (index : Nat)
  | runtimeChanges (id : UUID) (state : MachineRuntimeState)
  /-- A report of a download arrives, however late. -/
  | progress (imageID : UUID) (phase : Session.DownloadPhase)

namespace Session

/-- A call up to its first await. -/
def request (s : Session) : Request → Session
  | .initializeModel fixture => s.initializeModel fixture
  | .createMachine env draft source => s.createMachine env draft source
  | .cloneMachine env machine => s.cloneMachine env machine
  | .deleteMachine machine => s.deleteMachine machine
  | .ejectInstaller machine => s.ejectInstaller machine
  | .start machine => s.start machine
  | .exportMachineDisk machine => s.exportMachineDisk machine
  | .setInputProfile profile machine => s.setInputProfile profile machine
  | .setCustomInputProfile id baseProfile machine =>
    s.setCustomInputProfile id baseProfile machine
  | .removeCustomInputProfile id => s.removeCustomInputProfile id
  | .setSharedDirectory path isDirectory machine => s.setSharedDirectory path isDirectory machine
  | .setWindowsSupportToolsAttached attached machine =>
    s.setWindowsSupportToolsAttached attached machine
  | .setDisplayMode mode machine => s.setDisplayMode mode machine
  | .importImage env source operatingSystem architecture artifactKind =>
    s.importImage env source operatingSystem architecture artifactKind
  | .addOCIReference env reference architecture => s.addOCIReference env reference architecture
  | .download entry imageID => (s.download entry imageID).1
  | .cancelDownload imageID => s.cancelDownload imageID
  | .retryDownload image => s.retryDownload image
  | .removeImage image => s.removeImage image
  | .exportImage image => s.exportImage image

/-- A call that has been taken out of `calls` goes on to its next await. -/
def goOn (s : Session) (response : Response) : Next → Session
  | .libraryLoaded fixture => s.libraryLoaded fixture response
  | .machinesCleaned fixture snapshot => s.machinesCleaned fixture snapshot response
  | .fixtureCreated fixture snapshot => s.fixtureCreated fixture snapshot response
  | .snapshotsListed snapshot machines => s.snapshotsListed snapshot machines response
  | .imagesCleaned snapshot machines => s.imagesCleaned snapshot machines response
  | .toolsChecked snapshot machines => s.toolsChecked snapshot machines
  | .restorationSaved => s.ended response
  | .toolsPrepared env draft image => s.toolsPrepared env draft image response
  | .filesCreated env draft image backend => s.filesCreated env draft image backend response
  | .diskProvisioned env draft image backend disk backendState =>
    s.diskProvisioned env draft image backend disk backendState response
  | .machineSaved machineID => s.machineSaved machineID response
  | .machineDiscarded => s
  | .filesCloned env machine => s.filesCloned env machine response
  | .cloneSaved cloneID => s.cloneSaved cloneID response
  | .cloneDiscarded failure => s.present failure.localizedDescription
  | .machineRemoved machine => s.machineRemoved machine response
  | .deletionSaved => s.ended response
  | .ejectionSaved => s
  | .settingPrepared setting machine index previous =>
    s.settingPrepared setting machine index previous response
  | .settingSaved setting machine index previous =>
    s.settingSaved setting machine index previous response
  | .profileRemoved _ previous => s.profileRemoved previous response
  | .filesResolved machine => s.filesResolved machine response
  | .startPrepared machine => s.startPrepared machine response
  | .started machine => s.endStart machine.id
  | .recordBegun => s.persist .recordSaved id
  | .recordSaved => s
  | .diskExported machineID => s.diskExported machineID
  | .imageExported imageID => s.imageExported imageID
  | .fileImported env source operatingSystem architecture artifactKind =>
    s.fileImported env source operatingSystem architecture artifactKind response
  | .fileDigested env source operatingSystem architecture artifactKind destination =>
    s.fileDigested env source operatingSystem architecture artifactKind destination response
  | .importSaved imageID => s.importSaved imageID response
  | .importDiscarded => s
  | .referenceSaved => s
  | .downloadBegun _ imageID task => s.downloadBegun imageID task
  | .downloadListed imageID task => s.downloadListed imageID task response
  | .destinationMade imageID task => s.destinationMade imageID task response
  | .downloaded imageID task destination => s.downloaded imageID task destination response
  | .downloadSaved imageID task => s.downloadSaved imageID task response
  | .failureSaved imageID _ failure => s.failureSaved imageID failure
  | .cancelledFilesRemoved imageID task => s.cancelledFilesRemoved imageID task
  | .cancellationSaved imageID _ => s.endDownload imageID
  | .retryFilesRemoved entry imageID => s.retryFilesRemoved entry imageID
  | .retrySaved entry imageID => s.beginDownload entry imageID
  | .imageFilesRemoved imageID => s.imageFilesRemoved imageID response
  | .removalSaved => s.ended response

/-- The work of the call is done and its answer waits for the call. -/
def work (s : Session) (index : Nat) (faults : Faults) (outside : Response) : Option Session :=
  match s.calls[index]? with
  | some ⟨work, next, none⟩ =>
    let done := perform faults outside s.volume work
    some { s with volume := done.2, calls := s.calls.set index ⟨work, next, some done.1⟩ }
  | _ => none

def resume (s : Session) (index : Nat) : Option Session :=
  match s.calls[index]? with
  | some ⟨_, next, some response⟩ =>
    some (({ s with calls := s.calls.eraseIdx index } : Session).goOn response next)
  | _ => none

/-- A session that has trapped takes no more steps. -/
def step (s : Session) (event : SessionEvent) : Option Session :=
  if s.trapped then none
  else match event with
    | .call request => some (s.request request)
    | .work index faults outside => s.work index faults outside
    | .resume index => s.resume index
    | .runtimeChanges id state => some (s.runtimeChanges id state)
    | .progress imageID phase => some (s.recordPhase imageID phase)

end Session

end SimpleVM.App
