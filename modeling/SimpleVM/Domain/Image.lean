import SimpleVM.Domain.Machine

/-!
# Images

The persisted description of an image in the library.
-/
namespace SimpleVM.Domain

inductive ImageArtifactKind
  | installerISO | preinstalledDisk | rootfsArchive | ociReference
deriving DecidableEq, Repr

inductive ImageOrigin
  | catalog (url : String)
  | localImport (originalFileName : String)
  | remoteURL (url : String)
  | oci (reference : String)
deriving DecidableEq, Repr

inductive ImageAvailability
  | remote
  | downloading (progress : Rat)
  | verifying
  | available (relativePath : String)
  | failed (message : String)
deriving DecidableEq, Repr

/-- The provisioning state of a machine that waits for an image in this state. -/
def ImageAvailability.provisioningState : ImageAvailability → MachineProvisioningState
  | .remote => .failed "The selected image is not downloaded."
  | .downloading progress => .downloading progress
  | .verifying => .verifying
  | .available _ => .readyToInstall
  | .failed message => .failed message

structure MachineImage where
  id : UUID
  name : String
  version : Option String := none
  operatingSystem : GuestOperatingSystem := .linux
  architecture : GuestArchitecture
  artifactKind : ImageArtifactKind
  origin : ImageOrigin
  sha256 : Option String := none
  sizeBytes : Option Int64 := none
  availability : ImageAvailability := .remote
deriving DecidableEq, Repr

end SimpleVM.Domain
