import SimpleVM.Effects.Result
import SimpleVM.Text.UTF8

/-!
# Building the Windows support medium

`WindowsSupportMediaBuilder` mounts the source image, stages the drivers and two other files of it
with an answer file of its own, and makes a medium of them. The answer file is checked before
anything is staged.
-/
namespace SimpleVM.Images

open Effects Text

inductive WindowsSupportToolsError
  | invalidAnswerFile
  | missingDriver (name : String)
  | missingPayload (name : String)
  | commandFailed (message : String)
  /-- An error of the download or of `FileManager`. -/
  | other (message : String)
deriving DecidableEq, Repr

def WindowsSupportToolsError.errorDescription : WindowsSupportToolsError → String
  | .invalidAnswerFile => "The generated Windows driver answer file is unsafe."
  | .missingDriver name => "The pinned Windows support image is missing the " ++ name ++
    " ARM64 driver."
  | .missingPayload name => "The pinned Windows support image is missing " ++ name ++ "."
  | .commandFailed message => "Could not build safe Windows support media: " ++ message
  | .other message => message

def WindowsSupportMediaManifest.driverNames : List String :=
  ["Balloon", "NetKVM", "pvpanic", "viogpudo", "vioinput", "viomem", "viorng", "vioscsi",
    "vioserial", "viostor"]

namespace WindowsDriverAnswerFile

def pathAndCredentials (keyValue driverName : String) : List String :=
  ["        <PathAndCredentials wcm:action=\"add\" wcm:keyValue=\"", keyValue, "\">\n",
    "          <Path>E:\\Drivers\\", driverName, "\\w11\\ARM64</Path>\n",
    "        </PathAndCredentials>\n"]

/-- The element of one pass of the setup. -/
def settings (pass component : String) : List String :=
  ["  <settings pass=\"", pass, "\">\n",
    "    <component name=\"Microsoft-Windows-", component, "\" processorArchitecture=\"arm64\" ",
    "publicKeyToken=\"31bf3856ad364e35\" language=\"neutral\" versionScope=\"nonSxS\">\n",
    "      <DriverPaths>\n"] ++
  pathAndCredentials "1" "NetKVM" ++ pathAndCredentials "2" "viorng" ++
  pathAndCredentials "3" "vioserial" ++
  ["      </DriverPaths>\n", "    </component>\n", "  </settings>\n"]

def contents : List Char :=
  (["<?xml version=\"1.0\" encoding=\"utf-8\"?>\n",
    "<unattend xmlns=\"urn:schemas-microsoft-com:unattend\" ",
    "xmlns:wcm=\"http://schemas.microsoft.com/WMIConfig/2002/State\">\n"] ++
  settings "windowsPE" "PnpCustomizationsWinPE" ++
  settings "offlineServicing" "PnpCustomizationsNonWinPE" ++
  ["</unattend>"]).flatMap String.toList

def forbidden : List String :=
  ["productkey", "enablelua", "labconfig", "bypasstpmcheck", "bypasssecurebootcheck",
    "bypasscpucheck", "bypassramcheck", "skiprearm", "skipautoactivation", "oobesystem",
    "firstlogoncommands", "skipwinreinitialization", "hideonlineaccountscreens",
    "protectyourpc", "<credentials>"]

/-- What a safe answer file has to have. -/
def required : List String :=
  ["pass=\"windowspe\"", "pass=\"offlineservicing\"", "pnpcustomizationswinpe",
    "pnpcustomizationsnonwinpe"]

/-- `contains`, of text in ASCII. -/
def contains (word : List Char) : List Char → Bool
  | [] => word.isEmpty
  | c :: text => word.isPrefixOf (c :: text) || contains word text

/-- The contents are ASCII, in lower case character by character. -/
def validate : Except WindowsSupportToolsError Unit :=
  let lowercased := contents.map Char.toLower
  if (forbidden.all fun word => !contains word.toList lowercased) &&
      required.all fun word => contains word.toList lowercased then .ok ()
  else .error .invalidAnswerFile

end WindowsDriverAnswerFile

def readme : List Char :=
  ["SimpleVM Windows Support Media\n\n",
    "Windows Setup uses this media only to stage signed ARM64 VirtIO drivers.\n",
    "It does not supply a product key, bypass Windows requirements, create an\n",
    "account, change privacy settings, disable UAC, or alter Windows Recovery.\n\n",
    "After Windows setup finishes, run utm-guest-tools.exe yourself to install\n",
    "optional third-party SPICE integration. The installer is provided by UTM."].flatMap
    String.toList

inductive FileEntry
  | file (data : List UInt8)
  | directory
deriving DecidableEq, Repr

/-- The files and directories below a directory, each under its path. -/
abbrev FileTree := List (List String × FileEntry)

namespace FileTree

def fileExists (tree : FileTree) (path : List String) : Bool := (tree.lookup path).isSome

def contentsOfDirectory (tree : FileTree) (path : List String) :
    Except WindowsSupportToolsError (List String) :=
  match tree.lookup path with
  | some .directory => .ok (tree.filterMap fun entry =>
      if entry.1.dropLast = path then entry.1.getLast? else none)
  | _ => .error (.other "The folder could not be opened.")

/-- What `copyItem` copies. -/
def item (tree : FileTree) (path : List String) : FileTree :=
  tree.filter fun entry => path.isPrefixOf entry.1

end FileTree

/-- What is asked of `FileManager`. -/
inductive StageOperation
  | createWork | createStaging | copyDriver (name : String) | copyPayload (name : String)
  | writeAnswerFile | writeReadme
deriving DecidableEq, Repr

/-- How a run of `hdiutil` ends, with its error output, trimmed. -/
inductive CommandEnd
  | exited (terminationStatus : Int) (message : String)
  /-- The process cannot be run. -/
  | notRun (message : String)
deriving DecidableEq, Repr

def runHdiutil : CommandEnd → Except WindowsSupportToolsError Unit
  | .exited terminationStatus message =>
    if terminationStatus = 0 then .ok ()
    else .error (.commandFailed
      (if message.isEmpty then "hdiutil exited with an error." else message))
  | .notRun message => .error (.other message)

/-- What the builder uses of the system. -/
structure SupportMediaSystem (Content Medium : Type) where
  /-- `URL.pathExtension` -/
  pathExtension : String → String
  /-- The text of the error that an operation throws, if any. -/
  failure : StageOperation → Option String
  /-- `hdiutil attach`, and what is mounted then. -/
  attach : Content → CommandEnd × FileTree
  /-- `hdiutil makehybrid`, and what it writes. -/
  makehybrid : FileTree → CommandEnd × Medium

variable {Content Medium : Type}

namespace SupportMediaSystem

variable (system : SupportMediaSystem Content Medium)

def attempt (operation : StageOperation) : Except WindowsSupportToolsError Unit :=
  match system.failure operation with
  | none => .ok ()
  | some message => .error (.other message)

def containsDriverPackage (tree : FileTree) (path : List String) :
    Except WindowsSupportToolsError Bool := do
  let names ← tree.contentsOfDirectory path
  let extensions := names.map fun name => (system.pathExtension name).toLower
  return ["cat", "inf", "sys"].all extensions.contains

/-- The directory of a driver, in the image and on the medium. -/
def driverPath (driverName : String) : List String := ["Drivers", driverName, "w11", "ARM64"]

/-- The directories of a driver on the medium, and what the last of them holds. -/
def copiedDriver (image : FileTree) (driverName : String) : FileTree :=
  (["Drivers", driverName], .directory) :: (["Drivers", driverName, "w11"], .directory) ::
    image.item (driverPath driverName)

/-- The body of the loop over the drivers. -/
def stageDriver (image : FileTree) (driverName : String) :
    Except WindowsSupportToolsError FileTree :=
  if image.fileExists (driverPath driverName) then do
    if ← system.containsDriverPackage image (driverPath driverName) then do
      system.attempt (.copyDriver driverName)
      return copiedDriver image driverName
    else throw (.missingDriver driverName)
  else throw (.missingDriver driverName)

def payloadNames : List String := ["utm-guest-tools.exe", "virtio-win_license.txt"]

/-- The body of the loop over the other files. -/
def stagePayload (image : FileTree) (fileName : String) :
    Except WindowsSupportToolsError FileTree :=
  if image.fileExists [fileName] then do
    system.attempt (.copyPayload fileName)
    return image.item [fileName]
  else throw (.missingPayload fileName)

/-- What the builder writes itself. -/
def writtenFiles : FileTree :=
  [(["Autounattend.xml"], .file (utf8 WindowsDriverAnswerFile.contents)),
    (["README.txt"], .file (utf8 readme))]

/-- `stage`, with what is then in the staging directory. -/
def stage (image : FileTree) : Except WindowsSupportToolsError FileTree := do
  -- `build` has checked it already.
  WindowsDriverAnswerFile.validate
  system.attempt .createStaging
  let drivers ← WindowsSupportMediaManifest.driverNames.mapM (system.stageDriver image)
  let payloads ← payloadNames.mapM (system.stagePayload image)
  system.attempt .writeAnswerFile
  system.attempt .writeReadme
  return (["Drivers"], .directory) :: (drivers.flatten ++ payloads.flatten ++ writtenFiles)

/-- `build` up to the complete `support.iso`. -/
def build (content : Content) : Except WindowsSupportToolsError Medium := do
  WindowsDriverAnswerFile.validate
  system.attempt .createWork
  let (attached, image) := system.attach content
  runHdiutil attached
  let staging ← system.stage image
  let (ended, medium) := system.makehybrid staging
  runHdiutil ended
  return medium

/-! ## What is built -/

/-- Staging succeeds on the image. -/
structure Stageable (image : FileTree) : Prop where
  created : system.failure .createStaging = none
  drivers : ∀ driverName ∈ WindowsSupportMediaManifest.driverNames,
    system.containsDriverPackage image (driverPath driverName) = .ok true ∧
      system.failure (.copyDriver driverName) = none
  payloads : ∀ fileName ∈ payloadNames,
    image.fileExists [fileName] = true ∧ system.failure (.copyPayload fileName) = none
  written : system.failure .writeAnswerFile = none ∧ system.failure .writeReadme = none

/-- All drivers and the other files of an image, with the files of the builder. -/
def stagedFiles (image : FileTree) : FileTree :=
  (["Drivers"], .directory) ::
    ((WindowsSupportMediaManifest.driverNames.map (copiedDriver image)).flatten ++
      (payloadNames.map fun fileName => image.item [fileName]).flatten ++ writtenFiles)

variable {system}

/-- The answer file is one that its own check lets pass. -/
theorem validate_ok : WindowsDriverAnswerFile.validate = .ok () := by
  unfold WindowsDriverAnswerFile.validate
  exact if_pos (by decide +kernel)

theorem attempt_ok_iff {operation : StageOperation} :
    system.attempt operation = .ok () ↔ system.failure operation = none := by
  unfold attempt
  cases system.failure operation with
  | none => simp
  | some message => simp

theorem fileExists_of_package {tree : FileTree} {path : List String} {complete : Bool}
    (package : system.containsDriverPackage tree path = .ok complete) :
    tree.fileExists path = true := by
  obtain ⟨names, listed, -⟩ := bind_ok_iff.mp package
  unfold FileTree.contentsOfDirectory at listed
  split at listed
  · next found =>
    rw [FileTree.fileExists, found]
    rfl
  · cases listed

theorem stageDriver_ok_iff {image staged : FileTree} {driverName : String} :
    system.stageDriver image driverName = .ok staged ↔
      (system.containsDriverPackage image (driverPath driverName) = .ok true ∧
        system.failure (.copyDriver driverName) = none) ∧
      staged = copiedDriver image driverName := by
  constructor
  · intro ran
    unfold stageDriver at ran
    split at ran
    · obtain ⟨complete, package, ran⟩ := bind_ok_iff.mp ran
      split at ran
      · next whole =>
        obtain ⟨_, copied, ran⟩ := bind_ok_iff.mp ran
        cases ran
        rw [whole] at package
        exact ⟨⟨package, attempt_ok_iff.mp copied⟩, rfl⟩
      · cases ran
    · cases ran
  · rintro ⟨⟨package, copied⟩, rfl⟩
    unfold stageDriver
    rw [if_pos (fileExists_of_package package)]
    refine bind_ok_iff.mpr ⟨true, package, ?_⟩
    exact bind_ok_iff.mpr ⟨(), attempt_ok_iff.mpr copied, rfl⟩

theorem stagePayload_ok_iff {image staged : FileTree} {fileName : String} :
    system.stagePayload image fileName = .ok staged ↔
      (image.fileExists [fileName] = true ∧ system.failure (.copyPayload fileName) = none) ∧
      staged = image.item [fileName] := by
  unfold stagePayload
  by_cases there : image.fileExists [fileName] = true
  · rw [if_pos there]
    constructor
    · intro ran
      obtain ⟨_, copied, ran⟩ := bind_ok_iff.mp ran
      cases ran
      exact ⟨⟨there, attempt_ok_iff.mp copied⟩, rfl⟩
    · rintro ⟨⟨-, copied⟩, rfl⟩
      exact bind_ok_iff.mpr ⟨(), attempt_ok_iff.mpr copied, rfl⟩
  · rw [if_neg there]
    constructor
    · intro ran
      cases ran
    · rintro ⟨⟨exists_, -⟩, -⟩
      exact absurd exists_ there

theorem stage_ok_iff {image staging : FileTree} :
    system.stage image = .ok staging ↔
      system.Stageable image ∧ staging = stagedFiles image := by
  constructor
  · intro ran
    obtain ⟨_, -, ran⟩ := bind_ok_iff.mp ran
    obtain ⟨_, created, ran⟩ := bind_ok_iff.mp ran
    obtain ⟨drivers, copied, ran⟩ := bind_ok_iff.mp ran
    obtain ⟨payloads, others, ran⟩ := bind_ok_iff.mp ran
    obtain ⟨_, answer, ran⟩ := bind_ok_iff.mp ran
    obtain ⟨_, readme, ran⟩ := bind_ok_iff.mp ran
    cases ran
    -- Both loops stage each of their items, or throw at the first that is missing.
    obtain ⟨packages, rfl⟩ := (mapM_eq_ok_iff fun _ _ => stageDriver_ok_iff).mp copied
    obtain ⟨files, rfl⟩ := (mapM_eq_ok_iff fun _ _ => stagePayload_ok_iff).mp others
    exact ⟨⟨attempt_ok_iff.mp created, packages, files, attempt_ok_iff.mp answer,
      attempt_ok_iff.mp readme⟩, rfl⟩
  · rintro ⟨stageable, rfl⟩
    have copied := (mapM_eq_ok_iff fun _ _ => stageDriver_ok_iff).mpr ⟨stageable.drivers, rfl⟩
    have others := (mapM_eq_ok_iff fun _ _ => stagePayload_ok_iff).mpr ⟨stageable.payloads, rfl⟩
    refine bind_ok_iff.mpr ⟨(), validate_ok, ?_⟩
    refine bind_ok_iff.mpr ⟨(), attempt_ok_iff.mpr stageable.created, ?_⟩
    refine bind_ok_iff.mpr ⟨_, copied, bind_ok_iff.mpr ⟨_, others, ?_⟩⟩
    refine bind_ok_iff.mpr ⟨(), attempt_ok_iff.mpr stageable.written.1, ?_⟩
    exact bind_ok_iff.mpr ⟨(), attempt_ok_iff.mpr stageable.written.2, rfl⟩

/-- **A medium is built of a whole image**: when both commands succeed and the image has all that is
to be staged, and then the medium is made of that. -/
theorem build_ok_iff {content : Content} {medium : Medium} :
    system.build content = .ok medium ↔
      system.failure .createWork = none ∧
      runHdiutil (system.attach content).1 = .ok () ∧
      system.Stageable (system.attach content).2 ∧
      runHdiutil (system.makehybrid (stagedFiles (system.attach content).2)).1 = .ok () ∧
      medium = (system.makehybrid (stagedFiles (system.attach content).2)).2 := by
  constructor
  · intro ran
    obtain ⟨_, -, ran⟩ := bind_ok_iff.mp ran
    obtain ⟨_, created, ran⟩ := bind_ok_iff.mp ran
    obtain ⟨_, attached, ran⟩ := bind_ok_iff.mp ran
    obtain ⟨staging, staged, ran⟩ := bind_ok_iff.mp ran
    obtain ⟨_, made, ran⟩ := bind_ok_iff.mp ran
    cases ran
    obtain ⟨stageable, rfl⟩ := stage_ok_iff.mp staged
    exact ⟨attempt_ok_iff.mp created, attached, stageable, made, rfl⟩
  · rintro ⟨created, attached, stageable, made, rfl⟩
    refine bind_ok_iff.mpr ⟨(), validate_ok, ?_⟩
    refine bind_ok_iff.mpr ⟨(), attempt_ok_iff.mpr created, bind_ok_iff.mpr ⟨(), attached, ?_⟩⟩
    refine bind_ok_iff.mpr ⟨_, stage_ok_iff.mpr ⟨stageable, rfl⟩, ?_⟩
    exact bind_ok_iff.mpr ⟨(), made, rfl⟩

end SupportMediaSystem

end SimpleVM.Images
