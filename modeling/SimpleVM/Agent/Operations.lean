import SimpleVM.Agent.GuestProtocol
import SimpleVM.Python.Text

/-!
# Privileged operations

`operations.py`: the status of the shared mount, mounting it, and the power actions. What files
and commands answer is given; an answer that Python cannot decode raises where it is read.
-/
namespace SimpleVM.Agent

open Python Text

def mountTag : String := "share"

def mountPoint : String := "/mnt/simplevm-share"

/-- `MOUNT_FILESYSTEMS` -/
def mountFilesystems : List String := ["virtiofs", "9p"]

inductive MountState
  | notMounted | mounted | occupied | unavailable | error
deriving DecidableEq, Repr

def MountState.label : MountState → String
  | .notMounted => "notMounted"
  | .mounted => "mounted"
  | .occupied => "occupied"
  | .unavailable => "unavailable"
  | .error => "error"

/-- The dict `shared_mount_status` returns, with the `error` that `mount_shared_directory` adds. -/
structure MountStatus where
  mounted : Bool := false
  state : MountState := .notMounted
  filesystem : Str := str "virtiofs"
  error : Option Str := none
deriving DecidableEq, Repr

def MountStatus.members (status : MountStatus) : List (Str × Value) :=
  [(str "mounted", .bool status.mounted), (str "state", .string (str status.state.label)),
    (str "mountPoint", .string (str mountPoint)), (str "tag", .string (str mountTag)),
    (str "filesystem", .string status.filesystem)] ++
  (status.error.map fun message => (str "error", Value.string message)).toList

/-- How reading a text file line by line ends. -/
inductive LinesEnd
  | endOfFile | failure | undecodable
deriving DecidableEq, Repr

/-- `/proc/self/mountinfo`, and the lines that Python yields before reading ends. A file that cannot
be opened yields none. -/
structure MountInfo where
  table : List UInt8
  lines : List Str
  ends : LinesEnd
  /-- Reading stops early only after a whole line, and what cannot be decoded is not UTF-8. -/
  yields : ∃ text, lines = fileLines (text.map Char.toNat) ∧ utf8 text <+: table ∧
    (ends = .endOfFile → utf8 text = table) ∧ (ends = .undecodable → decodeUTF8 table = none)

/-- A table that is read to its end. -/
def MountInfo.ofText (text : List Char) : MountInfo where
  table := utf8 text
  lines := fileLines (text.map Char.toNat)
  ends := .endOfFile
  yields := ⟨text, rfl, List.prefix_rfl, fun _ => rfl, fun early => by cases early⟩

/-- What one line says about the mount point. -/
def mountedAt (line : Str) : Option MountStatus :=
  match partition (str " - ") line with
  | none => none
  | some (left, right) =>
    let fields := split left
    let fsFields := split right
    if fields[4]? = some (str mountPoint) then
      let filesystem := fsFields[0]?.getD (str "unknown")
      let source := fsFields[1]?.getD (str "unknown")
      some { mounted := true
             filesystem := filesystem
             state := if (mountFilesystems.map str).contains filesystem ∧ source = str mountTag then
                 .mounted else .occupied }
    else none

def sharedMountStatus (info : MountInfo) : Except PyError MountStatus :=
  match info.lines.findSome? mountedAt with
  | some status => .ok status
  | none =>
    match info.ends with
    | .endOfFile => .ok {}
    | .failure => .ok { state := .unavailable }
    | .undecodable => .error .unicodeDecode

/-- How a command run with `text=True` ends. -/
inductive Completed
  | exited (returncode : Int) (stderr : Str)
  /-- Its error output is not text in the locale's encoding. -/
  | undecodable
  /-- An `OSError` or a `SubprocessError`, by its text. -/
  | failed (message : Str)
deriving DecidableEq, Repr

/-- The outcomes that `mount_shared_directory` meets. -/
structure MountOutcomes where
  before : MountInfo
  /-- The text of the `OSError` that `makedirs` raises. -/
  makedirs : Option Str
  run : String → Completed
  after : MountInfo

/-- The loop over file systems: an exception's text, or whether a mount succeeded and the errors
of those that did not. -/
def tryMounts (run : String → Completed) :
    List String → Except PyError (Except Str (Bool × List Str))
  | [] => .ok (.ok (false, []))
  | filesystem :: others =>
    match run filesystem with
    | .failed message => .ok (.error message)
    | .undecodable => .error .unicodeDecode
    | .exited returncode stderr =>
      if returncode = 0 then .ok (.ok (true, []))
      else
        match tryMounts run others with
        | .ok (.ok (mounted, errors)) =>
          .ok (.ok (mounted, strip (orElse stderr (str "mount failed")) :: errors))
        | ended => ended

def mountSharedDirectory (outcomes : MountOutcomes) : Except PyError MountStatus := do
  let before ← sharedMountStatus outcomes.before
  if before.mounted then
    if (mountFilesystems.map str).contains before.filesystem then return before
    else return { before with error := some (str "fixed mount point is occupied") }
  else
    match outcomes.makedirs with
    | some message => return { before with state := .error, error := some message }
    | none =>
      match ← tryMounts outcomes.run mountFilesystems with
      | .error message => return { before with state := .error, error := some message }
      | .ok (false, errors) =>
        let raced ← sharedMountStatus outcomes.after
        if raced.mounted ∧ raced.state = .mounted then return raced
        else
          let message := (strip (List.intercalate (str "; ") errors)).take 512
          return { before with
            state := .error
            error := some (orElse message (str "mount failed")) }
      | .ok (true, _) =>
        let after ← sharedMountStatus outcomes.after
        if ¬ after.mounted ∨ after.state ≠ .mounted then
          return { after with state := .error, error := some (str "mount did not become visible") }
        else return after

/-- `power`: nothing, or the message of the failure. -/
def power (completed : Completed) : Except PyError (Option Str) :=
  match completed with
  | .failed message => .ok (some message)
  | .undecodable => .error .unicodeDecode
  | .exited returncode stderr =>
    if returncode = 0 then .ok none
    else .ok (some ((strip (orElse stderr (str "systemctl failed"))).take 512))

end SimpleVM.Agent
