import SimpleVM.QEMU.ProcessController

/-!
# The QMP control socket

`sendQMPCommand` of `QEMUProcessController` with the reads and writes below it, `stop` and `reset`
above it, and what QEMU says on the socket. A connection is what its system calls answer.
-/
namespace SimpleVM.QEMU

inductive QEMUProcessError
  | alreadyRunning
  | controlUnavailable
  | socketPathTooLong
  | invalidQMPResponse
  /-- A `POSIXError`. -/
  | posix (code : Int)
deriving DecidableEq, Repr

/-- `describe` is the system's text for an error number. -/
def QEMUProcessError.errorDescription (describe : Int → String) : QEMUProcessError → String
  | .alreadyRunning => "The QEMU machine is already running."
  | .controlUnavailable => "QEMU control is unavailable."
  | .socketPathTooLong => "The QEMU control socket path is too long."
  | .invalidQMPResponse => "QEMU returned an invalid control response."
  | .posix code => describe code

structure Connection where
  /-- The error numbers of `socket` and `connect`, if they fail. -/
  socketErrno : Option Int
  connectErrno : Option Int
  /-- How the writes of a command fail, if they do. -/
  writeErrno : String → Option Int
  /-- What `read` yields, and the error number once there is no more. -/
  received : List UInt8
  readErrno : Int

/-- `readQMPLine`, with room for so many bytes: the line with its newline, and what follows. -/
def readQMPLine (readErrno : Int) :
    Nat → List UInt8 → Except QEMUProcessError (List UInt8 × List UInt8)
  | 0, _ => .error .invalidQMPResponse
  | _ + 1, [] => .error (.posix readErrno)
  | room + 1, byte :: rest =>
    if byte = 0x0a then .ok ([byte], rest)
    else (readQMPLine readErrno room rest).map fun (line, rest) => (byte :: line, rest)

def lineLimit : Nat := 1024 * 1024

def capabilitiesCommand : String := "\x7b\"execute\":\"qmp_capabilities\"\x7d"
def powerdownCommand : String := "\x7b\"execute\":\"system_powerdown\"\x7d"
def resetCommand : String := "\x7b\"execute\":\"system_reset\"\x7d"

def writeQMP (connection : Connection) (command : String) : Except QEMUProcessError Unit :=
  match connection.writeErrno command with
  | some code => .error (.posix code)
  | none => .ok ()

/-- The length of `sun_path`. -/
def sunPathSize : Nat := 104

def sendQMPCommand (connection : Connection) (path command : String) :
    Except QEMUProcessError Unit := do
  match connection.socketErrno with
  | some code => throw (.posix code)
  | none => pure ()
  if sunPathSize ≤ path.utf8ByteSize then throw .socketPathTooLong
  match connection.connectErrno with
  | some code => throw (.posix code)
  | none => pure ()
  let (_, rest) ← readQMPLine connection.readErrno lineLimit connection.received
  writeQMP connection capabilitiesCommand
  let (_, rest) ← readQMPLine connection.readErrno lineLimit rest
  writeQMP connection command
  let (_, _) ← readQMPLine connection.readErrno lineLimit rest

/-- The message of the request of `stop`, if it fails. -/
def stopRequest (describe : Int → String) (fileExists : Bool) (connection : Connection)
    (path : String) : Option String :=
  if fileExists then
    match sendQMPCommand connection path powerdownCommand with
    | .ok _ => none
    | .error error => some (error.errorDescription describe)
  else some "QEMU control is unavailable."

def reset (fileExists : Bool) (connection : Connection) (path : String) :
    Except QEMUProcessError Unit :=
  if fileExists then sendQMPCommand connection path resetCommand else .error .controlUnavailable

section Protocol

/-- A line without its newline. -/
abbrev Line := { text : List UInt8 // (0x0a : UInt8) ∉ text }

inductive QMPReply
  | return (line : Line)
  | error (line : Line)
deriving DecidableEq

def QMPReply.line : QMPReply → Line
  | .return line => line
  | .error line => line

def QMPReply.isError : QMPReply → Bool
  | .return _ => false
  | .error _ => true

/-- What QEMU sends on one connection: events come at any point after the negotiation. -/
structure Conversation where
  greeting : Line
  capabilities : QMPReply
  events : List Line
  command : QMPReply
  later : List Line
deriving DecidableEq

namespace Conversation

/-- The lines in the order in which they are sent. -/
def lines (c : Conversation) : List Line :=
  [c.greeting, c.capabilities.line] ++ c.events ++ [c.command.line] ++ c.later

/-- The connection over which QEMU sends them. -/
def connection (c : Conversation) (readErrno : Int) : Connection where
  socketErrno := none
  connectErrno := none
  writeErrno := fun _ => none
  received := c.lines.flatMap fun line => line.val ++ [0x0a]
  readErrno := readErrno

/-- The lines that are read: the third is the answer only if no event comes before it. -/
def linesRead (c : Conversation) : List Line := c.lines.take 3

/-- The lines that are read end within the limit. -/
def Fits (c : Conversation) : Prop := ∀ line ∈ c.linesRead, line.val.length < lineLimit

instance (c : Conversation) : Decidable c.Fits :=
  inferInstanceAs (Decidable (∀ line ∈ c.linesRead, line.val.length < lineLimit))

end Conversation

end Protocol

/-- A command reports how QEMU answered it, and so do `reset` and `stop`. -/
structure ReportsOutcome (c : Conversation) (path : String) (readErrno : Int) : Prop where
  command : ∀ command, sendQMPCommand (c.connection readErrno) path command = .ok () ↔
    c.command.isError = false
  reset : c.command.isError = true → reset true (c.connection readErrno) path ≠ .ok ()
  stop : c.command.isError = true → ∀ (controller : ProcessController) (describe : Int → String),
    controller.process = true → ∃ message,
      (controller.stop (stopRequest describe true (c.connection readErrno) path)).2.2 =
        some (.requestFailed message)

/-- A line is read exactly if its newline is within reach. -/
theorem readQMPLine_line (readErrno : Int) (room : Nat) (line : Line) (rest : List UInt8) :
    readQMPLine readErrno room (line.val ++ 0x0a :: rest) =
      if line.val.length < room then .ok (line.val ++ [0x0a], rest)
      else .error .invalidQMPResponse := by
  obtain ⟨text, plain⟩ := line
  induction text generalizing room with
  | nil =>
    cases room with
    | zero => rfl
    | succ room => simp [readQMPLine]
  | cons byte text ih =>
    simp only [List.mem_cons, not_or] at plain
    cases room with
    | zero => rfl
    | succ room =>
      have other : byte ≠ 0x0a := fun same => plain.1 same.symm
      simp only [List.cons_append, readQMPLine, if_neg other, List.length_cons,
        Nat.add_lt_add_iff_right]
      rw [ih room plain.2]
      split <;> rfl

/-- QEMU sends at least three lines. -/
theorem Conversation.lines_split (c : Conversation) : ∃ third rest,
    c.lines = c.greeting :: c.capabilities.line :: third :: rest := by
  unfold Conversation.lines
  cases c.events with
  | nil => exact ⟨_, _, rfl⟩
  | cons event events => exact ⟨_, _, rfl⟩

/-- Whatever the lines say, the command succeeds if three of them can be read. -/
theorem sendQMPCommand_iff (c : Conversation) (path : String) (readErrno : Int) (command : String)
    (short : path.utf8ByteSize < sunPathSize) :
    sendQMPCommand (c.connection readErrno) path command = .ok () ↔ c.Fits := by
  obtain ⟨third, rest, split⟩ := c.lines_split
  have read : c.linesRead = [c.greeting, c.capabilities.line, third] := by
    simp [Conversation.linesRead, split]
  have received : (c.connection readErrno).received = c.greeting.val ++ 0x0a ::
      (c.capabilities.line.val ++ 0x0a :: (third.val ++ 0x0a ::
        rest.flatMap fun line => line.val ++ [0x0a])) := by
    simp [Conversation.connection, split]
  have fits : c.Fits ↔ c.greeting.val.length < lineLimit ∧
      c.capabilities.line.val.length < lineLimit ∧ third.val.length < lineLimit := by
    simp [Conversation.Fits, read]
  have path_ : ¬ sunPathSize ≤ path.utf8ByteSize := by omega
  have socket : (c.connection readErrno).socketErrno = none := rfl
  have connect : (c.connection readErrno).connectErrno = none := rfl
  have writes : ∀ text, writeQMP (c.connection readErrno) text = .ok () := fun _ => rfl
  rw [fits]
  unfold sendQMPCommand
  simp only [socket, connect, writes, received, path_, if_false, bind, Except.bind, pure,
    Except.pure, readQMPLine_line]
  by_cases first : c.greeting.val.length < lineLimit
  · by_cases second : c.capabilities.line.val.length < lineLimit
    · by_cases last : third.val.length < lineLimit
      · simp [first, second, last, readQMPLine_line]
      · simp [first, second, last, readQMPLine_line]
    · simp [first, second, readQMPLine_line]
  · simp [first]

/-- **QMP commands report their own outcome** exactly when QEMU answers with a return and the
lines that are read end within the limit, or it refuses and one of them does not. -/
theorem reportsOutcome_iff (c : Conversation) (path : String) (readErrno : Int)
    (short : path.utf8ByteSize < sunPathSize) :
    ReportsOutcome c path readErrno ↔ (c.Fits ↔ c.command.isError = false) := by
  have sends := fun command => sendQMPCommand_iff c path readErrno command short
  constructor
  · intro reports
    rw [← sends resetCommand]
    exact reports.command resetCommand
  · intro exact_
    have fails : c.command.isError = true → ∀ command,
        sendQMPCommand (c.connection readErrno) path command ≠ .ok () := by
      intro refused command succeeded
      have returned := exact_.mp ((sends command).mp succeeded)
      rw [refused] at returned
      contradiction
    refine ⟨fun command => (sends command).trans exact_, fun refused => fails refused _, ?_⟩
    intro refused controller describe running
    cases sent : sendQMPCommand (c.connection readErrno) path powerdownCommand with
    | ok _ => exact absurd sent (fails refused _)
    | error error =>
      refine ⟨error.errorDescription describe, ?_⟩
      simp [ProcessController.stop, stopRequest, running, sent]

def ascii (text : String) : List UInt8 := text.toList.map fun c => UInt8.ofNat c.toNat

/-- QEMU powers down, with an event before its answer. -/
def powersDown : Conversation where
  greeting := ⟨ascii "\x7b\"QMP\": \x7b\x7d\x7d\r", by decide +kernel⟩
  capabilities := .return ⟨ascii "\x7b\"return\": \x7b\x7d\x7d\r", by decide +kernel⟩
  events := [⟨ascii "\x7b\"event\": \"POWERDOWN\"\x7d\r", by decide +kernel⟩]
  command := .return ⟨ascii "\x7b\"return\": \x7b\x7d\x7d\r", by decide +kernel⟩
  later := []

theorem powersDown_reported : ReportsOutcome powersDown "qmp.sock" 0 :=
  (reportsOutcome_iff powersDown "qmp.sock" 0 (by decide +kernel)).mpr (by decide +kernel)

/-- QEMU refuses. -/
def refusal : Conversation where
  greeting := powersDown.greeting
  capabilities := powersDown.capabilities
  events := []
  command := .error ⟨ascii "\x7b\"error\": \x7b\"class\": \"GenericError\"\x7d\x7d\r", by decide +kernel⟩
  later := []

theorem refused_command_succeeds : ¬ ReportsOutcome refusal "qmp.sock" 0 := by
  intro reports
  have fits : refusal.Fits := by decide +kernel
  have sent := (sendQMPCommand_iff refusal "qmp.sock" 0 resetCommand (by decide +kernel)).mpr fits
  exact absurd ((reports.command resetCommand).mp sent) (by decide)

end SimpleVM.QEMU
