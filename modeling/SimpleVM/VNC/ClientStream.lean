import Mathlib.Data.List.Perm.Basic
import SimpleVM.Streams.Reader
import SimpleVM.Transition.Run
import SimpleVM.Transition.Tasks
import SimpleVM.VNC.Refinement

/-!
# What the VNC client sends

Keys, pointers, sizes and update requests are sent from several threads over one socket, once the
client is initialised: `connectVNC` hands it out only then. A call of `send` holds `writeLock` until
its message is written, in as many pieces as the socket takes. So the server receives whole messages
one after another, each once and those of one thread in the order of its calls, unless a call fails
with part of its message written: nothing tells the server where the rest is missing.
-/
namespace SimpleVM.VNC

open Streams Reader Transition

/-! ### The messages of the protocol -/

structure PixelFormat where
  bitsPerPixel : UInt8
  depth : UInt8
  bigEndian : UInt8
  trueColour : UInt8
  redMax : UInt16
  greenMax : UInt16
  blueMax : UInt16
  redShift : UInt8
  greenShift : UInt8
  blueShift : UInt8
deriving DecidableEq, Repr

structure ScreenLayout where
  id : UInt32
  x : UInt16
  y : UInt16
  width : UInt16
  height : UInt16
  flags : UInt32
deriving DecidableEq, Repr

/-- What a client tells a server. -/
inductive ClientMessage
  | setPixelFormat (format : PixelFormat)
  | setEncodings (encodings : List UInt32)
  | framebufferUpdateRequest (incremental : Bool) (x y width height : UInt16)
  | keyEvent (isDown : Bool) (keysym : UInt32)
  | pointerEvent (mask : UInt8) (x y : UInt16)
  | setDesktopSize (width height : UInt16) (screens : List ScreenLayout)
deriving DecidableEq, Repr

def uint16 : Reader UInt8 UInt16 := do
  let high ← next
  let low ← next
  return [high, low].foldl (fun (value : UInt16) byte => (value <<< 8) ||| byte.toUInt16) 0

def uint32 : Reader UInt8 UInt32 := do
  let first ← next
  let second ← next
  let third ← next
  let fourth ← next
  return [first, second, third, fourth].foldl
    (fun (value : UInt32) byte => (value <<< 8) ||| byte.toUInt32) 0

def pixelFormat : Reader UInt8 PixelFormat := do
  let bitsPerPixel ← next
  let depth ← next
  let bigEndian ← next
  let trueColour ← next
  let redMax ← uint16
  let greenMax ← uint16
  let blueMax ← uint16
  let redShift ← next
  let greenShift ← next
  let blueShift ← next
  let _ ← next.times 3
  return ⟨bitsPerPixel, depth, bigEndian, trueColour, redMax, greenMax, blueMax, redShift,
    greenShift, blueShift⟩

def screenLayout : Reader UInt8 ScreenLayout := do
  let id ← uint32
  let x ← uint16
  let y ← uint16
  let width ← uint16
  let height ← uint16
  let flags ← uint32
  return ⟨id, x, y, width, height, flags⟩

namespace ClientMessage

/-! Each message after its type. -/

def readPixelFormat : Reader UInt8 ClientMessage := do
  let _ ← next.times 3
  let format ← pixelFormat
  return .setPixelFormat format

def readEncodings : Reader UInt8 ClientMessage := do
  let _ ← next
  let count ← uint16
  let encodings ← uint32.times count.toNat
  return .setEncodings encodings

def readUpdateRequest : Reader UInt8 ClientMessage := do
  let incremental ← next
  let x ← uint16
  let y ← uint16
  let width ← uint16
  let height ← uint16
  return .framebufferUpdateRequest (incremental != 0) x y width height

def readKey : Reader UInt8 ClientMessage := do
  let isDown ← next
  let _ ← next.times 2
  let keysym ← uint32
  return .keyEvent (isDown != 0) keysym

def readPointer : Reader UInt8 ClientMessage := do
  let mask ← next
  let x ← uint16
  let y ← uint16
  return .pointerEvent mask x y

def readDesktopSize : Reader UInt8 ClientMessage := do
  let _ ← next
  let width ← uint16
  let height ← uint16
  let screens ← next
  let _ ← next
  let layout ← screenLayout.times screens.toNat
  return .setDesktopSize width height layout

end ClientMessage

open ClientMessage in
/-- How a server reads a message, by its type. -/
def clientMessage : Reader UInt8 ClientMessage := do
  let type ← next
  if type = 0 then readPixelFormat
  else if type = 2 then readEncodings
  else if type = 3 then readUpdateRequest
  else if type = 4 then readKey
  else if type = 5 then readPointer
  else if type = 251 then readDesktopSize
  else reject

/-! ### The messages of the client -/

def sendKey (keysym : UInt32) (isDown : Bool) : List UInt8 :=
  appendBigEndian32 [4, if isDown then 1 else 0, 0, 0] keysym

/-- One screen, of the whole size. -/
def requestDesktopSize (width height : UInt16) : List UInt8 :=
  let message := appendBigEndian16 (appendBigEndian16 [251, 0] width) height ++ [1, 0]
  let message := appendBigEndian16 (appendBigEndian16 (appendBigEndian32 message 0) 0) 0
  appendBigEndian32 (appendBigEndian16 (appendBigEndian16 message width) height) 0

def sendPointer (mask : UInt8) (x y : UInt16) : List UInt8 :=
  appendBigEndian16 (appendBigEndian16 [5, mask] x) y

/-- The message of `requestUpdate`. -/
def updateRequest (incremental : Bool) (width height : UInt16) : List UInt8 :=
  let message := appendBigEndian16 (appendBigEndian16 [3, if incremental then 1 else 0] 0) 0
  appendBigEndian16 (appendBigEndian16 message width) height

theorem requestUpdate_eq (incremental : Bool) : requestUpdate incremental = (do
    let c ← client
    send (updateRequest incremental (UInt16.ofNat c.width) (UInt16.ofNat c.height))) := rfl

/-- A call of `send` once the client is initialised. -/
inductive ClientCall
  | setPixelFormat
  | setEncodings
  | requestUpdate (incremental : Bool) (width height : UInt16)
  | sendKey (keysym : UInt32) (isDown : Bool)
  | requestDesktopSize (width height : UInt16)
  | sendPointer (mask : UInt8) (x y : UInt16)
deriving DecidableEq, Repr

namespace ClientCall

def data : ClientCall → List UInt8
  | .setPixelFormat => pixelFormatMessage
  | .setEncodings => encodingsMessage
  | .requestUpdate incremental width height => updateRequest incremental width height
  | .sendKey keysym isDown => VNC.sendKey keysym isDown
  | .requestDesktopSize width height => VNC.requestDesktopSize width height
  | .sendPointer mask x y => VNC.sendPointer mask x y

/-- What the call is to tell the server. -/
def message : ClientCall → ClientMessage
  | .setPixelFormat => .setPixelFormat ⟨32, 24, 0, 1, 255, 255, 255, 16, 8, 0⟩
  | .setEncodings => .setEncodings
      [copyRectEncoding.toUInt32, rawEncoding.toUInt32, desktopSizeEncoding.toUInt32,
        extendedDesktopSizeEncoding.toUInt32]
  | .requestUpdate incremental width height =>
    .framebufferUpdateRequest incremental 0 0 width height
  | .sendKey keysym isDown => .keyEvent isDown keysym
  | .requestDesktopSize width height => .setDesktopSize width height [⟨0, 0, 0, width, height, 0⟩]
  | .sendPointer mask x y => .pointerEvent mask x y

end ClientCall

/-! ### Reading the messages back -/

theorem uint16_cons (v : UInt16) (rest : List UInt8) :
    uint16 ((v >>> 8).toUInt8 :: v.toUInt8 :: rest) = some (v, rest) :=
  congrArg (fun v => some (v, rest)) (foldl_bigEndian16 v)

theorem uint32_cons (v : UInt32) (rest : List UInt8) :
    uint32 ((v >>> 24).toUInt8 :: (v >>> 16).toUInt8 :: (v >>> 8).toUInt8 :: v.toUInt8 :: rest) =
      some (v, rest) :=
  congrArg (fun v => some (v, rest)) (foldl_bigEndian32 v)

/-- A format and its padding. -/
theorem pixelFormat_cons (format : PixelFormat) (rest : List UInt8) :
    pixelFormat (format.bitsPerPixel :: format.depth :: format.bigEndian :: format.trueColour ::
      (format.redMax >>> 8).toUInt8 :: format.redMax.toUInt8 ::
      (format.greenMax >>> 8).toUInt8 :: format.greenMax.toUInt8 ::
      (format.blueMax >>> 8).toUInt8 :: format.blueMax.toUInt8 ::
      format.redShift :: format.greenShift :: format.blueShift :: 0 :: 0 :: 0 :: rest) =
      some (format, rest) := by
  rw [pixelFormat]
  iterate 4 rw [bind_apply, next_cons, Option.bind_some]
  iterate 3 rw [bind_apply, uint16_cons, Option.bind_some]
  iterate 3 rw [bind_apply, next_cons, Option.bind_some]
  rfl

theorem settled_uint16 : Settled uint16 :=
  settled_next.bind fun _ => settled_next.bind fun _ => settled_pure _

theorem settled_uint32 : Settled uint32 :=
  settled_next.bind fun _ => settled_next.bind fun _ => settled_next.bind fun _ =>
    settled_next.bind fun _ => settled_pure _

theorem settled_pixelFormat : Settled pixelFormat :=
  settled_next.bind fun _ => settled_next.bind fun _ => settled_next.bind fun _ =>
    settled_next.bind fun _ => settled_uint16.bind fun _ => settled_uint16.bind fun _ =>
      settled_uint16.bind fun _ => settled_next.bind fun _ => settled_next.bind fun _ =>
        settled_next.bind fun _ => (settled_next.times 3).bind fun _ => settled_pure _

theorem settled_screenLayout : Settled screenLayout :=
  settled_uint32.bind fun _ => settled_uint16.bind fun _ => settled_uint16.bind fun _ =>
    settled_uint16.bind fun _ => settled_uint16.bind fun _ => settled_uint32.bind fun _ =>
      settled_pure _

namespace ClientMessage

theorem settled_readPixelFormat : Settled readPixelFormat :=
  (settled_next.times 3).bind fun _ => settled_pixelFormat.bind fun _ => settled_pure _

theorem settled_readEncodings : Settled readEncodings :=
  settled_next.bind fun _ => settled_uint16.bind fun _ => (settled_uint32.times _).bind fun _ =>
    settled_pure _

theorem settled_readUpdateRequest : Settled readUpdateRequest :=
  settled_next.bind fun _ => settled_uint16.bind fun _ => settled_uint16.bind fun _ =>
    settled_uint16.bind fun _ => settled_uint16.bind fun _ => settled_pure _

theorem settled_readKey : Settled readKey :=
  settled_next.bind fun _ => (settled_next.times 2).bind fun _ => settled_uint32.bind fun _ =>
    settled_pure _

theorem settled_readPointer : Settled readPointer :=
  settled_next.bind fun _ => settled_uint16.bind fun _ => settled_uint16.bind fun _ =>
    settled_pure _

theorem settled_readDesktopSize : Settled readDesktopSize :=
  settled_next.bind fun _ => settled_uint16.bind fun _ => settled_uint16.bind fun _ =>
    settled_next.bind fun _ => settled_next.bind fun _ =>
      (settled_screenLayout.times _).bind fun _ => settled_pure _

end ClientMessage

open ClientMessage in
theorem settled_clientMessage : Settled clientMessage :=
  settled_next.bind fun _ => settled_readPixelFormat.ite (settled_readEncodings.ite
    (settled_readUpdateRequest.ite (settled_readKey.ite (settled_readPointer.ite
      (settled_readDesktopSize.ite settled_reject)))))

namespace ClientCall

theorem data_ne_nil (call : ClientCall) : call.data ≠ [] := by
  cases call <;> exact List.cons_ne_nil _ _

/-- The server reads what the call is to tell it, whatever is sent next. -/
theorem reads (call : ClientCall) : ReadsBack clientMessage call.data call.message := by
  intro rest
  cases call with
  | setPixelFormat =>
    have type : ∀ bytes, clientMessage (0 :: bytes) = ClientMessage.readPixelFormat bytes :=
      fun _ => rfl
    have format := pixelFormat_cons ⟨32, 24, 0, 1, 255, 255, 255, 16, 8, 0⟩ rest
    simp only [data, pixelFormatMessage, appendBigEndian16, List.cons_append, List.nil_append,
      type, ClientMessage.readPixelFormat, times, bind_apply, pure_apply, next_cons, format,
      Option.bind_some, message]
  | setEncodings =>
    have type : ∀ bytes, clientMessage (2 :: bytes) = ClientMessage.readEncodings bytes :=
      fun _ => rfl
    have four : (4 : UInt16).toNat = 4 := rfl
    simp only [data, encodingsMessage, appendBigEndian16, appendBigEndian32, List.cons_append,
      List.nil_append, type, ClientMessage.readEncodings, four, times, bind_apply, pure_apply,
      next_cons, uint16_cons, uint32_cons, Option.bind_some, message]
    rfl
  | requestUpdate incremental width height =>
    have type : ∀ bytes, clientMessage (3 :: bytes) = ClientMessage.readUpdateRequest bytes :=
      fun _ => rfl
    simp only [data, updateRequest, appendBigEndian16, List.cons_append, List.nil_append, type,
      ClientMessage.readUpdateRequest, bind_apply, pure_apply, next_cons, uint16_cons,
      Option.bind_some, message]
    cases incremental <;> rfl
  | sendKey keysym isDown =>
    have type : ∀ bytes, clientMessage (4 :: bytes) = ClientMessage.readKey bytes := fun _ => rfl
    simp only [data, VNC.sendKey, appendBigEndian32, List.cons_append, List.nil_append, type,
      ClientMessage.readKey, times, bind_apply, pure_apply, next_cons, uint32_cons,
      Option.bind_some, message]
    cases isDown <;> rfl
  | requestDesktopSize width height =>
    have type : ∀ bytes, clientMessage (251 :: bytes) = ClientMessage.readDesktopSize bytes :=
      fun _ => rfl
    have one : (1 : UInt8).toNat = 1 := rfl
    simp only [data, VNC.requestDesktopSize, appendBigEndian16, appendBigEndian32,
      List.cons_append, List.nil_append, type, ClientMessage.readDesktopSize, one, times,
      screenLayout, bind_apply, pure_apply, next_cons, uint16_cons, uint32_cons,
      Option.bind_some, message]
  | sendPointer mask x y =>
    have type : ∀ bytes, clientMessage (5 :: bytes) = ClientMessage.readPointer bytes :=
      fun _ => rfl
    simp only [data, VNC.sendPointer, appendBigEndian16, List.cons_append, List.nil_append, type,
      ClientMessage.readPointer, bind_apply, pure_apply, next_cons, uint16_cons, Option.bind_some,
      message]

/-- A message that is not whole yet is not read. -/
theorem unfinished (call : ClientCall) {offset : Nat} (within : offset < call.data.length) :
    clientMessage (call.data.take offset) = none := by
  have whole : ReadsBack clientMessage (call.data.take offset ++ call.data.drop offset)
      call.message := by
    rw [List.take_append_drop]
    exact call.reads
  apply settled_clientMessage.wants whole
  rw [ne_eq, List.drop_eq_nil_iff]
  omega

end ClientCall

/-! ### The connection -/

/-- A call of `send` by a thread. -/
structure Sending where
  thread : Nat
  call : ClientCall
deriving DecidableEq, Repr

/-- The call that holds `writeLock`, and how much of its message is written. -/
structure Writing where
  sending : Sending
  offset : Nat
deriving DecidableEq, Repr

structure Connection where
  /-- Whether `descriptor` is that of the socket. -/
  isOpen : Bool := true
  isShutDown : Bool := false
  /-- The calls that wait for the lock, which is given to any of them. -/
  waiting : List Sending := []
  writing : Option Writing := none
  /-- The bytes the socket took, in this order. -/
  stream : List UInt8 := []
  made : List Sending := []
  /-- The calls that are over, and whether the message of each was written. -/
  finished : List (Sending × Bool) := []
  /-- Whether a call failed with part of its message written. -/
  torn : Bool := false
deriving DecidableEq, Repr

inductive ConnectionEvent
  | call (sending : Sending)
  /-- A call enters `writeLock` and looks at the descriptor. -/
  | enter (index : Nat)
  /-- `Darwin.send` takes so many bytes. -/
  | written (count : Nat)
  | writeFails
  | disconnect
  | shutDown
deriving DecidableEq, Repr

namespace Connection

/-- The calls that are not over. -/
def inHand (s : Connection) : List Sending := (s.writing.map Writing.sending).toList ++ s.waiting

/-- The messages that were written, in this order. -/
def delivered (s : Connection) : List ClientCall :=
  (s.finished.filter Prod.snd).map fun sent => sent.1.call

/-- What is written of the message that is being written. -/
def begun (s : Connection) : List UInt8 :=
  s.writing.elim [] fun writing => writing.sending.call.data.take writing.offset

def finish (s : Connection) (sending : Sending) (isDelivered : Bool) : Connection :=
  { s with finished := s.finished ++ [(sending, isDelivered)] }

/-- `send` up to its loop. -/
def enter (s : Connection) (index : Nat) : Option Connection :=
  if s.writing = none then
    s.waiting[index]?.map fun sending =>
      let left := { s with waiting := s.waiting.eraseIdx index }
      if s.isOpen then { left with writing := some ⟨sending, 0⟩ } else left.finish sending false
  else none

/-- A round of its loop, after which the lock is released if all bytes are written. -/
def write (s : Connection) (writing : Writing) (count : Nat) : Option Connection :=
  let data := writing.sending.call.data
  if s.isShutDown = false ∧ 0 < count ∧ writing.offset + count ≤ data.length then
    let sent := { s with stream := s.stream ++ (data.drop writing.offset).take count }
    if writing.offset + count < data.length then
      some { sent with writing := some { writing with offset := writing.offset + count } }
    else some ({ sent with writing := none }.finish writing.sending true)
  else none

/-- The loop throws, and the lock is released. -/
def fail (s : Connection) (writing : Writing) : Connection :=
  { s with writing := none, torn := s.torn || 0 < writing.offset }.finish writing.sending false

def step (s : Connection) : ConnectionEvent → Option Connection
  | .call sending =>
    -- A thread makes its calls one after another.
    if ∀ other ∈ s.inHand, other.thread ≠ sending.thread then
      some { s with made := s.made ++ [sending], waiting := s.waiting ++ [sending] }
    else none
  | .enter index => s.enter index
  | .written count => s.writing.bind fun writing => s.write writing count
  | .writeFails => s.writing.map s.fail
  | .disconnect => some { s with isOpen := false }
  | .shutDown => if s.isOpen then none else some { s with isShutDown := true }

end Connection

/-! ### What becomes of the calls -/

namespace Sending

/-- The calls of one thread. -/
def callsOf (sendings : List Sending) (thread : Nat) : List ClientCall :=
  (sendings.filter fun sending => sending.thread = thread).map Sending.call

/-- Every call made is over or in hand, in the order its thread made them. -/
structure Accounted (made finished inHand : List Sending) : Prop where
  ordered : ∀ thread, callsOf made thread = callsOf finished thread ++ callsOf inHand thread
  alone : ∀ thread, (callsOf inHand thread).length ≤ 1

variable {made finished inHand : List Sending} {sending : Sending}

theorem callsOf_append (sendings others : List Sending) (thread : Nat) :
    callsOf (sendings ++ others) thread = callsOf sendings thread ++ callsOf others thread := by
  simp only [callsOf, List.filter_append, List.map_append]

theorem callsOf_eq_nil {thread : Nat} (none : ∀ other ∈ inHand, other.thread ≠ thread) :
    callsOf inHand thread = [] := by
  rw [callsOf, List.map_eq_nil_iff, List.filter_eq_nil_iff]
  intro other member
  simpa only [decide_eq_true_eq] using none other member

theorem length_callsOf_singleton (thread : Nat) : (callsOf [sending] thread).length ≤ 1 := by
  rw [callsOf, List.length_map]
  exact List.length_filter_le _ _

/-- At most one thing has no order. -/
theorem eq_of_perm_of_length_le_one {α : Type} {l m : List α} (moved : l.Perm m)
    (few : m.length ≤ 1) : l = m := by
  cases m with
  | nil => exact moved.eq_nil
  | cons a rest =>
    have nothing : rest = [] := by
      rw [List.length_cons] at few
      exact List.length_eq_zero_iff.mp (by omega)
    subst nothing
    exact List.perm_singleton.mp moved

theorem Accounted.call (accounted : Accounted made finished inHand)
    (alone : ∀ other ∈ inHand, other.thread ≠ sending.thread) :
    Accounted (made ++ [sending]) finished (inHand ++ [sending]) := by
  constructor
  · intro thread
    rw [callsOf_append, callsOf_append, accounted.ordered, List.append_assoc]
  · intro thread
    rw [callsOf_append]
    by_cases same : sending.thread = thread
    · -- The thread had none in hand.
      subst same
      rw [callsOf_eq_nil alone]
      exact length_callsOf_singleton _
    · have nothing : callsOf [sending] thread = [] := by
        apply callsOf_eq_nil
        intro other member
        cases List.mem_singleton.mp member
        exact same
      rw [nothing, List.append_nil]
      exact accounted.alone thread

/-- The lock is given to any of the calls in hand: those of one thread stay in order, as there is
never a second one. -/
theorem Accounted.takeOut (accounted : Accounted made finished inHand) {index : Nat}
    (found : inHand[index]? = some sending) :
    Accounted made finished (sending :: inHand.eraseIdx index) := by
  have same : ∀ thread, callsOf (sending :: inHand.eraseIdx index) thread =
      callsOf inHand thread := by
    intro thread
    have moved : (sending :: inHand.eraseIdx index).Perm inHand := by
      obtain ⟨bound, rfl⟩ := List.getElem?_eq_some_iff.mp found
      exact List.getElem_cons_eraseIdx_perm bound
    have calls : (callsOf (sending :: inHand.eraseIdx index) thread).Perm
        (callsOf inHand thread) := (moved.filter _).map _
    exact eq_of_perm_of_length_le_one calls (accounted.alone thread)
  constructor
  · intro thread
    rw [same]
    exact accounted.ordered thread
  · intro thread
    rw [same]
    exact accounted.alone thread

theorem Accounted.finish (accounted : Accounted made finished (sending :: inHand)) :
    Accounted made (finished ++ [sending]) inHand := by
  have split : ∀ thread, callsOf (sending :: inHand) thread =
      callsOf [sending] thread ++ callsOf inHand thread := callsOf_append [sending] inHand
  constructor
  · intro thread
    rw [accounted.ordered, split, callsOf_append, List.append_assoc]
  · intro thread
    have few := accounted.alone thread
    rw [split, List.length_append] at few
    omega

end Sending

namespace Connection

variable {s t : Connection} {sending : Sending} {writing : Writing}

/-- The invariant: the calls are accounted for, and the stream is what was delivered. -/
structure Sound (s : Connection) : Prop where
  accounted : Sending.Accounted s.made (s.finished.map Prod.fst) s.inHand
  within : ∀ writing, s.writing = some writing →
    writing.offset < writing.sending.call.data.length
  whole : s.torn = false → s.stream = s.delivered.flatMap ClientCall.data ++ s.begun

theorem sound_initial : Sound {} where
  accounted := ⟨fun _ => rfl, fun _ => Nat.zero_le 1⟩
  within _ none := by cases none
  whole _ := rfl

theorem finished_finish (isDelivered : Bool) :
    (s.finish sending isDelivered).finished.map Prod.fst =
      s.finished.map Prod.fst ++ [sending] := by
  simp only [finish, List.map_append, List.map_cons, List.map_nil]

theorem delivered_finish_true : (s.finish sending true).delivered = s.delivered ++ [sending.call] := by
  simp [finish, delivered]

theorem delivered_finish_false : (s.finish sending false).delivered = s.delivered := by
  simp [finish, delivered]

theorem inHand_writing (holds : s.writing = some writing) :
    s.inHand = writing.sending :: s.waiting := by
  rw [inHand, holds]
  rfl

theorem begun_writing (holds : s.writing = some writing) :
    s.begun = writing.sending.call.data.take writing.offset := by
  rw [begun, holds]
  rfl

theorem Sound.enter (sound : Sound s) {index : Nat} (taken : s.enter index = some t) :
    Sound t := by
  rw [Connection.enter] at taken
  split at taken
  · next free =>
    have inHand : s.inHand = s.waiting := by
      rw [Connection.inHand, free]
      rfl
    have nothing : s.begun = [] := by
      rw [begun, free]
      rfl
    obtain ⟨sending, found, rfl⟩ := Option.map_eq_some_iff.mp taken
    have accounted := sound.accounted
    rw [inHand] at accounted
    have takenOut := accounted.takeOut found
    split
    · refine ⟨takenOut, ?_, ?_⟩
      · intro writing holds
        cases holds
        exact List.length_pos_iff.mpr sending.call.data_ne_nil
      · intro intact
        have whole := sound.whole intact
        rw [nothing] at whole
        exact whole
    · -- The descriptor is gone: the call throws before it writes.
      refine ⟨?_, ?_, ?_⟩
      · rw [finished_finish]
        simpa only [Connection.inHand, finish, free, Option.map_none, Option.toList_none,
          List.nil_append] using takenOut.finish
      · intro writing holds
        have none : s.writing = some writing := holds
        exact sound.within writing none
      · intro intact
        rw [delivered_finish_false]
        exact sound.whole intact
  · cases taken

theorem Sound.write (sound : Sound s) (holds : s.writing = some writing) {count : Nat}
    (taken : s.write writing count = some t) : Sound t := by
  have accounted := sound.accounted
  rw [inHand_writing holds] at accounted
  have whole := sound.whole
  rw [begun_writing holds] at whole
  rw [Connection.write] at taken
  split at taken
  · next allowed =>
    -- The piece goes on where the message was left.
    have joined : ∀ sent, sent = writing.sending.call.data.take (writing.offset + count) →
        s.torn = false → s.stream ++ (writing.sending.call.data.drop writing.offset).take count =
          s.delivered.flatMap ClientCall.data ++ sent := by
      rintro sent rfl intact
      rw [whole intact, List.append_assoc, ← List.take_add]
    split at taken
    · next left =>
      cases taken
      refine ⟨accounted, ?_, joined _ rfl⟩
      intro further same
      cases same
      exact left
    · next left =>
      -- It was the last piece.
      cases taken
      refine ⟨?_, ?_, ?_⟩
      · rw [finished_finish]
        exact accounted.finish
      · intro further same
        cases same
      · intro intact
        rw [delivered_finish_true]
        have all := joined writing.sending.call.data
          (List.take_of_length_le (by omega)).symm intact
        simpa [finish, begun, delivered] using all
  · cases taken

theorem Sound.fail (sound : Sound s) (holds : s.writing = some writing) :
    Sound (s.fail writing) := by
  have accounted := sound.accounted
  rw [inHand_writing holds] at accounted
  have whole := sound.whole
  rw [begun_writing holds] at whole
  refine ⟨?_, ?_, ?_⟩
  · rw [Connection.fail, finished_finish]
    exact accounted.finish
  · intro further same
    cases same
  · -- Nothing was written yet, or the stream is torn.
    intro intact
    have both : s.torn = false ∧ writing.offset = 0 := by
      simpa [Connection.fail, finish] using intact
    rw [Connection.fail, delivered_finish_false]
    have before := whole both.1
    rw [both.2] at before
    exact before

theorem Sound.step (sound : Sound s) {event : ConnectionEvent}
    (taken : s.step event = some t) : Sound t := by
  cases event with
  | call sending =>
    rw [Connection.step] at taken
    split at taken
    · next alone =>
      cases taken
      refine ⟨?_, sound.within, sound.whole⟩
      have called := sound.accounted.call alone
      rwa [inHand, List.append_assoc] at called
    · cases taken
  | enter index => exact sound.enter taken
  | written count =>
    obtain ⟨writing, holds, wrote⟩ := Option.bind_eq_some_iff.mp taken
    exact sound.write holds wrote
  | writeFails =>
    obtain ⟨writing, holds, rfl⟩ := Option.map_eq_some_iff.mp taken
    exact sound.fail holds
  | disconnect =>
    cases taken
    exact ⟨sound.accounted, sound.within, sound.whole⟩
  | shutDown =>
    rw [Connection.step] at taken
    split at taken
    · cases taken
    · cases taken
      exact ⟨sound.accounted, sound.within, sound.whole⟩

/-- The beginning of a message is no message. -/
theorem Sound.begun_unread (sound : Sound s) : clientMessage s.begun = none := by
  cases holds : s.writing with
  | none =>
    rw [begun, holds]
    rfl
  | some writing =>
    rw [begun_writing holds]
    exact writing.sending.call.unfinished (sound.within writing holds)

/-- **Messages arrive whole and once**: in every run the calls of a thread are those that are over,
in the order it made them, and at most one in hand; and unless a call failed with part of its
message written, the server reads just the messages delivered and the beginning of one more. -/
theorem client_stream {events : List ConnectionEvent} (run : Run Connection.step {} events s) :
    (∀ thread, Sending.callsOf s.made thread = Sending.callsOf (s.finished.map Prod.fst) thread ++
        Sending.callsOf s.inHand thread ∧ (Sending.callsOf s.inHand thread).length ≤ 1) ∧
      (s.torn = false →
        clientMessage.all s.stream = (s.delivered.map ClientCall.message, s.begun)) := by
  have sound := run.keeps (I := Sound) (fun _ _ _ sound taken => sound.step taken) sound_initial
  constructor
  · intro thread
    exact ⟨sound.accounted.ordered thread, sound.accounted.alone thread⟩
  · intro intact
    rw [sound.whole intact]
    exact all_eq ClientCall.reads ClientCall.data_ne_nil sound.begun_unread s.delivered

/-- Two threads: the later call is written first, in two pieces, and the other one is begun. -/
theorem client_stream_two_threads : ∃ s, Run Connection.step {}
    [.call ⟨0, .sendPointer 1 2 3⟩, .call ⟨1, .sendKey 97 true⟩, .enter 1, .written 5, .written 3,
      .enter 0, .written 1] s ∧
    clientMessage.all s.stream = ([.keyEvent true 97], [5]) := by
  have run : Run Connection.step {}
      [.call ⟨0, .sendPointer 1 2 3⟩, .call ⟨1, .sendKey 97 true⟩, .enter 1, .written 5,
        .written 3, .enter 0, .written 1] _ := run_of_execute rfl
  exact ⟨_, run, (client_stream run).2 rfl⟩

end Connection

end SimpleVM.VNC
