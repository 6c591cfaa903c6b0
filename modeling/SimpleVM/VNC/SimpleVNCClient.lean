import SimpleVM.Effects.Failing
import SimpleVM.Raster.RowMajor

/-!
# The VNC client

`SimpleVNCClient`: the handshake and the loop that reads server messages, over the bytes that
will still arrive before the connection ends.
-/
namespace SimpleVM.VNC

open Effects Failing Raster

inductive SimpleVNCError
  | unsupportedVersion | noSecurityType | authenticationFailed
  | unsupportedMessage (type : UInt8)
  | unsupportedEncoding (encoding : Int32)
  | disconnected
deriving DecidableEq, Repr

structure SimpleVNCClient where
  framebuffer : List UInt8 := []
  width : Nat := 0
  height : Nat := 0
deriving DecidableEq, Repr

/-- The client and both directions of its socket. -/
structure Session where
  client : SimpleVNCClient := {}
  incoming : List UInt8
  sent : List (List UInt8) := []
  /-- Whether the send after so many others fails. -/
  refuses : Nat → Bool := fun _ => false

abbrev Exchange := Failing Session SimpleVNCError

def appendBigEndian16 (message : List UInt8) (value : UInt16) : List UInt8 :=
  message ++ [(value >>> 8).toUInt8, value.toUInt8]

def appendBigEndian32 (message : List UInt8) (value : UInt32) : List UInt8 :=
  message ++ [(value >>> 24).toUInt8, (value >>> 16).toUInt8, (value >>> 8).toUInt8, value.toUInt8]

def readUInt16BigEndian (data : List UInt8) (offset : Nat) : UInt16 :=
  (slice data offset 2).foldl (fun value byte => (value <<< 8) ||| byte.toUInt16) 0

def readUInt32BigEndian (data : List UInt8) (offset : Nat) : UInt32 :=
  (slice data offset 4).foldl (fun value byte => (value <<< 8) ||| byte.toUInt32) 0

/-- `Data(repeating: 0, count: width * height * 4)` -/
def emptyFramebuffer (width height : Nat) : List UInt8 := List.replicate (width * height * 4) 0

def receiveExactly (count : Nat) : Exchange (List UInt8) := fun s =>
  if count ≤ s.incoming.length then
    (.ok (s.incoming.take count), { s with incoming := s.incoming.drop count })
  else (.error .disconnected, { s with incoming := [] })

def send (data : List UInt8) : Exchange Unit := fun s =>
  if s.refuses s.sent.length then (.error .disconnected, s)
  else (.ok (), { s with sent := s.sent ++ [data] })

def client : Exchange SimpleVNCClient := do
  let s ← getState
  return s.client

def setClient (client : SimpleVNCClient) : Exchange Unit := change fun s => { s with client := client }

/-- Both lengths come out of 16 bits of the protocol, so the source's `UInt16(width)` never traps
where `UInt16.ofNat` would wrap. -/
def requestUpdate (incremental : Bool) : Exchange Unit := do
  let c ← client
  let message := [3, if incremental then 1 else 0]
  let message := appendBigEndian16 (appendBigEndian16 message 0) 0
  let message := appendBigEndian16 message (UInt16.ofNat c.width)
  send (appendBigEndian16 message (UInt16.ofNat c.height))

/-- One row of `copy`; a row that does not fit is left out. -/
def copyRow (width : Nat) (pixels : List UInt8) (x y rectangleWidth : Nat)
    (framebuffer : List UInt8) (row : Nat) : List UInt8 :=
  let sourceRowBytes := rectangleWidth * 4
  let sourceStart := row * sourceRowBytes
  let destinationStart := ((y + row) * width + x) * 4
  let destinationEnd := destinationStart + sourceRowBytes
  let sourceEnd := sourceStart + sourceRowBytes
  if destinationEnd ≤ framebuffer.length ∧ sourceEnd ≤ pixels.length then
    replace framebuffer destinationStart destinationEnd (slice pixels sourceStart sourceRowBytes)
  else framebuffer

namespace SimpleVNCClient

def copy (c : SimpleVNCClient) (pixels : List UInt8) (x y rectangleWidth rectangleHeight : Nat) :
    SimpleVNCClient :=
  { c with framebuffer :=
      (List.range rectangleHeight).foldl (copyRow c.width pixels x y rectangleWidth) c.framebuffer }

/-- The rows of the source rectangle, copied into a buffer of their own. -/
def snapshot (c : SimpleVNCClient) (sourceX sourceY rectangleWidth rectangleHeight : Nat) :
    List UInt8 :=
  let rowBytes := rectangleWidth * 4
  (List.range rectangleHeight).foldl (fun snapshot row =>
      replace snapshot (row * rowBytes) (row * rowBytes + rowBytes)
        (slice c.framebuffer (((sourceY + row) * c.width + sourceX) * 4) rowBytes))
    (List.replicate (rowBytes * rectangleHeight) 0)

def copyRectangle (c : SimpleVNCClient)
    (sourceX sourceY destinationX destinationY rectangleWidth rectangleHeight : Nat) :
    SimpleVNCClient :=
  if 0 < rectangleWidth ∧ 0 < rectangleHeight ∧
      sourceX + rectangleWidth ≤ c.width ∧ destinationX + rectangleWidth ≤ c.width ∧
      sourceY + rectangleHeight ≤ c.height ∧ destinationY + rectangleHeight ≤ c.height then
    c.copy (c.snapshot sourceX sourceY rectangleWidth rectangleHeight) destinationX destinationY
      rectangleWidth rectangleHeight
  else c

def resized (width height : Nat) : SimpleVNCClient where
  framebuffer := emptyFramebuffer width height
  width := width
  height := height

end SimpleVNCClient

/-- What both desktop size encodings do with the size of their rectangle. -/
def resize (width height : Nat) : Exchange Unit := do
  let c ← client
  if c.width ≠ width ∨ c.height ≠ height then
    setClient (.resized width height)
    requestUpdate false

def desktopSizeEncoding : Int32 := -223
def extendedDesktopSizeEncoding : Int32 := -308
def copyRectEncoding : Int32 := 1
def rawEncoding : Int32 := 0

/-- A rectangle after its header. -/
def readEncoding (x y rectangleWidth rectangleHeight : Nat) (encoding : Int32) : Exchange Unit := do
  if encoding = desktopSizeEncoding then
    resize rectangleWidth rectangleHeight
  else if encoding = extendedDesktopSizeEncoding then
    let header ← receiveExactly 4
    let screenCount := (header.headD 0).toNat
    let _ ← receiveExactly (screenCount * 16)
    resize rectangleWidth rectangleHeight
  else if encoding = copyRectEncoding then
    let source ← receiveExactly 4
    let c ← client
    setClient (c.copyRectangle (readUInt16BigEndian source 0).toNat
      (readUInt16BigEndian source 2).toNat x y rectangleWidth rectangleHeight)
  else if encoding = rawEncoding then
    let pixels ← receiveExactly (rectangleWidth * rectangleHeight * 4)
    let c ← client
    setClient (c.copy pixels x y rectangleWidth rectangleHeight)
  else throw (.unsupportedEncoding encoding)

def readRectangle : Exchange Unit := do
  let rectangle ← receiveExactly 12
  let x := (readUInt16BigEndian rectangle 0).toNat
  let y := (readUInt16BigEndian rectangle 2).toNat
  let rectangleWidth := (readUInt16BigEndian rectangle 4).toNat
  let rectangleHeight := (readUInt16BigEndian rectangle 6).toNat
  let encoding := (readUInt32BigEndian rectangle 8).toInt32
  readEncoding x y rectangleWidth rectangleHeight encoding

def readRectangles : Nat → Exchange Unit
  | 0 => pure ()
  | n + 1 => do
    readRectangle
    readRectangles n

/-- `publishImage` only reads the client. -/
def readFramebufferUpdate : Exchange Unit := do
  let header ← receiveExactly 3
  readRectangles (readUInt16BigEndian header 1).toNat
  requestUpdate true

/-- A message after its type. -/
def readMessage : UInt8 → Exchange Unit
  | 0 => readFramebufferUpdate
  | 1 => do
    let header ← receiveExactly 5
    let _ ← receiveExactly ((readUInt16BigEndian header 3).toNat * 6)
  | 2 => pure ()
  | 3 => do
    let header ← receiveExactly 7
    let _ ← receiveExactly (readUInt32BigEndian header 3).toNat
  | type => throw (.unsupportedMessage type)

/-- One round of the loop in `readUpdates`. -/
def readUpdate : Exchange Unit := do
  let type ← receiveExactly 1
  readMessage (type.headD 0)

section Progress

/-- Nothing arrives again. -/
def Reads (s t : Session) : Prop := t.incoming.length ≤ s.incoming.length

theorem Reads.refl (s : Session) : Reads s s := Nat.le_refl _

theorem Reads.trans (s t u : Session) (first : Reads s t) (second : Reads t u) : Reads s u :=
  Nat.le_trans second first

theorem receiveExactly_reads (count : Nat) : Keeps Reads (receiveExactly count) := by
  intro s
  unfold receiveExactly Reads
  split <;> simp

theorem send_reads (data : List UInt8) : Keeps Reads (send data) := by
  intro s
  unfold send Reads
  split <;> simp

theorem setClient_reads (c : SimpleVNCClient) : Keeps Reads (setClient c) := fun _ => Nat.le_refl _

theorem client_reads : Keeps Reads client := fun _ => Nat.le_refl _

theorem requestUpdate_reads (incremental : Bool) : Keeps Reads (requestUpdate incremental) :=
  .bind Reads.trans client_reads fun _ => send_reads _

theorem resize_reads (width height : Nat) : Keeps Reads (resize width height) := by
  refine .bind Reads.trans client_reads fun c => ?_
  split
  · exact .bind Reads.trans (setClient_reads _) fun _ => requestUpdate_reads false
  · exact .pure Reads.refl ()

theorem readEncoding_reads (x y width height : Nat) (encoding : Int32) :
    Keeps Reads (readEncoding x y width height encoding) := by
  unfold readEncoding
  split
  · exact resize_reads width height
  · split
    · exact .bind Reads.trans (receiveExactly_reads 4) fun _ =>
        .bind Reads.trans (receiveExactly_reads _) fun _ => resize_reads width height
    · split
      · exact .bind Reads.trans (receiveExactly_reads 4) fun _ =>
          .bind Reads.trans client_reads fun _ => setClient_reads _
      · split
        · exact .bind Reads.trans (receiveExactly_reads _) fun _ =>
            .bind Reads.trans client_reads fun _ => setClient_reads _
        · exact .throw Reads.refl _

theorem readRectangles_reads (n : Nat) : Keeps Reads (readRectangles n) := by
  induction n with
  | zero => exact .pure Reads.refl ()
  | succ n ih =>
    exact .bind Reads.trans (.bind Reads.trans (receiveExactly_reads 12) fun _ =>
      readEncoding_reads _ _ _ _ _) fun _ => ih

/-- Every round reads at least the type of its message. -/
theorem readUpdate_progress {s t : Session} {result : Except SimpleVNCError Unit}
    (run : readUpdate s = (result, t)) : result = .ok () → t.incoming.length < s.incoming.length := by
  rintro rfl
  obtain ⟨type, u, first, rest⟩ := bind_eq_ok.mp run
  have less : u.incoming.length < s.incoming.length := by
    unfold receiveExactly at first
    split at first
    · next enough =>
      cases first
      simp only [List.length_drop]
      omega
    · cases first
  have message : Keeps Reads (readMessage (type.headD 0)) := by
    unfold readMessage
    split
    · exact .bind Reads.trans (receiveExactly_reads 3) fun _ =>
        .bind Reads.trans (readRectangles_reads _) fun _ => requestUpdate_reads true
    · exact .bind Reads.trans (receiveExactly_reads 5) fun _ =>
        .bind Reads.trans (receiveExactly_reads _) fun _ => .pure Reads.refl ()
    · exact .pure Reads.refl ()
    · exact .bind Reads.trans (receiveExactly_reads 7) fun _ =>
        .bind Reads.trans (receiveExactly_reads _) fun _ => .pure Reads.refl ()
    · exact .throw Reads.refl _
  exact Nat.lt_of_le_of_lt (message.of_run rest) less

end Progress

/-- The session after each round of the loop, and the error that ends it. -/
def readUpdates (s : Session) : List Session × SimpleVNCError :=
  match _run : readUpdate s with
  | (.ok (), t) => (t :: (readUpdates t).1, (readUpdates t).2)
  | (.error error, _) => ([], error)
termination_by s.incoming.length
decreasing_by all_goals exact readUpdate_progress _run rfl

theorem readUpdates_of_ok {s t : Session} (run : readUpdate s = (.ok (), t)) :
    readUpdates s = (t :: (readUpdates t).1, (readUpdates t).2) := by
  rw [readUpdates]
  split
  · next other =>
    rw [run] at other
    cases other
    rfl
  · next other =>
    rw [run] at other
    cases other

theorem readUpdates_of_error {s t : Session} {error : SimpleVNCError}
    (run : readUpdate s = (.error error, t)) : readUpdates s = ([], error) := by
  rw [readUpdates]
  split
  · next other =>
    rw [run] at other
    cases other
  · next other =>
    rw [run] at other
    cases other
    rfl

/-- `SetPixelFormat`: 32 bits, 24 deep, little-endian, true colour, red in bits 16 to 23. -/
def pixelFormatMessage : List UInt8 :=
  let message := [0, 0, 0, 0, 32, 24, 0, 1]
  let message := appendBigEndian16 (appendBigEndian16 (appendBigEndian16 message 255) 255) 255
  message ++ [16, 8, 0, 0, 0, 0]

def encodingsMessage : List UInt8 :=
  let message := appendBigEndian16 [2, 0] 4
  let message := appendBigEndian32 (appendBigEndian32 message 1) 0
  appendBigEndian32 (appendBigEndian32 message desktopSizeEncoding.toUInt32)
    extendedDesktopSizeEncoding.toUInt32

/-- The handshake from the client's own initialisation message on. -/
def readServerHeader : Exchange Unit := do
  send [1]
  let serverHeader ← receiveExactly 24
  let width := (readUInt16BigEndian serverHeader 0).toNat
  let height := (readUInt16BigEndian serverHeader 2).toNat
  let c ← client
  setClient { c with width := width, height := height }
  let _ ← receiveExactly (readUInt32BigEndian serverHeader 20).toNat
  setClient (.resized width height)
  send pixelFormatMessage
  send encodingsMessage
  requestUpdate false

/-- The handshake from the choice of security type 1 on. -/
def authenticate : Exchange Unit := do
  send [1]
  let result ← receiveExactly 4
  if readUInt32BigEndian result 0 ≠ 0 then throw .authenticationFailed
  else readServerHeader

def handshake : Exchange Unit := do
  let version ← receiveExactly 12
  -- ASCII, and "RFB 003." first.
  if version.any (· ≥ 0x80) ∨
      ¬ [0x52, 0x46, 0x42, 0x20, 0x30, 0x30, 0x33, 0x2e].isPrefixOf version then
    throw .unsupportedVersion
  else
    -- "RFB 003.008\n"
    send [0x52, 0x46, 0x42, 0x20, 0x30, 0x30, 0x33, 0x2e, 0x30, 0x30, 0x38, 0x0a]
    let securityCount ← receiveExactly 1
    if (securityCount.headD 0).toNat = 0 then
      let length ← receiveExactly 4
      let _ ← receiveExactly (readUInt32BigEndian length 0).toNat
      throw .noSecurityType
    else
      let securityTypes ← receiveExactly (securityCount.headD 0).toNat
      if 1 ∉ securityTypes then throw .noSecurityType
      else authenticate

end SimpleVM.VNC
