import SimpleVM.Agent.HostCodec
import SimpleVM.Agent.HostText

/-!
# The frame limit on clipboard texts

Host and guest both limit a text by its UTF-8 length and a frame by the length of its JSON. What
the two encoders add to a text is counted here, and with it exactly which texts of at most 1 MiB
fit their frames.
-/
namespace SimpleVM.Agent

open Python Text
open Swift (shortEscape escape encodeString encodeInt encodeMember encodeObject encodeArray)

section Growth

/-- The characters both encoders write as a backslash and a letter. -/
def isQuoted (c : Char) : Bool := ['"', '\\', '\x08', '\x0c', '\n', '\r', '\t'].contains c

/-- The characters both encoders write as six. -/
def isOtherControl (c : Char) : Bool := decide (c.toNat < 0x20) && !isQuoted c

/-- The bytes of a text between the quotes of the guest's JSON. -/
def guestSize (text : List Char) : Nat :=
  (utf8 text).length + text.countP isQuoted + 5 * text.countP isOtherControl

/-- The host escapes slashes as well. -/
def hostSize (text : List Char) : Nat := guestSize text + text.count '/'

theorem guestSize_cons (c : Char) (text : List Char) :
    guestSize (c :: text) = guestSize [c] + guestSize text := by
  simp only [guestSize, utf8_cons, utf8_nil, List.append_nil, List.length_append, List.countP_cons,
    List.countP_nil]
  omega

theorem hostSize_cons (c : Char) (text : List Char) :
    hostSize (c :: text) = hostSize [c] + hostSize text := by
  simp only [hostSize, guestSize_cons c text, List.count_cons, List.count_nil]
  omega

theorem eq_of_isQuoted {c : Char} (quoted : isQuoted c) :
    c = '"' ∨ c = '\\' ∨ c = '\x08' ∨ c = '\x0c' ∨ c = '\n' ∨ c = '\r' ∨ c = '\t' := by
  simpa [isQuoted] using quoted

/-- A control character without a short escape is one of these numbers. -/
theorem exists_of_isOtherControl {c : Char} (control : isOtherControl c) :
    ∃ n : Fin 32, c = Char.ofNat n ∧ isOtherControl (Char.ofNat n) := by
  have small : c.toNat < 32 := by
    simp only [isOtherControl, Bool.and_eq_true, decide_eq_true_eq] at control
    exact control.1
  have same : c = Char.ofNat c.toNat := (Char.ofNat_toNat c).symm
  exact ⟨⟨c.toNat, small⟩, same, same ▸ control⟩

end Growth

section Host

theorem length_utf8_escape (c : Char) : (utf8 (escape c)).length = hostSize [c] := by
  by_cases quoted : isQuoted c
  · rcases eq_of_isQuoted quoted with rfl | rfl | rfl | rfl | rfl | rfl | rfl <;> decide +kernel
  · by_cases control : isOtherControl c
    · obtain ⟨n, rfl, control⟩ := exists_of_isOtherControl control
      revert n
      decide +kernel
    · by_cases slash : c = '/'
      · subst slash
        decide +kernel
      · have plain : escape c = [c] := by
          have large : ¬ c.toNat < 32 := by
            intro small
            have : isOtherControl c := by simp [isOtherControl, small, quoted]
            exact control this
          have long : shortEscape c = none := by
            simp only [isQuoted, List.contains_eq_mem, List.mem_cons, List.not_mem_nil, or_false,
              decide_eq_true_eq, not_or] at quoted
            unfold shortEscape
            split <;> simp_all
          simp only [escape, long, large, if_false]
        rw [plain]
        simp [hostSize, guestSize, quoted, control, slash]

theorem length_utf8_escaped (text : List Char) :
    (utf8 (text.flatMap escape)).length = hostSize text := by
  induction text with
  | nil => rfl
  | cons c text ih =>
    rw [List.flatMap_cons, utf8_append, List.length_append, length_utf8_escape, ih,
      ← hostSize_cons]

theorem length_utf8_encodeString (s : String) :
    (utf8 (encodeString s)).length = hostSize s.toList + 2 := by
  simp only [encodeString, utf8_cons, utf8_append, utf8_nil, List.append_nil, List.length_append,
    length_utf8_escaped]
  have quote : (String.utf8EncodeChar '"').length = 1 := by decide
  omega

theorem length_utf8_encodeInt (n : Int64) :
    (utf8 (encodeInt n)).length =
      (if n.toInt < 0 then 1 else 0) + (Nat.toDigits 10 n.toInt.natAbs).length := by
  have digits (m : Nat) : (utf8 (Nat.toDigits 10 m)).length = (Nat.toDigits 10 m).length := by
    have single : ∀ c ∈ Nat.toDigits 10 m, (String.utf8EncodeChar c).length = 1 := by
      intro c member
      have digit := Nat.isDigit_of_mem_toDigits (by decide) (Nat.le_refl 10) member
      have small : c.val ≤ 127 := by
        simp only [Char.isDigit, Bool.and_eq_true, decide_eq_true_eq] at digit
        exact UInt32.le_trans digit.2 (by decide)
      rw [utf8EncodeChar_ascii small]
      rfl
    rw [utf8, List.length_flatMap, List.map_congr_left single, List.map_const', List.sum_replicate_nat,
      Nat.mul_one]
  unfold encodeInt
  split
  · rw [utf8_cons, List.length_append, digits]
    rfl
  · rw [digits]
    omega

/-- The JSON of an envelope that writes a text. -/
def writePayload (version : Int64) (requestID : Option String) (text : String) : List Char :=
  encodeObject ([("protocolVersion", encodeInt version),
      ("request", encodeObject [("text", encodeString text),
        ("type", encodeString "writeClipboard")])] ++
    (requestID.map fun id => ("requestID", encodeString id)).toList)

def writeSize (version : Int64) (requestID : Option String) (text : String) : Nat :=
  66 + (if version.toInt < 0 then 1 else 0) + (Nat.toDigits 10 version.toInt.natAbs).length +
    hostSize text.toList + (requestID.map fun id => 15 + hostSize id.toList).getD 0

theorem length_utf8_writePayload (version : Int64) (requestID : Option String) (text : String) :
    (utf8 (writePayload version requestID text)).length = writeSize version requestID text := by
  have keys : hostSize "protocolVersion".toList = 15 ∧ hostSize "request".toList = 7 ∧
      hostSize "text".toList = 4 ∧ hostSize "type".toList = 4 ∧
      hostSize "writeClipboard".toList = 14 ∧ hostSize "requestID".toList = 9 := by decide +kernel
  have marks : (String.utf8EncodeChar '{').length = 1 ∧ (String.utf8EncodeChar '}').length = 1 ∧
      (String.utf8EncodeChar ':').length = 1 ∧ (String.utf8EncodeChar ',').length = 1 := by decide
  cases requestID <;>
  · simp only [writePayload, writeSize, encodeObject, encodeMember, Option.map_none, Option.map_some,
      Option.toList_none, Option.toList_some, Option.getD_none, Option.getD_some, List.append_nil,
      List.cons_append, List.nil_append, List.map_cons, List.map_nil, List.intercalate,
      List.intersperse, List.flatten_cons, List.flatten_nil, utf8_cons, utf8_append, utf8_nil,
      List.length_append, length_utf8_encodeString, length_utf8_encodeInt, keys, marks]
    omega

theorem encode_write (version : Int64) (requestID : Option String) (text : String)
    (legal : text.utf8ByteSize ≤ maximumClipboardSize) :
    encode ⟨version, requestID, .writeClipboard text⟩ =
      if writeSize version requestID text ≤ maximumPayloadSize then
        .ok (packHeader (writeSize version requestID text) ++
          utf8 (writePayload version requestID text))
      else .error .payloadTooLarge := by
  have payload : encodeEnvelope ⟨version, requestID, .writeClipboard text⟩ =
      .ok (writePayload version requestID text) := by
    simp only [encodeEnvelope, encodeRequest, if_pos legal]
    rfl
  simp only [encode, payload, length_utf8_writePayload]

/-- The host sends a legal text exactly when its JSON fits the frame. -/
theorem encode_write_iff (version : Int64) (requestID : Option String) (text : String)
    (legal : text.utf8ByteSize ≤ maximumClipboardSize) :
    (∃ frame, encode ⟨version, requestID, .writeClipboard text⟩ = .ok frame) ↔
      writeSize version requestID text ≤ maximumPayloadSize := by
  rw [encode_write version requestID text legal]
  split
  · next fits => exact ⟨fun _ => fits, fun _ => ⟨_, rfl⟩⟩
  · next large => exact ⟨(by rintro ⟨_, same⟩; cases same), fun fits => absurd fits large⟩

end Host

section Guest

/-- A Python text that has a UTF-8 encoding of this length. -/
def Encodes (s : Str) (length : Nat) : Prop :=
  ∃ bytes, encode? s = some bytes ∧ bytes.length = length

theorem Encodes.append {a b : Str} {m n : Nat} (first : Encodes a m) (second : Encodes b n) :
    Encodes (a ++ b) (m + n) := by
  obtain ⟨_, left, rfl⟩ := first
  obtain ⟨_, right, rfl⟩ := second
  simp only [encode?, Option.ite_none_left_eq_some, Option.some.injEq] at left right
  obtain ⟨leftPlain, rfl⟩ := left
  obtain ⟨rightPlain, rfl⟩ := right
  refine ⟨utf8 (a.map Char.ofNat) ++ utf8 (b.map Char.ofNat), ?_, List.length_append⟩
  simp only [encode?, List.any_append, leftPlain, rightPlain, List.map_append, utf8_append]
  rfl

theorem encodes_escapeUnit (c : Char) : Encodes (escapeUnit c.toNat) (guestSize [c]) := by
  by_cases quoted : isQuoted c
  · rcases eq_of_isQuoted quoted with rfl | rfl | rfl | rfl | rfl | rfl | rfl <;>
      exact ⟨_, by rfl, by rfl⟩
  · by_cases control : isOtherControl c
    · obtain ⟨n, rfl, control⟩ := exists_of_isOtherControl control
      have decided : ∀ n : Fin 32, isOtherControl (Char.ofNat n) →
          (encode? (escapeUnit (Char.ofNat n).toNat)).map List.length =
            some (guestSize [Char.ofNat n]) := by decide +kernel
      exact Option.map_eq_some_iff.mp (decided n control)
    · have plain : escapeUnit c.toNat = [c.toNat] := by
        have large : ¬ c.toNat < 32 := by
          intro small
          have : isOtherControl c := by simp [isOtherControl, small, quoted]
          exact control this
        simp only [isQuoted, List.contains_eq_mem, List.mem_cons, List.not_mem_nil, or_false,
          decide_eq_true_eq, not_or, ← Char.toNat_inj, Char.reduceToNat] at quoted
        simp [escapeUnit, quoted, large]
      refine ⟨String.utf8EncodeChar c, ?_, ?_⟩
      · simp [plain, encode?, not_isSurrogate]
      · simp [guestSize, quoted, control]

theorem encodes_escaped (text : List Char) :
    Encodes ((text.map Char.toNat).flatMap escapeUnit) (guestSize text) := by
  induction text with
  | nil => exact ⟨[], rfl, rfl⟩
  | cons c text ih =>
    rw [guestSize_cons]
    exact (encodes_escapeUnit c).append ih

theorem encodes_dumpsString (text : String) :
    Encodes (dumpsString (str text)) (guestSize text.toList + 2) := by
  have quotes : Encodes [0x22] 1 := ⟨_, rfl, rfl⟩
  have bounds : guestSize text.toList + 2 = 1 + (guestSize text.toList + 1) := by omega
  rw [bounds]
  exact quotes.append ((encodes_escaped text.toList).append quotes)

theorem encodeFrame_iff {python : Interpreter} {message : Value} {s : Str} {length : Nat}
    (text : dumps python.floatRepr python.encoderLimit message = .ok s)
    (encoded : Encodes s length) :
    (∃ frame, encodeFrame python message = .ok frame) ↔ length ≤ maxFrameSize := by
  obtain ⟨bytes, encoded, rfl⟩ := encoded
  simp only [encodeFrame, text, encoded]
  split
  · next large => exact ⟨(by rintro ⟨_, same⟩; cases same), fun fits => absurd fits (Nat.not_le_of_lt large)⟩
  · next fits => exact ⟨fun _ => Nat.le_of_not_lt fits, fun _ => ⟨_, rfl⟩⟩

/-- `{"type": "clipboard", "text": text}`, as the session helper replies. -/
def clipboardReply (text : Str) : List (Str × Value) :=
  [(str "type", .string (str "clipboard")), (str "text", .string text)]

/-- A `readClipboard` request with this identifier. -/
def readRequest (requestID : Str) : Request := ⟨.readClipboard, false, some requestID⟩

theorem dumps_clipboardReply (floatRepr : FloatRepr) (limit : Nat) (text : Str) :
    dumps floatRepr (limit + 1) (.dict (clipboardReply text)) =
      .ok (str "\x7b\"type\":\"clipboard\",\"text\":" ++ (dumpsString text ++ str "\x7d")) := by
  simp only [dumps, clipboardReply, List.mapM_cons, List.mapM_nil,
    pure, Except.pure, bind, Except.bind, joined, List.intercalate,
    List.intersperse, List.flatten_cons, List.flatten_nil, List.append_nil, List.append_assoc]
  rfl

theorem dumps_response (floatRepr : FloatRepr) (limit : Nat) (requestID text : Str) :
    dumps floatRepr (limit + 2) (responseMessage (readRequest requestID) (clipboardReply text)) =
      .ok (str "\x7b\"protocolVersion\":2,\"requestID\":" ++ (dumpsString requestID ++
        (str ",\"response\":\x7b\"type\":\"clipboard\",\"text\":" ++
          (dumpsString text ++ str "\x7d\x7d")))) := by
  have two : ¬ maxStrDigits < (Nat.toDigits 10 (2 : Int).natAbs).length := by decide
  simp only [responseMessage, readRequest, clipboardReply, Bool.false_eq_true, if_false,
    Option.map_some, Option.getD_some, protocolVersion, dumps, if_neg two, List.mapM_cons,
    List.mapM_nil, pure, Except.pure, bind, Except.bind, joined, List.intercalate,
    List.intersperse, List.flatten_cons, List.flatten_nil, List.append_nil, List.append_assoc,
    List.cons_append]
  rfl

def readSize (requestID text : String) : Nat :=
  78 + guestSize requestID.toList + guestSize text.toList

variable (python : Interpreter)

theorem encodeFrame_clipboardReply_iff (text : String) :
    (∃ frame, encodeFrame python (.dict (clipboardReply (str text))) = .ok frame) ↔
      30 + guestSize text.toList ≤ maxFrameSize := by
  obtain ⟨limit, roomy⟩ := Nat.exists_eq_add_of_le'
    (Nat.le_trans (by decide : 1 ≤ 4) python.encodes)
  refine encodeFrame_iff (roomy ▸ dumps_clipboardReply python.floatRepr limit (str text)) ?_
  have start : Encodes (str "\x7b\"type\":\"clipboard\",\"text\":") 27 := ⟨_, rfl, rfl⟩
  have close : Encodes (str "\x7d") 1 := ⟨_, rfl, rfl⟩
  have sum : 30 + guestSize text.toList = 27 + (guestSize text.toList + 2 + 1) := by omega
  rw [sum]
  exact start.append ((encodes_dumpsString text).append close)

theorem encodeFrame_response_iff (requestID text : String) :
    (∃ frame, encodeFrame python
        (responseMessage (readRequest (str requestID)) (clipboardReply (str text))) = .ok frame) ↔
      readSize requestID text ≤ maxFrameSize := by
  obtain ⟨limit, roomy⟩ := Nat.exists_eq_add_of_le'
    (Nat.le_trans (by decide : 2 ≤ 4) python.encodes)
  refine encodeFrame_iff
    (roomy ▸ dumps_response python.floatRepr limit (str requestID) (str text)) ?_
  have start : Encodes (str "\x7b\"protocolVersion\":2,\"requestID\":") 33 := ⟨_, rfl, rfl⟩
  have middle :
      Encodes (str ",\"response\":\x7b\"type\":\"clipboard\",\"text\":") 39 := ⟨_, rfl, rfl⟩
  have close : Encodes (str "\x7d\x7d") 2 := ⟨_, rfl, rfl⟩
  have sum : readSize requestID text = 33 + (guestSize requestID.toList + 2 +
      (39 + (guestSize text.toList + 2 + 2))) := by
    simp only [readSize]
    omega
  rw [sum]
  exact start.append ((encodes_dumpsString requestID).append
    (middle.append ((encodes_dumpsString text).append close)))

end Guest

section Limit

variable (python : Interpreter)

/-- A text of at most 1 MiB gets through in both directions: the host encodes the envelope that
writes it, and the guest encodes the helper's reply that carries it, bare and wrapped. -/
def GetsThrough (version : Int64) (hostID : Option String) (guestID text : String) : Prop :=
  (∃ frame, encode ⟨version, hostID, .writeClipboard text⟩ = .ok frame) ∧
  (∃ frame, encodeFrame python (.dict (clipboardReply (str text))) = .ok frame) ∧
  ∃ frame, encodeFrame python
    (responseMessage (readRequest (str guestID)) (clipboardReply (str text))) = .ok frame

/-- The limit of 1 MiB is on the text and the limit of 2 MiB on its JSON, so a legal text gets
through exactly when what the escapes and the envelope add fits. -/
theorem getsThrough_iff (version : Int64) (hostID : Option String) (guestID text : String)
    (legal : text.utf8ByteSize ≤ maximumClipboardSize) :
    GetsThrough python version hostID guestID text ↔
      writeSize version hostID text ≤ maximumPayloadSize ∧
        readSize guestID text ≤ maxFrameSize := by
  rw [GetsThrough, encode_write_iff version hostID text legal,
    encodeFrame_clipboardReply_iff python text, encodeFrame_response_iff python guestID text]
  constructor
  · rintro ⟨written, -, wrapped⟩
    exact ⟨written, wrapped⟩
  · rintro ⟨written, wrapped⟩
    refine ⟨written, ?_, wrapped⟩
    simp only [readSize] at wrapped
    omega

theorem getsThrough_greeting :
    "hello".utf8ByteSize ≤ maximumClipboardSize ∧
      GetsThrough cpython currentVersion (some "1") "1" "hello" :=
  ⟨by decide +kernel,
    (getsThrough_iff cpython currentVersion (some "1") "1" "hello" (by decide +kernel)).mpr
      (by decide +kernel)⟩

def newlines (count : Nat) : String := String.ofList (List.replicate count '\n')

theorem length_utf8_replicate {c : Char} (ascii : c.val ≤ 127) (count : Nat) :
    (utf8 (List.replicate count c)).length = count := by
  induction count with
  | zero => rfl
  | succ count ih =>
    rw [List.replicate_succ, utf8_cons, List.length_append, ih, utf8EncodeChar_ascii ascii,
      Nat.add_comm]
    rfl

theorem utf8ByteSize_newlines (count : Nat) : (newlines count).utf8ByteSize = count := by
  rw [← length_utf8_toList, newlines, String.toList_ofList, length_utf8_replicate (by decide)]

theorem guestSize_newlines (count : Nat) : guestSize (newlines count).toList = 2 * count := by
  have quoted : isQuoted '\n' = true := by decide
  have control : isOtherControl '\n' = false := by decide
  rw [newlines, String.toList_ofList, guestSize, length_utf8_replicate (by decide), List.countP_replicate,
    List.countP_replicate, if_pos quoted, if_neg (by simp [control])]
  omega

theorem encode_newlines (count : Nat) (legal : count ≤ maximumClipboardSize)
    (large : maximumPayloadSize ≤ 2 * count) :
    encode ⟨currentVersion, some "1", .writeClipboard (newlines count)⟩ =
      .error .payloadTooLarge := by
  have exceeds : ¬ writeSize currentVersion (some "1") (newlines count) ≤ maximumPayloadSize := by
    simp only [writeSize, hostSize, guestSize_newlines]
    omega
  rw [encode_write _ _ _ ((utf8ByteSize_newlines count).symm ▸ legal), if_neg exceeds]

/-- 1 MiB of line breaks is a legal text that the host cannot send. -/
theorem newlines_exceed_frame :
    ∃ text : String, text.utf8ByteSize ≤ maximumClipboardSize ∧
      encode ⟨currentVersion, some "1", .writeClipboard text⟩ = .error .payloadTooLarge ∧
      ¬ GetsThrough cpython currentVersion (some "1") "1" text := by
  have legal : (newlines maximumClipboardSize).utf8ByteSize ≤ maximumClipboardSize :=
    Nat.le_of_eq (utf8ByteSize_newlines maximumClipboardSize)
  have refused := encode_newlines maximumClipboardSize (Nat.le_refl _) (by decide)
  refine ⟨newlines maximumClipboardSize, legal, refused, ?_⟩
  rintro ⟨⟨frame, sent⟩, -⟩
  rw [refused] at sent
  cases sent

end Limit

end SimpleVM.Agent
