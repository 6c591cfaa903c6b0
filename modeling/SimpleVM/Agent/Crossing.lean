import SimpleVM.Agent.Daemon
import SimpleVM.Agent.HostCodec
import SimpleVM.Agent.HostText

/-!
# Requests across the two languages

A request envelope that the host encodes is decoded by the guest to the same operation, with the
same text or dimensions and the same identifier.
-/
namespace SimpleVM.Agent

open Effects Failing Python Text
open Swift (shortEscape escape encodeString encodeInt encodeMember encodeObject encodeArray)

section Envelopes

/-- The members the host writes for a request, with what they are read as. -/
def requestMembers : GuestAgentRequest → List Member
  | .hello version =>
    [("protocolVersion", encodeInt version, .int version.toInt), stringMember "hello"]
  | .status => [stringMember "status"]
  | .shutdown => [stringMember "shutdown"]
  | .reboot => [stringMember "reboot"]
  | .mountSharedDirectory => [stringMember "mountSharedDirectory"]
  | .readClipboard => [stringMember "readClipboard"]
  | .writeClipboard text =>
    [("text", encodeString text, .string (str text)), stringMember "writeClipboard"]
  | .resizeDisplay width height =>
    [("height", encodeInt height, .int height.toInt), stringMember "resizeDisplay",
      ("width", encodeInt width, .int width.toInt)]
where
  stringMember (type : String) : Member := ("type", encodeString type, .string (str type))

def envelopeMembers (envelope : GuestAgentRequestEnvelope) : List Member :=
  [("protocolVersion", encodeInt envelope.protocolVersion, .int envelope.protocolVersion.toInt),
    ("request", encodeObject (texts (requestMembers envelope.request)),
      .dict (values (requestMembers envelope.request)))] ++
  (envelope.requestID.map fun id => ("requestID", encodeString id, Value.string (str id))).toList

theorem encodeRequest_ok {request : GuestAgentRequest} {text : List Char}
    (encoded : encodeRequest request = .ok text) :
    text = encodeObject (texts (requestMembers request)) := by
  cases request <;> simp only [encodeRequest] at encoded
  case writeClipboard =>
    split at encoded <;> cases encoded
    rfl
  case resizeDisplay =>
    split at encoded <;> cases encoded
    rfl
  all_goals
    cases encoded
    rfl

theorem encodeEnvelope_ok {envelope : GuestAgentRequestEnvelope} {text : List Char}
    (encoded : encodeEnvelope envelope = .ok text) :
    text = encodeObject (texts (envelopeMembers envelope)) := by
  unfold encodeEnvelope at encoded
  split at encoded
  · cases encoded
  · next request inner =>
    cases encoded
    rw [encodeRequest_ok inner]
    cases identifier : envelope.requestID <;> simp [texts, envelopeMembers, identifier]

theorem reads_requestMembers {hook limit : Nat} (called : hook ≤ limit)
    (request : GuestAgentRequest) :
    Reads hook (limit + 1) (encodeObject (texts (requestMembers request)))
      (.dict (values (requestMembers request))) := by
  refine reads_encodeObject called ?_ ?_ ?_
  · cases request <;> exact List.cons_ne_nil _ _
  · have strings (s : String) : Reads hook limit _ _ := reads_encodeString limit s
    have ints (n : Int64) : Reads hook limit _ _ := reads_encodeInt limit n
    cases request <;>
      simp only [requestMembers, requestMembers.stringMember, List.forall_mem_cons,
        List.not_mem_nil, false_implies, implies_true, strings, ints, and_self]
  · cases request <;> simp [requestMembers, requestMembers.stringMember]

theorem reads_envelopeMembers {hook limit : Nat} (called : hook ≤ limit)
    (envelope : GuestAgentRequestEnvelope) :
    Reads hook (limit + 2) (encodeObject (texts (envelopeMembers envelope)))
      (.dict (values (envelopeMembers envelope))) := by
  have inner := reads_requestMembers called envelope.request
  refine reads_encodeObject (Nat.le_succ_of_le called) ?_ ?_ ?_
  · simp [envelopeMembers]
  · intro m member
    simp only [envelopeMembers, List.cons_append, List.nil_append, List.mem_cons,
      Option.mem_toList, Option.map_eq_some_iff] at member
    rcases member with rfl | rfl | ⟨id, -, rfl⟩
    · exact reads_encodeInt _ _
    · exact inner
    · exact reads_encodeString _ _
  · cases identifier : envelope.requestID <;> simp [envelopeMembers, identifier]

end Envelopes

section Decoding

/-- What a request asks for on the guest, which knows no `hello` in an envelope. -/
def operationOf : GuestAgentRequest → Option Operation
  | .hello _ => none
  | .status => some .status
  | .shutdown => some .shutdown
  | .reboot => some .reboot
  | .mountSharedDirectory => some .mountSharedDirectory
  | .readClipboard => some .readClipboard
  | .writeClipboard text => some (.writeClipboard (str text))
  | .resizeDisplay width height => some (.resizeDisplay width.toInt height.toInt)

/-- The request that an envelope stands for. -/
def requestOf (envelope : GuestAgentRequestEnvelope) : Option Request :=
  match envelope.requestID, operationOf envelope.request with
  | some id, some operation =>
    if envelope.protocolVersion = 2 ∧ id ≠ "" ∧ id.utf8ByteSize ≤ 256 then
      some ⟨operation, false, some (str id)⟩
    else none
  | _, _ => none

theorem isValidDisplaySize_iff (width height : Int64) :
    isValidDisplaySize width height = true ↔
      (640 ≤ width.toInt ∧ width.toInt ≤ 16384) ∧ 480 ≤ height.toInt ∧ height.toInt ≤ 16384 := by
  have low : (640 : Int64).toInt = 640 := by decide
  have middle : (480 : Int64).toInt = 480 := by decide
  have high : (16384 : Int64).toInt = 16384 := by decide
  simp only [isValidDisplaySize, Bool.and_eq_true, decide_eq_true_eq, Int64.le_iff_toInt_le, low,
    middle, high]

/-- The guest accepts what the host can encode, `hello` apart. -/
theorem validateNewRequest_members {request : GuestAgentRequest} {text : List Char}
    (encoded : encodeRequest request = .ok text) :
    (∀ operation, operationOf request = some operation →
      validateNewRequest (.dict (values (requestMembers request))) = .ok operation) ∧
    (operationOf request = none →
      ∃ e, validateNewRequest (.dict (values (requestMembers request))) = .error e) := by
  -- The host's `hello` is not a request of this protocol; two others have a limit the host has
  -- checked, and the rest are names only.
  cases request with
  | hello version =>
    refine ⟨(by intros; contradiction), fun _ => ⟨.protocol "request type is not allowed", ?_⟩⟩
    simp [validateNewRequest, values, requestMembers, requestMembers.stringMember, get?,
      List.lookup_cons, simpleOperation?]
  | writeClipboard text =>
    refine ⟨fun operation same => ?_, (by intros; contradiction)⟩
    cases same
    simp only [encodeRequest] at encoded
    split at encoded
    · next small =>
      have bound : (utf8 text.toList).length ≤ maxClipboardSize := by
        rw [length_utf8_toList]
        exact small
      simp [validateNewRequest, validateWriteClipboard, values, requestMembers,
        requestMembers.stringMember, get?, hasKeys, List.lookup_cons, simpleOperation?, encode?_str,
        bound]
    · cases encoded
  | resizeDisplay width height =>
    refine ⟨fun operation same => ?_, (by intros; contradiction)⟩
    cases same
    simp only [encodeRequest] at encoded
    split at encoded
    · next valid =>
      have range := (isValidDisplaySize_iff width height).mp valid
      simp [validateNewRequest, validateResizeDisplay, values, requestMembers,
        requestMembers.stringMember, get?, hasKeys, List.lookup_cons, simpleOperation?, range]
    · cases encoded
  | _ =>
    refine ⟨fun operation same => ?_, (by intros; contradiction)⟩
    cases same
    simp [validateNewRequest, values, requestMembers, requestMembers.stringMember, get?, hasKeys,
      simpleOperation?]

theorem validateRequestID_str (id : String) :
    (id ≠ "" ∧ id.utf8ByteSize ≤ 256 →
      validateRequestID (some (.string (str id))) = .ok (str id)) ∧
    (¬ (id ≠ "" ∧ id.utf8ByteSize ≤ 256) →
      ∃ e, validateRequestID (some (.string (str id))) = .error e) := by
  have empty : (str id).isEmpty = true ↔ id = "" := by
    simp [str]
  simp only [validateRequestID, encode?_str, length_utf8_toList]
  by_cases blank : id = ""
  · simp [blank, str]
  · have filled : (str id).isEmpty = false := by
      cases found : (str id).isEmpty with
      | false => rfl
      | true => exact absurd (empty.mp found) blank
    by_cases long : 256 < id.utf8ByteSize
    · simp [filled, long]
    · simp only [filled, Bool.false_eq_true, if_false, if_neg long, ne_eq, blank, not_false_eq_true,
        Nat.not_lt.mp long, not_true_eq_false, implies_true, false_implies, and_self]

/-- An envelope is decoded to the request it stands for and to nothing else. -/
theorem decodeRequest_iff {envelope : GuestAgentRequestEnvelope} {text : List Char}
    (encoded : encodeRequest envelope.request = .ok text) (request : Request) :
    decodeRequest (values (envelopeMembers envelope)) = .ok request ↔
      requestOf envelope = some request := by
  obtain ⟨version, requestID, body⟩ := envelope
  cases requestID with
  | none =>
    simp [decodeRequest, envelopeMembers, values, hasKeys, requestOf]
  | some id =>
    obtain ⟨accepted, refused⟩ := validateNewRequest_members encoded
    obtain ⟨identified, unidentified⟩ := validateRequestID_str id
    have two : (2 : Int64).toInt = 2 := by decide
    -- The guest looks at the version before the identifier and the identifier before the request.
    by_cases current : version = 2
    · subst current
      have decoded : decodeRequest (values (envelopeMembers ⟨2, some id, body⟩)) =
          (validateRequestID (some (.string (str id)))).bind fun requestID =>
            (validateNewRequest (.dict (values (requestMembers body)))).bind fun operation =>
              .ok ⟨operation, false, some requestID⟩ := by
        simp [decodeRequest, envelopeMembers, values, hasKeys, get?, List.lookup_cons, two,
          Except.bind]
        cases validateRequestID (some (.string (str id))) with
        | error e => rfl
        | ok requestID =>
          cases validateNewRequest (.dict ((requestMembers body).map fun m => (str m.1, m.2.2))) <;>
            rfl
      rw [decoded]
      by_cases valid : id ≠ "" ∧ id.utf8ByteSize ≤ 256
      · rw [identified valid]
        cases asked : operationOf body with
        | none =>
          obtain ⟨e, failed⟩ := refused asked
          simp [requestOf, asked, failed, Except.bind]
        | some operation =>
          simp [requestOf, asked, accepted operation asked, valid, Except.bind]
      · obtain ⟨e, failed⟩ := unidentified valid
        rw [failed]
        cases asked : operationOf body <;> simp [requestOf, asked, valid, Except.bind]
    · have other : version.toInt ≠ 2 := fun same => current (Int64.toInt_inj.mp (same.trans two.symm))
      have decoded : decodeRequest (values (envelopeMembers ⟨version, some id, body⟩)) =
          .error (.protocol "unsupported protocol version") := by
        simp [decodeRequest, envelopeMembers, values, hasKeys, get?]
        split
        · next same => exact absurd (by simpa using same) other
        · rfl
      rw [decoded]
      cases asked : operationOf body <;> simp [requestOf, asked, current]

end Decoding

section Streams

/-- The bytes that are still to come. -/
def Arrival.bytes : Arrival → List UInt8
  | .chunk bytes => bytes
  | .failure => []

def content (stream : Stream) : List UInt8 := stream.flatMap Arrival.bytes

/-- A reader takes bytes off the front of the stream: those it returns, when it returns. -/
theorem readExactly_content (count : Nat) (stream : Stream) :
    ∃ used, content stream = used ++ content (readExactly count stream).2 ∧
      ∀ bytes, (readExactly count stream).1 = .ok bytes → used = bytes ∧ bytes.length = count := by
  -- Induction on the arrivals: a chunk is used up whole, or its front covers what is missing.
  induction stream generalizing count with
  | nil => cases count <;> exact ⟨[], by simp [readExactly, content], by simp [readExactly]⟩
  | cons arrival rest ih =>
    cases count with
    | zero => exact ⟨[], by simp [readExactly, content], by simp [readExactly]⟩
    | succ remaining =>
      cases arrival with
      | failure => exact ⟨[], by simp [readExactly, content, Arrival.bytes], by simp [readExactly]⟩
      | chunk bytes =>
        cases bytes with
        | nil => exact ⟨[], by simp [readExactly, content, Arrival.bytes], by simp [readExactly]⟩
        | cons b bytes =>
          by_cases part : remaining < bytes.length
          · refine ⟨(b :: bytes).take (remaining + 1), ?_, ?_⟩
            · simp only [readExactly, if_pos part, content, List.flatMap_cons, Arrival.bytes,
                List.take_succ_cons, List.cons_append, ← List.append_assoc, List.take_append_drop]
            · simp only [readExactly, if_pos part, Except.ok.injEq]
              rintro taken rfl
              refine ⟨rfl, ?_⟩
              rw [List.length_take, List.length_cons]
              omega
          · obtain ⟨used, taken, exact_⟩ := ih (remaining - bytes.length)
            simp only [readExactly, if_neg part]
            cases read : readExactly (remaining - bytes.length) rest with
            | mk result left =>
              rw [read] at taken exact_
              cases result with
              | error e => exact ⟨b :: bytes ++ used, by
                  simpa [content, Arrival.bytes] using taken, by simp⟩
              | ok more =>
                obtain ⟨rfl, length⟩ := exact_ more rfl
                refine ⟨b :: bytes ++ used, by simpa [content, Arrival.bytes] using taken, ?_⟩
                rintro taken' same
                cases same
                refine ⟨rfl, ?_⟩
                simp only [List.length_append, List.length_cons, length]
                omega

/-- Bytes that have arrived without a gap are read, in however many chunks they came and whatever
comes after them. -/
theorem readExactly_chunks {chunks : List (List UInt8)} (filled : ∀ chunk ∈ chunks, chunk ≠ [])
    {bytes more : List UInt8} (arrived : chunks.flatten = bytes ++ more) (after : Stream) :
    ∃ left : List (List UInt8), (∀ chunk ∈ left, chunk ≠ []) ∧ left.flatten = more ∧
      readExactly bytes.length (chunks.map .chunk ++ after) =
        (.ok bytes, left.map .chunk ++ after) := by
  -- Induction on the chunks: the bytes end inside the first chunk, or begin with all of it.
  induction chunks generalizing bytes with
  | nil =>
    obtain ⟨rfl, rfl⟩ := List.append_eq_nil_iff.mp arrived.symm
    exact ⟨[], (by intros; contradiction), rfl, by cases after <;> rfl⟩
  | cons chunk chunks ih =>
    cases bytes with
    | nil => exact ⟨chunk :: chunks, filled, arrived, rfl⟩
    | cons a bytes =>
      cases chunk with
      | nil => exact absurd rfl (filled [] List.mem_cons_self)
      | cons b rest =>
        have later : ∀ chunk ∈ chunks, chunk ≠ [] := fun chunk member =>
          filled chunk (List.mem_cons_of_mem _ member)
        simp only [List.flatten_cons, List.cons_append, List.cons.injEq] at arrived
        obtain ⟨rfl, arrived⟩ := arrived
        by_cases part : bytes.length < rest.length
        · have taken : rest.take bytes.length = bytes := by
            have front := congrArg (List.take bytes.length) arrived
            rwa [List.take_append_of_le_length (Nat.le_of_lt part), List.take_left'
              (rfl : bytes.length = bytes.length)] at front
          have dropped : rest.drop bytes.length ++ chunks.flatten = more := by
            have back := congrArg (List.drop bytes.length) arrived
            rwa [List.drop_append_of_le_length (Nat.le_of_lt part), List.drop_left'
              (rfl : bytes.length = bytes.length)] at back
          refine ⟨rest.drop bytes.length :: chunks, ?_, by simpa using dropped, ?_⟩
          · intro chunk member
            rcases List.mem_cons.mp member with rfl | member
            · simp only [ne_eq, List.drop_eq_nil_iff, Nat.not_le]
              exact part
            · exact later chunk member
          · simp [readExactly, part, taken]
        -- The first chunk is a front of the bytes, and the rest of them comes from the later
        -- chunks.
        · have whole : rest = bytes.take rest.length := by
            have front := congrArg (List.take rest.length) arrived
            rwa [List.take_left' rfl, List.take_append_of_le_length (Nat.not_lt.mp part)] at front
          have arrivedLater : chunks.flatten = bytes.drop rest.length ++ more := by
            have back := congrArg (List.drop rest.length) arrived
            rwa [List.drop_left' rfl, List.drop_append_of_le_length (Nat.not_lt.mp part)] at back
          obtain ⟨left, filledLeft, flat, read⟩ := ih later arrivedLater
          rw [List.length_drop] at read
          refine ⟨left, filledLeft, flat, ?_⟩
          have joined : rest ++ bytes.drop rest.length = bytes := by
            conv => lhs; lhs; rw [whole]
            exact List.take_append_drop _ _
          simp only [List.map_cons, List.length_cons, List.cons_append, readExactly, if_neg part, read,
            joined]

/-- A written message is a header and the UTF-8 of its text. -/
theorem encodeFrame_ok {python : Interpreter} {v : Value} {frame : List UInt8}
    (written : encodeFrame python v = .ok frame) :
    ∃ t payload, dumps python.floatRepr python.encoderLimit v = .ok t ∧ encode? t = some payload ∧
      payload.length ≤ maxFrameSize ∧ frame = packHeader payload.length ++ payload := by
  unfold encodeFrame at written
  split at written
  · cases written
  · cases written
  · next t dumped =>
    split at written
    · cases written
    · next payload encoded =>
      split at written
      · cases written
      · next fits =>
        cases written
        exact ⟨t, payload, dumped, encoded, Nat.le_of_not_lt fits, rfl⟩

theorem length_packHeader (length : Nat) : (packHeader length).length = 4 := rfl

/-- A length of 32 bits comes out of its header again. -/
theorem unpackHeader_packHeader {length : Nat} (fits : length < 4294967296) :
    unpackHeader (packHeader length) = length := by
  simp only [unpackHeader, packHeader, List.foldl_cons, List.foldl_nil, UInt8.toNat_ofNat']
  omega

/-- What the decoders of both sides make of a frame before they look into its payload. -/
theorem frame_parts (payload : List UInt8) (small : payload.length ≤ maximumPayloadSize) :
    ¬ payload.length + 4 < 4 ∧
      unpackHeader ((packHeader payload.length ++ payload).take 4) = payload.length ∧
      (packHeader payload.length ++ payload).length = payload.length + 4 ∧
      (packHeader payload.length ++ payload).drop 4 = payload := by
  have header := length_packHeader payload.length
  have size : (packHeader payload.length ++ payload).length = payload.length + 4 := by
    rw [List.length_append, header, Nat.add_comm]
  refine ⟨by omega, ?_, size, List.drop_left' header⟩
  rw [List.take_left' header]
  exact unpackHeader_packHeader (Nat.lt_of_le_of_lt small (by decide))

/-- The payload of the frame that comes next. -/
def readPayload : Reader (List UInt8) := do
  let header ← readExact 4
  let length := unpackHeader header
  if length = 0 ∨ maxFrameSize < length then raise (.protocol "invalid frame length")
  else readExact length

theorem ofExcept_run {α : Type} (result : Except PyError α) (stream : Stream) :
    ofExcept result stream = (result.mapError .raised, stream) := by
  cases result <;> rfl

theorem readFrame_eq (python : Interpreter) :
    readFrame python = (do
      let raw ← readPayload
      ofExcept (decodePayload python raw)) := by
  funext stream
  simp only [readFrame, readPayload, bind_eq]
  split
  · next header rest _ =>
    split
    · rfl
    · rfl
  · rfl

theorem readFrame_run (python : Interpreter) (stream : Stream) :
    readFrame python stream =
      match readPayload stream with
      | (.ok raw, rest) => ((decodePayload python raw).mapError .raised, rest)
      | (.error stop, rest) => (.error stop, rest) := by
  rw [readFrame_eq, bind_eq]
  simp only [ofExcept_run]
  cases readPayload stream with
  | mk result rest => cases result <;> rfl

/-- A frame is read to its payload, in however many chunks it came, and what follows it stays. -/
theorem readPayload_front {payload : List UInt8} (nonempty : payload ≠ [])
    (fits : payload.length ≤ maxFrameSize) {chunks : List (List UInt8)}
    (filled : ∀ chunk ∈ chunks, chunk ≠ []) {more : List UInt8}
    (arrived : chunks.flatten = packHeader payload.length ++ payload ++ more) (after : Stream) :
    ∃ left : List (List UInt8), (∀ chunk ∈ left, chunk ≠ []) ∧ left.flatten = more ∧
      readPayload (chunks.map .chunk ++ after) = (.ok payload, left.map .chunk ++ after) := by
  rw [List.append_assoc] at arrived
  obtain ⟨middle, middleFilled, middleFlat, header⟩ := readExactly_chunks filled arrived after
  obtain ⟨left, leftFilled, leftFlat, body⟩ := readExactly_chunks middleFilled middleFlat after
  refine ⟨left, leftFilled, leftFlat, ?_⟩
  rw [length_packHeader] at header
  have small : payload.length < 4294967296 := Nat.lt_of_le_of_lt fits (by decide)
  have valid : ¬ (payload.length = 0 ∨ maxFrameSize < payload.length) := by
    rw [not_or, List.length_eq_zero_iff]
    exact ⟨nonempty, Nat.not_lt.mpr fits⟩
  have start : readExact 4 (chunks.map .chunk ++ after) =
      (.ok (packHeader payload.length), middle.map .chunk ++ after) := header
  rw [readPayload, bind_of_ok _ start]
  simp only [unpackHeader_packHeader small, if_neg valid]
  exact body

/-- A whole frame is read to its payload, in however many chunks it came. -/
theorem readPayload_chunks {payload : List UInt8} (nonempty : payload ≠ [])
    (fits : payload.length ≤ maxFrameSize) {chunks : List (List UInt8)}
    (filled : ∀ chunk ∈ chunks, chunk ≠ [])
    (arrived : chunks.flatten = packHeader payload.length ++ payload) :
    readPayload (chunks.map .chunk) = (.ok payload, []) := by
  have whole : chunks.flatten = packHeader payload.length ++ payload ++ [] := by
    rw [arrived, List.append_nil]
  obtain ⟨left, leftFilled, leftFlat, read⟩ := readPayload_front nonempty fits filled whole []
  cases left with
  | nil => simpa using read
  | cons chunk left =>
    have empty := (List.append_eq_nil_iff.mp leftFlat).1
    exact absurd empty (leftFilled chunk List.mem_cons_self)

end Streams

section Crossing

variable {python : Interpreter}

theorem decodePayload_envelope {envelope : GuestAgentRequestEnvelope} {text : List Char}
    (encoded : encodeEnvelope envelope = .ok text) :
    decodePayload python (utf8 text) = .ok (values (envelopeMembers envelope)) := by
  obtain ⟨limit, called, roomy⟩ := python.decodes_envelope
  have loaded := loads_of_reads (reads_envelopeMembers called envelope)
  rw [← encodeEnvelope_ok encoded, ← roomy] at loaded
  simp only [decodePayload, decodeUTF8_utf8, loaded]

theorem encode_ok {envelope : GuestAgentRequestEnvelope} {frame : List UInt8}
    (encoded : encode envelope = .ok frame) :
    ∃ text body, encodeEnvelope envelope = .ok text ∧ encodeRequest envelope.request = .ok body ∧
      (utf8 text).length ≤ maximumPayloadSize ∧
      frame = packHeader (utf8 text).length ++ utf8 text := by
  unfold encode at encoded
  split at encoded
  · cases encoded
  · next text written =>
    dsimp only at encoded
    split at encoded
    · next fits =>
      cases encoded
      cases body : encodeRequest envelope.request with
      | error e => simp [encodeEnvelope, body] at written
      | ok inner => exact ⟨text, inner, written, rfl, fits, rfl⟩
    · cases encoded

theorem utf8_envelope_ne_nil {envelope : GuestAgentRequestEnvelope} {text : List Char}
    (encoded : encodeEnvelope envelope = .ok text) : utf8 text ≠ [] := by
  rw [encodeEnvelope_ok encoded, encodeObject, utf8_cons]
  exact fun empty => by cases (List.append_eq_nil_iff.mp empty).1

/-- `GuestAgentFrameCodec.encode` refuses an envelope for these reasons only. -/
def Refuses (envelope : GuestAgentRequestEnvelope) : Prop :=
  (∃ text, envelope.request = .writeClipboard text ∧ maxClipboardSize < text.utf8ByteSize) ∨
  (∃ width height, envelope.request = .resizeDisplay width height ∧
    ¬ ((640 ≤ width.toInt ∧ width.toInt ≤ 16384) ∧ 480 ≤ height.toInt ∧ height.toInt ≤ 16384)) ∨
  ∃ text, encodeEnvelope envelope = .ok text ∧ maxFrameSize < (utf8 text).length

theorem encode_error_iff (envelope : GuestAgentRequestEnvelope) :
    (∃ e, encode envelope = .error e) ↔ Refuses envelope := by
  -- The request itself is refused for two reasons; only the size of the whole is left otherwise.
  cases body : encodeRequest envelope.request with
  | error e =>
    have failed : encode envelope = .error e := by
      simp only [encode, encodeEnvelope, body]
    refine ⟨fun _ => ?_, fun _ => ⟨e, failed⟩⟩
    unfold encodeRequest at body
    split at body
    case h_7 text asked =>
      split at body
      · cases body
      · next large => exact .inl ⟨text, asked, Nat.not_le.mp large⟩
    case h_8 width height asked =>
      split at body
      · cases body
      · next invalid =>
        exact .inr (.inl ⟨width, height, asked, fun valid =>
          invalid ((isValidDisplaySize_iff width height).mpr valid)⟩)
    all_goals cases body
  | ok inner =>
    have written : ∃ text, encodeEnvelope envelope = .ok text := by
      simp only [encodeEnvelope, body, Except.ok.injEq, exists_eq']
    obtain ⟨text, written⟩ := written
    have sized : encode envelope = if (utf8 text).length ≤ maximumPayloadSize then
        .ok (packHeader (utf8 text).length ++ utf8 text) else .error .payloadTooLarge := by
      simp only [encode, written]
    rw [sized]
    constructor
    · rintro ⟨e, failed⟩
      split at failed
      · cases failed
      · next large => exact .inr (.inr ⟨text, written, Nat.not_le.mp large⟩)
    · rintro (⟨long, asked, large⟩ | ⟨width, height, asked, invalid⟩ | ⟨other, same, large⟩)
      · simp only [asked, encodeRequest] at body
        split at body
        · next small => exact absurd small (Nat.not_le.mpr large)
        · cases body
      · simp only [asked, encodeRequest] at body
        split at body
        · next valid => exact absurd ((isValidDisplaySize_iff width height).mp valid) invalid
        · cases body
      · rw [written] at same
        cases same
        exact ⟨.payloadTooLarge, if_neg (Nat.not_le.mpr large)⟩

/-- A frame of the host is received as the request it stands for. -/
theorem receive_frame {envelope : GuestAgentRequestEnvelope} {frame : List UInt8}
    {request : Request} (encoded : encode envelope = .ok frame)
    (stands : requestOf envelope = some request) {chunks : List (List UInt8)}
    (filled : ∀ chunk ∈ chunks, chunk ≠ []) (arrived : chunks.flatten = frame) :
    receive python (chunks.map .chunk) = (.ok request, []) := by
  obtain ⟨text, body, written, inner, fits, rfl⟩ := encode_ok encoded
  have payload := readPayload_chunks (utf8_envelope_ne_nil written) fits filled arrived
  have decoded := (decodeRequest_iff inner request).mpr stands
  have frameRead : readFrame python (chunks.map .chunk) =
      (.ok (values (envelopeMembers envelope)), []) := by
    rw [readFrame_eq, bind_of_ok _ payload, ofExcept_run, decodePayload_envelope written]
    rfl
  rw [receive, bind_of_ok _ frameRead, ofExcept_run, decoded]
  rfl

/-- Every version 2 envelope with a legal identifier crosses: what the host encodes, the guest
receives as the same operation under the same identifier, in however many chunks it arrives; and
the host refuses exactly what the guest would not accept. -/
theorem requests_cross (python : Interpreter) (id : String) (identified : id ≠ "")
    (short : id.utf8ByteSize ≤ 256) (request : GuestAgentRequest) (operation : Operation)
    (asked : operationOf request = some operation) :
    (∀ frame, encode ⟨2, some id, request⟩ = .ok frame →
      ∀ chunks : List (List UInt8), (∀ chunk ∈ chunks, chunk ≠ []) → chunks.flatten = frame →
        receive python (chunks.map .chunk) =
          (.ok ⟨operation, false, some (str id)⟩, [])) ∧
    ((∃ e, encode ⟨2, some id, request⟩ = .error e) ↔ Refuses ⟨2, some id, request⟩) := by
  refine ⟨fun frame encoded chunks filled arrived => ?_, encode_error_iff _⟩
  have stands : requestOf ⟨2, some id, request⟩ = some ⟨operation, false, some (str id)⟩ := by
    simp [requestOf, asked, identified, short]
  exact receive_frame encoded stands filled arrived

theorem requests_cross_status :
    ∃ frame, encode ⟨2, some "1", .status⟩ = .ok frame ∧
      receive cpython [.chunk frame] = (.ok ⟨.status, false, some (str "1")⟩, []) := by
  have encoded : ∃ frame, encode ⟨2, some "1", .status⟩ = .ok frame := ⟨_, by rfl⟩
  obtain ⟨frame, encoded⟩ := encoded
  have crosses := requests_cross cpython "1" (by decide) (by decide) .status .status rfl
  have filled : ∀ chunk ∈ [frame], chunk ≠ [] := by
    obtain ⟨text, body, -, -, -, rfl⟩ := encode_ok encoded
    intro chunk member
    rw [List.mem_singleton.mp member]
    exact List.cons_ne_nil _ _
  exact ⟨frame, encoded, crosses.1 frame encoded [frame] filled (by simp)⟩

end Crossing

end SimpleVM.Agent
