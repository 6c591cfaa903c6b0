import SimpleVM.Agent.Crossing
import SimpleVM.Agent.EnvelopeCodec
import SimpleVM.Agent.FrameLimit
import SimpleVM.Agent.GuestText

/-!
# Round trips on the host

What `JSONEncoder` writes of an envelope, `JSONDecoder` reads back as that envelope. The other way
round an envelope that was decoded can be encoded again, unless it exceeds a limit: decoding a
response checks the size of a clipboard, decoding a request checks nothing, and the JSON of what
was decoded may be longer than the JSON it was decoded from.
-/
namespace SimpleVM.Agent

open Effects Python Swift Text

section Texts

variable {limit : Nat}

/-- The members of an object, each with its text and what this is read as. -/
abbrev Written := List (String × List Char × JSON)

def Written.texts (members : Written) : List (String × List Char) :=
  members.map fun m => (m.1, m.2.1)

def Written.values (members : Written) : List (String × JSON) := members.map fun m => (m.1, m.2.2)

theorem yields_encodeObject {members : Written}
    (each : ∀ m ∈ members, Yields (Swift.scanValue limit) m.2.1 m.2.2) :
    Yields (Swift.scanValue (limit + 1)) (encodeObject members.texts) (.object members.values) := by
  let items := members.map fun m => (encodeMember (m.1, m.2.1), (m.1, m.2.2))
  have joined : List.intercalate [','] (members.texts.map encodeMember) = commas items := by
    simp only [commas, separated, items, Written.texts, List.map_map, Function.comp_def]
  have values : items.map Prod.snd = members.values := by
    simp only [items, Written.values, List.map_map, Function.comp_def]
  have read : ∀ item ∈ items,
      Yields (Swift.scanMember (Swift.scanValue limit)) item.1 item.2 := by
    intro item member
    obtain ⟨m, inside, rfl⟩ := List.mem_map.mp member
    exact yields_encodeMember (each m inside)
  refine ⟨⟨'{', _, rfl, by decide, by decide, by decide⟩, fun more _ => ?_⟩
  have contents := scanContainer_commas (.inl rfl) items read more
  simp only [encodeObject, joined, List.cons_append, List.append_assoc, List.nil_append,
    Swift.scanValue, contents, values, Except.map]

theorem yields_encodeArray {items : List (List Char × JSON)}
    (each : ∀ item ∈ items, Yields (Swift.scanValue limit) item.1 item.2) :
    Yields (Swift.scanValue (limit + 1)) (encodeArray (items.map Prod.fst))
      (.array (items.map Prod.snd)) := by
  refine ⟨⟨'[', _, rfl, by decide, by decide, by decide⟩, fun more _ => ?_⟩
  have contents := scanContainer_commas (.inr rfl) items each more
  simp only [encodeArray, List.cons_append, List.append_assoc, List.nil_append, Swift.scanValue]
  rw [commas, separated] at contents
  rw [contents]
  rfl

end Texts

section Responses

variable {limit : Nat} {members : List (String × JSON)} {key : String} {α : Type}

theorem mapM_decodeCapability (capabilities : List GuestAgentCapability) :
    (capabilities.map fun c => JSON.string c.rawValue).mapM
      (decodeRawValue GuestAgentCapability.ofRawValue) = .ok capabilities := by
  induction capabilities with
  | nil => rfl
  | cons capability capabilities ih =>
    simp only [List.map_cons, List.mapM_cons, decodeRawValue, decodeString, ofRawValue_rawValue, ih,
      bind, Except.bind, pure, Except.pure]

def mountMembers (status : GuestSharedMountStatus) : Written :=
  (status.message.map fun message =>
      ("message", encodeString message, JSON.string message)).toList ++
    [("mountPoint", encodeString status.mountPoint, .string status.mountPoint),
      ("state", encodeString status.state.rawValue, .string status.state.rawValue),
      ("tag", encodeString status.tag, .string status.tag)]

theorem encodeSharedMountStatus_eq (status : GuestSharedMountStatus) :
    encodeSharedMountStatus status = encodeObject (mountMembers status).texts := by
  cases message : status.message <;> simp [encodeSharedMountStatus, mountMembers, Written.texts, message]

theorem yields_mount (limit : Nat) (status : GuestSharedMountStatus) :
    Yields (Swift.scanValue (limit + 1)) (encodeSharedMountStatus status)
      (.object (mountMembers status).values) := by
  rw [encodeSharedMountStatus_eq]
  refine yields_encodeObject fun m member => ?_
  cases message : status.message <;>
    simp only [mountMembers, message, Option.map_none, Option.map_some, Option.toList_none,
      Option.toList_some, List.nil_append, List.cons_append, List.mem_cons, List.not_mem_nil,
      or_false] at member
  · rcases member with rfl | rfl | rfl <;> exact yields_encodeString limit _
  · rcases member with rfl | rfl | rfl | rfl <;> exact yields_encodeString limit _

theorem ofLabel_rawValue (state : GuestSharedMountState) :
    GuestSharedMountState.ofLabel state.rawValue = some state := by
  cases state <;> rfl

theorem decodeSharedMountStatus_mount (status : GuestSharedMountStatus) :
    decodeSharedMountStatus (.object (mountMembers status).values) = .ok status := by
  obtain ⟨state, tag, mountPoint, message⟩ := status
  have known := ofLabel_rawValue state
  cases message <;>
    simp [decodeSharedMountStatus, mountMembers, Written.values, container, decode, decodeIfPresent,
      List.lookup_cons, decodeString, decodeRawValue, known, bind, Except.bind, pure, Except.pure,
      Except.map]

def statusMembers (status : GuestAgentStatus) : Written :=
  [("agentVersion", encodeString status.agentVersion, .string status.agentVersion),
    ("capabilities", encodeArray ((sortedCapabilities status.capabilities).map fun capability =>
        encodeString capability.rawValue),
      .array ((sortedCapabilities status.capabilities).map fun c => .string c.rawValue)),
    ("desktopEnvironment", encodeString status.desktopEnvironment.rawValue,
      .string status.desktopEnvironment.rawValue),
    ("distroID", encodeString status.distroID, .string status.distroID),
    ("distroVersion", encodeString status.distroVersion, .string status.distroVersion),
    ("hostname", encodeString status.hostname, .string status.hostname),
    ("ipAddresses", encodeArray (status.ipAddresses.map encodeString),
      .array (status.ipAddresses.map .string)),
    ("operatingSystem", encodeString status.operatingSystem, .string status.operatingSystem),
    ("protocolVersion", encodeInt status.protocolVersion,
      .number (encodeInt status.protocolVersion)),
    ("sessionType", encodeString status.sessionType.rawValue, .string status.sessionType.rawValue),
    ("sharedMountStatus", encodeSharedMountStatus status.sharedMountStatus,
      .object (mountMembers status.sharedMountStatus).values)]

theorem yields_strings {ι : Type} (limit : Nat) (items : List ι) (f : ι → String) :
    Yields (Swift.scanValue (limit + 1)) (encodeArray (items.map fun item => encodeString (f item)))
      (.array (items.map fun item => .string (f item))) := by
  let written := items.map fun item => (encodeString (f item), JSON.string (f item))
  have each : ∀ item ∈ written, Yields (Swift.scanValue limit) item.1 item.2 := by
    intro item member
    obtain ⟨i, -, rfl⟩ := List.mem_map.mp member
    exact yields_encodeString limit (f i)
  have read := yields_encodeArray each
  simpa only [written, List.map_map, Function.comp_def] using read

theorem yields_status (limit : Nat) (status : GuestAgentStatus) :
    Yields (Swift.scanValue (limit + 2)) (encodeStatus status)
      (.object (statusMembers status).values) := by
  have written : encodeStatus status = encodeObject (statusMembers status).texts := rfl
  rw [written]
  refine yields_encodeObject fun m member => ?_
  simp only [statusMembers, List.mem_cons, List.not_mem_nil, or_false] at member
  have label := yields_encodeString (limit + 1)
  rcases member with rfl | rfl | rfl | rfl | rfl | rfl | rfl | rfl | rfl | rfl | rfl
  · exact label _
  · exact yields_strings limit _ _
  · exact label _
  · exact label _
  · exact label _
  · exact label _
  · exact yields_strings limit _ _
  · exact label _
  · exact yields_encodeInt (limit + 1) _
  · exact label _
  · exact yields_mount limit _

theorem ofRawValue_desktop (desktop : GuestDesktopEnvironment) :
    GuestDesktopEnvironment.ofRawValue desktop.rawValue = some desktop := by
  cases desktop <;> rfl

theorem ofRawValue_session (kind : GuestSessionType) :
    GuestSessionType.ofRawValue kind.rawValue = some kind := by
  cases kind <;> rfl

/-- The status as it comes back, its capabilities in order. -/
def GuestAgentStatus.sorted (status : GuestAgentStatus) : GuestAgentStatus :=
  { status with capabilities := (sortedCapabilities status.capabilities).eraseDups }

theorem decodeStatus_status (foundation : Foundation) (status : GuestAgentStatus) :
    decodeStatus foundation (.object (statusMembers status).values) = .ok status.sorted := by
  have capabilities := mapM_decodeCapability (sortedCapabilities status.capabilities)
  have addresses := mapM_decodeString status.ipAddresses
  have mount : decodeSharedMountStatus (.object ((mountMembers status.sharedMountStatus).map
      fun m => (m.1, m.2.2))) = .ok status.sharedMountStatus := decodeSharedMountStatus_mount _
  have version := decodeInt_encodeInt foundation status.protocolVersion
  simp [decodeStatus, statusMembers, Written.values, container, decode, decodeIfPresent,
    List.lookup_cons, decodeString, decodeRawValue, decodeArray, bind, Except.bind, pure, Except.pure,
    Except.map, version, ofRawValue_desktop, ofRawValue_session, capabilities, addresses, mount,
    GuestAgentStatus.sorted, -List.mapM_map]

def responseMembers : GuestAgentResponse → Written
  | .hello version =>
    [("protocolVersion", encodeInt version, .number (encodeInt version)),
      ("type", encodeString "hello", .string "hello")]
  | .status status =>
    [("status", encodeStatus status, .object (statusMembers status).values),
      ("type", encodeString "status", .string "status")]
  | .accepted => [("type", encodeString "accepted", .string "accepted")]
  | .clipboard text =>
    [("text", encodeString text, .string text),
      ("type", encodeString "clipboard", .string "clipboard")]
  | .failure failure =>
    [("code", encodeString failure.code, .string failure.code),
      ("message", encodeString failure.message, .string failure.message),
      ("type", encodeString "failure", .string "failure")]

theorem yields_response (limit : Nat) (response : GuestAgentResponse) :
    Yields (Swift.scanValue (limit + 3)) (encodeObject (responseMembers response).texts)
      (.object (responseMembers response).values) := by
  refine yields_encodeObject fun m member => ?_
  have label := yields_encodeString (limit + 2)
  cases response <;> simp only [responseMembers, List.mem_cons, List.not_mem_nil, or_false] at member
  · rcases member with rfl | rfl
    · exact yields_encodeInt (limit + 2) _
    · exact label _
  · rcases member with rfl | rfl
    · exact yields_status limit _
    · exact label _
  · rw [member]
    exact label _
  · rcases member with rfl | rfl <;> exact label _
  · rcases member with rfl | rfl | rfl <;> exact label _

/-- The limit on what a response holds, which both directions check. -/
def GuestAgentResponse.Legal : GuestAgentResponse → Prop
  | .clipboard text => text.utf8ByteSize ≤ maximumClipboardSize
  | _ => True

theorem encodeResponse_iff {response : GuestAgentResponse} {text : List Char} :
    encodeResponse response = .ok text ↔
      response.Legal ∧ encodeObject (responseMembers response).texts = text := by
  cases response with
  | clipboard content =>
    by_cases small : content.utf8ByteSize ≤ maximumClipboardSize
    · simp [encodeResponse, GuestAgentResponse.Legal, responseMembers, Written.texts, small]
    · simp [encodeResponse, GuestAgentResponse.Legal, small]
  | _ => simp [encodeResponse, GuestAgentResponse.Legal, responseMembers, Written.texts]

def GuestAgentResponse.sorted : GuestAgentResponse → GuestAgentResponse
  | .status reported => .status reported.sorted
  | response => response

theorem decodeResponse_response (foundation : Foundation) {response : GuestAgentResponse}
    (legal : response.Legal) :
    decodeResponse foundation (.object (responseMembers response).values) = .ok response.sorted := by
  have version (n : Int64) := decodeInt_encodeInt foundation n
  cases response with
  | hello n =>
    simp [decodeResponse, responseMembers, Written.values, container, decodeIfPresent, decode,
      List.lookup_cons, decodeRawValue, decodeString, ResponseType.ofRawValue, decodeTyped, attempt,
      mapError_ok, Except.map, bind, Except.bind, pure, Except.pure, version,
      GuestAgentResponse.sorted]
  | status status =>
    have inner : decodeStatus foundation (.object ((statusMembers status).map fun m => (m.1, m.2.2))) =
      .ok status.sorted := decodeStatus_status foundation status
    simp [decodeResponse, responseMembers, Written.values, container, decodeIfPresent, decode,
      List.lookup_cons, decodeRawValue, decodeString, ResponseType.ofRawValue, decodeTyped, attempt,
      mapError_ok, Except.map, bind, Except.bind, pure, Except.pure, contains, inner,
      GuestAgentResponse.sorted]
  | accepted =>
    simp [decodeResponse, responseMembers, Written.values, container, decodeIfPresent, decodeRawValue, decodeString, ResponseType.ofRawValue, decodeTyped, attempt,
      mapError_ok, Except.map, bind, Except.bind, pure, Except.pure, GuestAgentResponse.sorted]
  | clipboard text =>
    have small : text.utf8ByteSize ≤ maximumClipboardSize := legal
    simp [decodeResponse, responseMembers, Written.values, container, decodeIfPresent, decode,
      List.lookup_cons, decodeRawValue, decodeString, ResponseType.ofRawValue, decodeTyped, attempt,
      mapError_ok, Except.map, bind, Except.bind, pure, Except.pure, decodeClipboard, small,
      GuestAgentResponse.sorted]
  | failure failure =>
    simp [decodeResponse, responseMembers, Written.values, container, decodeIfPresent, decode,
      List.lookup_cons, decodeRawValue, decodeString, ResponseType.ofRawValue, decodeTyped, attempt,
      mapError_ok, Except.map, bind, Except.bind, pure, Except.pure, decodeFailure,
      GuestAgentResponse.sorted]

/-- The members of an envelope, around a body under its key. -/
def responseEnvelopeMembers (envelope : GuestAgentResponseEnvelope) : Written :=
  [("protocolVersion", encodeInt envelope.protocolVersion,
      .number (encodeInt envelope.protocolVersion))] ++
    (envelope.requestID.map fun id => ("requestID", encodeString id, JSON.string id)).toList ++
    [("response", encodeObject (responseMembers envelope.response).texts,
      .object (responseMembers envelope.response).values)]

theorem yields_responseEnvelope (limit : Nat) (envelope : GuestAgentResponseEnvelope) :
    Yields (Swift.scanValue (limit + 4)) (encodeObject (responseEnvelopeMembers envelope).texts)
      (.object (responseEnvelopeMembers envelope).values) := by
  refine yields_encodeObject fun m member => ?_
  have body := yields_response limit envelope.response
  have version := yields_encodeInt (limit + 3) envelope.protocolVersion
  cases id : envelope.requestID <;>
    simp only [responseEnvelopeMembers, id, Option.map_none, Option.map_some, Option.toList_none,
      Option.toList_some, List.append_nil, List.nil_append, List.cons_append, List.mem_cons,
      List.not_mem_nil, or_false] at member
  · rcases member with rfl | rfl
    · exact version
    · exact body
  · rcases member with rfl | rfl | rfl
    · exact version
    · exact yields_encodeString (limit + 3) _
    · exact body

theorem encodeResponseEnvelope_iff {envelope : GuestAgentResponseEnvelope} {text : List Char} :
    encodeResponseEnvelope envelope = .ok text ↔
      envelope.response.Legal ∧ encodeObject (responseEnvelopeMembers envelope).texts = text := by
  obtain ⟨version, requestID, response⟩ := envelope
  cases inner : encodeResponse response with
  | error e =>
    have illegal : ¬ response.Legal := by
      intro legal
      rw [encodeResponse_iff.mpr ⟨legal, rfl⟩] at inner
      cases inner
    simp [encodeResponseEnvelope, inner, illegal]
  | ok body =>
    obtain ⟨legal, rfl⟩ := encodeResponse_iff.mp inner
    cases requestID <;>
      simp [encodeResponseEnvelope, inner, legal, responseEnvelopeMembers, Written.texts]

theorem decodeResponseEnvelope_members (foundation : Foundation)
    {envelope : GuestAgentResponseEnvelope} (legal : envelope.response.Legal) :
    decodeResponseEnvelope foundation (.object (responseEnvelopeMembers envelope).values) =
      .ok { envelope with response := envelope.response.sorted } := by
  obtain ⟨version, requestID, response⟩ := envelope
  have number := decodeInt_encodeInt foundation version
  have body : decodeResponse foundation (.object ((responseMembers response).map
      fun m => (m.1, m.2.2))) = .ok response.sorted := decodeResponse_response foundation legal
  cases requestID <;>
    simp [decodeResponseEnvelope, responseEnvelopeMembers, Written.values, container, contains,
      decode, decodeIfPresent, List.lookup_cons, number, decodeString, attempt, mapError_ok,
      Except.map, bind, Except.bind, pure, Except.pure, body]

end Responses

section Requests

/-- The members of a request, as the host reads them. -/
def hostRequestMembers : GuestAgentRequest → Written
  | .hello version =>
    [("protocolVersion", encodeInt version, .number (encodeInt version)),
      ("type", encodeString "hello", .string "hello")]
  | .status => [("type", encodeString "status", .string "status")]
  | .shutdown => [("type", encodeString "shutdown", .string "shutdown")]
  | .reboot => [("type", encodeString "reboot", .string "reboot")]
  | .mountSharedDirectory =>
    [("type", encodeString "mountSharedDirectory", .string "mountSharedDirectory")]
  | .readClipboard => [("type", encodeString "readClipboard", .string "readClipboard")]
  | .writeClipboard text =>
    [("text", encodeString text, .string text),
      ("type", encodeString "writeClipboard", .string "writeClipboard")]
  | .resizeDisplay width height =>
    [("height", encodeInt height, .number (encodeInt height)),
      ("type", encodeString "resizeDisplay", .string "resizeDisplay"),
      ("width", encodeInt width, .number (encodeInt width))]

theorem yields_request (limit : Nat) (request : GuestAgentRequest) :
    Yields (Swift.scanValue (limit + 1)) (encodeObject (hostRequestMembers request).texts)
      (.object (hostRequestMembers request).values) := by
  refine yields_encodeObject fun m member => ?_
  have label := yields_encodeString limit
  have number := yields_encodeInt limit
  cases request <;>
    simp only [hostRequestMembers, List.mem_cons, List.not_mem_nil, or_false] at member
  · rcases member with rfl | rfl
    · exact number _
    · exact label _
  · exact member ▸ label _
  · exact member ▸ label _
  · exact member ▸ label _
  · exact member ▸ label _
  · exact member ▸ label _
  · rcases member with rfl | rfl <;> exact label _
  · rcases member with rfl | rfl | rfl
    · exact number _
    · exact label _
    · exact number _

/-- The limits on what a request holds, which only the encoder checks. -/
def GuestAgentRequest.Legal : GuestAgentRequest → Prop
  | .writeClipboard text => text.utf8ByteSize ≤ maximumClipboardSize
  | .resizeDisplay width height => isValidDisplaySize width height = true
  | _ => True

theorem encodeRequest_iff {request : GuestAgentRequest} {text : List Char} :
    encodeRequest request = .ok text ↔
      request.Legal ∧ encodeObject (hostRequestMembers request).texts = text := by
  cases request with
  | writeClipboard content =>
    by_cases small : content.utf8ByteSize ≤ maximumClipboardSize
    · simp [encodeRequest, GuestAgentRequest.Legal, hostRequestMembers, Written.texts, small]
    · simp [encodeRequest, GuestAgentRequest.Legal, small]
  | resizeDisplay width height =>
    by_cases valid : isValidDisplaySize width height = true
    · simp [encodeRequest, GuestAgentRequest.Legal, hostRequestMembers, Written.texts, valid]
    · simp [encodeRequest, GuestAgentRequest.Legal, valid]
  | _ => simp [encodeRequest, GuestAgentRequest.Legal, hostRequestMembers, Written.texts]

/-- Whatever it holds, a request is decoded from its members. -/
theorem decodeAgentRequest_request (foundation : Foundation) (request : GuestAgentRequest) :
    decodeAgentRequest foundation (.object (hostRequestMembers request).values) = .ok request := by
  have number (n : Int64) := decodeInt_encodeInt foundation n
  cases request <;>
    simp [decodeAgentRequest, hostRequestMembers, Written.values, container, decodeIfPresent, decode,
      List.lookup_cons, decodeRawValue, decodeString, RequestType.ofRawValue, decodeTypedRequest,
      Except.map, bind, Except.bind, pure, Except.pure, number]

def hostEnvelopeMembers (envelope : GuestAgentRequestEnvelope) : Written :=
  [("protocolVersion", encodeInt envelope.protocolVersion,
      .number (encodeInt envelope.protocolVersion)),
    ("request", encodeObject (hostRequestMembers envelope.request).texts,
      .object (hostRequestMembers envelope.request).values)] ++
    (envelope.requestID.map fun id => ("requestID", encodeString id, JSON.string id)).toList

theorem yields_requestEnvelope (limit : Nat) (envelope : GuestAgentRequestEnvelope) :
    Yields (Swift.scanValue (limit + 2)) (encodeObject (hostEnvelopeMembers envelope).texts)
      (.object (hostEnvelopeMembers envelope).values) := by
  refine yields_encodeObject fun m member => ?_
  have body := yields_request limit envelope.request
  have version := yields_encodeInt (limit + 1) envelope.protocolVersion
  cases id : envelope.requestID <;>
    simp only [hostEnvelopeMembers, id, Option.map_none, Option.map_some, Option.toList_none,
      Option.toList_some, List.append_nil, List.cons_append, List.nil_append, List.mem_cons,
      List.not_mem_nil, or_false] at member
  · rcases member with rfl | rfl
    · exact version
    · exact body
  · rcases member with rfl | rfl | rfl
    · exact version
    · exact body
    · exact yields_encodeString (limit + 1) _

theorem encodeEnvelope_iff {envelope : GuestAgentRequestEnvelope} {text : List Char} :
    encodeEnvelope envelope = .ok text ↔
      envelope.request.Legal ∧ encodeObject (hostEnvelopeMembers envelope).texts = text := by
  obtain ⟨version, requestID, request⟩ := envelope
  cases inner : encodeRequest request with
  | error e =>
    have illegal : ¬ request.Legal := by
      intro legal
      rw [encodeRequest_iff.mpr ⟨legal, rfl⟩] at inner
      cases inner
    simp [encodeEnvelope, inner, illegal]
  | ok body =>
    obtain ⟨legal, rfl⟩ := encodeRequest_iff.mp inner
    cases requestID <;> simp [encodeEnvelope, inner, legal, hostEnvelopeMembers, Written.texts]

theorem decodeRequestEnvelope_members (foundation : Foundation)
    (envelope : GuestAgentRequestEnvelope) :
    decodeRequestEnvelope foundation (.object (hostEnvelopeMembers envelope).values) =
      .ok envelope := by
  obtain ⟨version, requestID, request⟩ := envelope
  have number := decodeInt_encodeInt foundation version
  have body : decodeAgentRequest foundation (.object ((hostRequestMembers request).map
      fun m => (m.1, m.2.2))) = .ok request := decodeAgentRequest_request foundation request
  cases requestID <;>
    simp [decodeRequestEnvelope, hostEnvelopeMembers, Written.values, container, contains, decode,
      decodeIfPresent, List.lookup_cons, number, decodeString, Except.map, bind, Except.bind, pure,
      Except.pure, body]

end Requests

section Sizes

def sizeString (s : String) : Nat := hostSize s.toList + 2

def sizeInt (n : Int64) : Nat :=
  (if n.toInt < 0 then 1 else 0) + (Nat.toDigits 10 n.toInt.natAbs).length

def total : List Nat → Nat
  | [] => 0
  | n :: rest => n + total rest

/-- Brackets, items and the commas between them. -/
def sizeArray (items : List Nat) : Nat := 2 + total items + (items.length - 1)

def sizeObject (members : List (String × Nat)) : Nat :=
  sizeArray (members.map fun m => sizeString m.1 + 1 + m.2)

theorem length_intercalate (items : List (List Char)) :
    (utf8 (List.intercalate [','] items)).length =
      total (items.map fun item => (utf8 item).length) + (items.length - 1) := by
  have comma : (String.utf8EncodeChar ',').length = 1 := by decide
  induction items with
  | nil => rfl
  | cons item items ih =>
    cases items with
    | nil => simp [total]
    | cons next items =>
      rw [List.intercalate_cons_cons, utf8_append, utf8_append, List.length_append,
        List.length_append, ih, utf8_cons, utf8_nil, List.append_nil, comma]
      simp only [List.map_cons, total, List.length_cons]
      omega

theorem length_encodeArray (items : List (List Char)) :
    (utf8 (encodeArray items)).length = sizeArray (items.map fun item => (utf8 item).length) := by
  have marks : (String.utf8EncodeChar '[').length = 1 ∧ (String.utf8EncodeChar ']').length = 1 := by
    decide
  simp only [encodeArray, sizeArray, utf8_cons, utf8_append, utf8_nil, List.append_nil,
    List.length_append, length_intercalate, List.length_map, marks.1, marks.2]
  omega

theorem length_encodeObject (members : List (String × List Char)) :
    (utf8 (encodeObject members)).length =
      sizeObject (members.map fun m => (m.1, (utf8 m.2).length)) := by
  have marks : (String.utf8EncodeChar '{').length = 1 ∧ (String.utf8EncodeChar '}').length = 1 ∧
      (String.utf8EncodeChar ':').length = 1 := by decide
  have member (m : String × List Char) :
      (utf8 (encodeMember m)).length = sizeString m.1 + 1 + (utf8 m.2).length := by
    simp only [encodeMember, utf8_append, utf8_cons, List.length_append, length_utf8_encodeString,
      sizeString, marks.2.2]
    omega
  simp only [encodeObject, sizeObject, sizeArray, utf8_cons, utf8_append, utf8_nil, List.append_nil,
    List.length_append, length_intercalate, List.length_map, List.map_map, Function.comp_def, member,
    marks.1, marks.2.1]
  omega

/-- The bytes of the JSON of a request. -/
def sizeRequest : GuestAgentRequest → Nat
  | .hello version => sizeObject [("protocolVersion", sizeInt version), ("type", sizeString "hello")]
  | .status => sizeObject [("type", sizeString "status")]
  | .shutdown => sizeObject [("type", sizeString "shutdown")]
  | .reboot => sizeObject [("type", sizeString "reboot")]
  | .mountSharedDirectory => sizeObject [("type", sizeString "mountSharedDirectory")]
  | .readClipboard => sizeObject [("type", sizeString "readClipboard")]
  | .writeClipboard text =>
    sizeObject [("text", sizeString text), ("type", sizeString "writeClipboard")]
  | .resizeDisplay width height =>
    sizeObject [("height", sizeInt height), ("type", sizeString "resizeDisplay"),
      ("width", sizeInt width)]

def sizeRequestEnvelope (envelope : GuestAgentRequestEnvelope) : Nat :=
  sizeObject ([("protocolVersion", sizeInt envelope.protocolVersion),
      ("request", sizeRequest envelope.request)] ++
    (envelope.requestID.map fun id => ("requestID", sizeString id)).toList)

theorem length_requestEnvelope (envelope : GuestAgentRequestEnvelope) :
    (utf8 (encodeObject (hostEnvelopeMembers envelope).texts)).length =
      sizeRequestEnvelope envelope := by
  have body : (utf8 (encodeObject (hostRequestMembers envelope.request).texts)).length =
      sizeRequest envelope.request := by
    rw [length_encodeObject]
    cases envelope.request <;>
      simp [hostRequestMembers, Written.texts, sizeRequest, sizeString, sizeInt,
        length_utf8_encodeString, length_utf8_encodeInt]
  rw [length_encodeObject, sizeRequestEnvelope, ← body]
  obtain ⟨version, requestID, request⟩ := envelope
  cases requestID <;>
    simp [hostEnvelopeMembers, Written.texts, sizeString, sizeInt, length_utf8_encodeString,
      length_utf8_encodeInt]

def sizeSharedMountStatus (status : GuestSharedMountStatus) : Nat :=
  sizeObject ((status.message.map fun message => ("message", sizeString message)).toList ++
    [("mountPoint", sizeString status.mountPoint), ("state", sizeString status.state.rawValue),
      ("tag", sizeString status.tag)])

def sizeStatus (status : GuestAgentStatus) : Nat :=
  sizeObject [("agentVersion", sizeString status.agentVersion),
    ("capabilities", sizeArray ((sortedCapabilities status.capabilities).map fun capability =>
      sizeString capability.rawValue)),
    ("desktopEnvironment", sizeString status.desktopEnvironment.rawValue),
    ("distroID", sizeString status.distroID), ("distroVersion", sizeString status.distroVersion),
    ("hostname", sizeString status.hostname),
    ("ipAddresses", sizeArray (status.ipAddresses.map sizeString)),
    ("operatingSystem", sizeString status.operatingSystem),
    ("protocolVersion", sizeInt status.protocolVersion),
    ("sessionType", sizeString status.sessionType.rawValue),
    ("sharedMountStatus", sizeSharedMountStatus status.sharedMountStatus)]

/-- The bytes of the JSON of a response. -/
def sizeResponse : GuestAgentResponse → Nat
  | .hello version => sizeObject [("protocolVersion", sizeInt version), ("type", sizeString "hello")]
  | .status reported => sizeObject [("status", sizeStatus reported), ("type", sizeString "status")]
  | .accepted => sizeObject [("type", sizeString "accepted")]
  | .clipboard text => sizeObject [("text", sizeString text), ("type", sizeString "clipboard")]
  | .failure failure =>
    sizeObject [("code", sizeString failure.code), ("message", sizeString failure.message),
      ("type", sizeString "failure")]

def sizeResponseEnvelope (envelope : GuestAgentResponseEnvelope) : Nat :=
  sizeObject ([("protocolVersion", sizeInt envelope.protocolVersion)] ++
    (envelope.requestID.map fun id => ("requestID", sizeString id)).toList ++
    [("response", sizeResponse envelope.response)])

theorem length_encodeString (text : String) :
    (utf8 (encodeString text)).length = sizeString text := length_utf8_encodeString text

theorem length_encodeInt (n : Int64) : (utf8 (encodeInt n)).length = sizeInt n :=
  length_utf8_encodeInt n

theorem length_encodeStatus (status : GuestAgentStatus) :
    (utf8 (encodeStatus status)).length = sizeStatus status := by
  have mount : (utf8 (encodeSharedMountStatus status.sharedMountStatus)).length =
      sizeSharedMountStatus status.sharedMountStatus := by
    rw [encodeSharedMountStatus, length_encodeObject, sizeSharedMountStatus]
    cases status.sharedMountStatus.message <;> simp [length_encodeString]
  rw [encodeStatus, length_encodeObject, sizeStatus]
  simp [length_encodeArray, mount, length_encodeString, length_encodeInt, Function.comp_def]

theorem length_responseEnvelope (envelope : GuestAgentResponseEnvelope) :
    (utf8 (encodeObject (responseEnvelopeMembers envelope).texts)).length =
      sizeResponseEnvelope envelope := by
  have body : (utf8 (encodeObject (responseMembers envelope.response).texts)).length =
      sizeResponse envelope.response := by
    rw [length_encodeObject]
    cases envelope.response <;>
      simp [responseMembers, Written.texts, sizeResponse, length_encodeStatus, length_encodeString,
        length_encodeInt]
  rw [length_encodeObject, sizeResponseEnvelope, ← body]
  obtain ⟨version, requestID, response⟩ := envelope
  cases requestID <;>
    simp [responseEnvelopeMembers, Written.texts, length_encodeString, length_encodeInt]

end Sizes

section Frames

variable (foundation : Foundation)

/-- `encode` refuses what is not legal and what does not fit a frame, nothing else. -/
theorem encode_frame_iff {envelope : GuestAgentRequestEnvelope} {frame : List UInt8} :
    encode envelope = .ok frame ↔
      (envelope.request.Legal ∧ sizeRequestEnvelope envelope ≤ maximumPayloadSize) ∧
        frame = packHeader (sizeRequestEnvelope envelope) ++
          utf8 (encodeObject (hostEnvelopeMembers envelope).texts) := by
  have size := length_requestEnvelope envelope
  constructor
  · intro encoded
    obtain ⟨text, -, written, -, fits, rfl⟩ := encode_ok encoded
    obtain ⟨legal, rfl⟩ := encodeEnvelope_iff.mp written
    rw [size] at fits ⊢
    exact ⟨⟨legal, fits⟩, rfl⟩
  · rintro ⟨⟨legal, fits⟩, rfl⟩
    have written := encodeEnvelope_iff.mpr ⟨legal, rfl⟩
    simp only [encode, written, size, if_pos fits]

theorem encodeResponseFrame_iff {envelope : GuestAgentResponseEnvelope} {frame : List UInt8} :
    encodeResponseFrame envelope = .ok frame ↔
      (envelope.response.Legal ∧ sizeResponseEnvelope envelope ≤ maximumPayloadSize) ∧
        frame = packHeader (sizeResponseEnvelope envelope) ++
          utf8 (encodeObject (responseEnvelopeMembers envelope).texts) := by
  have size := length_responseEnvelope envelope
  cases written : encodeResponseEnvelope envelope with
  | error e =>
    have illegal : ¬ envelope.response.Legal := by
      intro legal
      rw [encodeResponseEnvelope_iff.mpr ⟨legal, rfl⟩] at written
      cases written
    simp [encodeResponseFrame, written, illegal]
  | ok text =>
    obtain ⟨legal, rfl⟩ := encodeResponseEnvelope_iff.mp written
    by_cases fits : sizeResponseEnvelope envelope ≤ maximumPayloadSize
    · simp [encodeResponseFrame, written, size, legal, fits, eq_comm]
    · simp [encodeResponseFrame, written, size, fits]

/-- The payload of a frame is decoded as the value its text is read as. -/
theorem decodeJSON_of_yields {α : Type} {text : List Char} {v : JSON}
    (yields : Yields (Swift.scanValue foundation.nesting) text v) (value : JSON → Except Thrown α) :
    decodeJSON foundation value (utf8 text) = value v := by
  simp only [decodeJSON, decodeUTF8_utf8, parse_of_yields foundation yields]
  rfl

theorem decodeRequestFrame_frame (envelope : GuestAgentRequestEnvelope)
    (fits : sizeRequestEnvelope envelope ≤ maximumPayloadSize) :
    decodeRequestFrame foundation (packHeader (sizeRequestEnvelope envelope) ++
      utf8 (encodeObject (hostEnvelopeMembers envelope).texts)) = .ok envelope := by
  obtain ⟨limit, enough⟩ := Nat.exists_eq_add_of_le'
    (Nat.le_trans (by decide : 2 ≤ 4) foundation.parses)
  have yields := yields_requestEnvelope limit envelope
  rw [← enough] at yields
  rw [← length_requestEnvelope envelope] at fits ⊢
  obtain ⟨long, announced, size, back⟩ := frame_parts _ fits
  have within := Nat.not_lt.mpr fits
  have read : decodeJSON foundation (fun v => attempt (decodeRequestEnvelope foundation v))
      (utf8 (encodeObject (hostEnvelopeMembers envelope).texts)) = .ok envelope := by
    rw [decodeJSON_of_yields foundation yields, decodeRequestEnvelope_members]
    rfl
  simp only [decodeRequestFrame, if_neg long, announced, if_neg within, size, back, ne_eq,
    not_true_eq_false, if_false, read]

theorem decodeFrame_frame {envelope : GuestAgentResponseEnvelope} (legal : envelope.response.Legal)
    (fits : sizeResponseEnvelope envelope ≤ maximumPayloadSize) :
    decodeFrame foundation (packHeader (sizeResponseEnvelope envelope) ++
        utf8 (encodeObject (responseEnvelopeMembers envelope).texts)) =
      .ok { envelope with response := envelope.response.sorted } := by
  obtain ⟨limit, enough⟩ := Nat.exists_eq_add_of_le' foundation.parses
  have yields := yields_responseEnvelope limit envelope
  rw [← enough] at yields
  rw [← length_responseEnvelope envelope] at fits ⊢
  obtain ⟨long, announced, size, back⟩ := frame_parts _ fits
  have within := Nat.not_lt.mpr fits
  have read := decodeJSON_of_yields foundation yields (decodeResponseEnvelope foundation)
  rw [decodeResponseEnvelope_members foundation legal] at read
  simp only [decodeFrame, if_neg long, announced, if_neg within, size, back, ne_eq,
    not_true_eq_false, if_false, read]

/-- A clipboard is checked wherever a response is decoded. -/
theorem legal_of_decodeResponse {v : JSON} {response : GuestAgentResponse}
    (decoded : decodeResponse foundation v = .ok response) : response.Legal := by
  -- Only a clipboard text can be too long, and only a typed response decodes to one.
  have untyped {members : List (String × JSON)} {response : GuestAgentResponse}
      (decoded : decodeUntyped foundation members = .ok response) : response.Legal := by
    obtain ⟨hello, -, decoded⟩ := bind_ok_iff.mp decoded
    cases hello with
    | some version =>
      cases decoded
      trivial
    | none =>
      dsimp only at decoded
      split at decoded
      · obtain ⟨reported, -, decoded⟩ := bind_ok_iff.mp decoded
        cases decoded
        trivial
      · split at decoded
        · cases decoded
          trivial
        · obtain ⟨failure, -, decoded⟩ := bind_ok_iff.mp decoded
          cases failure with
          | some message =>
            cases decoded
            trivial
          | none => cases decoded
  have attempted {α : Type} {result : Except DecodingError α} {a : α}
      (done : attempt result = .ok a) : result = .ok a := by
    cases result with
    | error e => cases done
    | ok b => exact congrArg Except.ok (Except.ok.inj done)
  obtain ⟨members, -, decoded⟩ := bind_ok_iff.mp decoded
  obtain ⟨type, -, decoded⟩ := bind_ok_iff.mp decoded
  cases type with
  | none => exact untyped (attempted decoded)
  | some type =>
    cases type with
    | hello =>
      obtain ⟨version, -, decoded⟩ := bind_ok_iff.mp (attempted decoded)
      cases decoded
      trivial
    | status =>
      have decoded := attempted decoded
      split at decoded
      · obtain ⟨reported, -, decoded⟩ := bind_ok_iff.mp decoded
        cases decoded
        trivial
      · obtain ⟨reported, -, decoded⟩ := bind_ok_iff.mp decoded
        cases decoded
        trivial
    | accepted =>
      cases decoded
      trivial
    | clipboard =>
      obtain ⟨text, -, decoded⟩ := bind_ok_iff.mp decoded
      split at decoded
      · next small =>
        cases decoded
        exact small
      · cases decoded
    | failure =>
      obtain ⟨code, -, decoded⟩ := bind_ok_iff.mp (attempted decoded)
      obtain ⟨message, -, decoded⟩ := bind_ok_iff.mp decoded
      cases decoded
      trivial

theorem legal_of_decodeFrame {frame : List UInt8} {envelope : GuestAgentResponseEnvelope}
    (decoded : decodeFrame foundation frame = .ok envelope) : envelope.response.Legal := by
  have inside {v : JSON} {envelope : GuestAgentResponseEnvelope}
      (decoded : decodeResponseEnvelope foundation v = .ok envelope) : envelope.response.Legal := by
    obtain ⟨members, -, decoded⟩ := bind_ok_iff.mp decoded
    -- The response is decoded in the envelope, or by itself where there is none.
    split at decoded
    · obtain ⟨version, -, decoded⟩ := bind_ok_iff.mp decoded
      obtain ⟨requestID, -, decoded⟩ := bind_ok_iff.mp decoded
      split at decoded
      · obtain ⟨response, read, decoded⟩ := bind_ok_iff.mp decoded
        cases decoded
        exact legal_of_decodeResponse foundation read
      · cases decoded
    · obtain ⟨response, read, decoded⟩ := bind_ok_iff.mp decoded
      cases decoded
      exact legal_of_decodeResponse foundation read
  unfold decodeFrame at decoded
  split at decoded
  · cases decoded
  · dsimp only at decoded
    split at decoded
    · cases decoded
    · split at decoded
      · cases decoded
      · split at decoded
        · next read =>
          cases decoded
          unfold decodeJSON at read
          split at read
          · cases read
          · obtain ⟨v, -, read⟩ := bind_ok_iff.mp read
            exact inside read
        · cases decoded
        · cases decoded

end Frames

section RoundTrips

/-- `==` of two statuses, whose capabilities are sets. -/
def GuestAgentStatus.Equals (a b : GuestAgentStatus) : Prop :=
  (∀ capability, capability ∈ a.capabilities ↔ capability ∈ b.capabilities) ∧
    { a with capabilities := [] } = { b with capabilities := [] }

/-- `==` of two responses -/
def GuestAgentResponse.Equals : GuestAgentResponse → GuestAgentResponse → Prop
  | .status a, .status b => a.Equals b
  | a, b => a = b

/-- `==` of two envelopes -/
def GuestAgentResponseEnvelope.Equals (a b : GuestAgentResponseEnvelope) : Prop :=
  a.protocolVersion = b.protocolVersion ∧ a.requestID = b.requestID ∧ a.response.Equals b.response

theorem GuestAgentResponse.sorted_equals (response : GuestAgentResponse) :
    response.sorted.Equals response := by
  cases response with
  | status reported =>
    refine ⟨fun capability => ?_, rfl⟩
    show capability ∈ (sortedCapabilities reported.capabilities).eraseDups ↔ _
    rw [List.mem_eraseDups, sortedCapabilities, List.mem_mergeSort]
  | _ => rfl

/-- The frame a request is sent in decodes to the request, and so does that of every response. -/
def RoundTrips (foundation : Foundation) : Prop :=
  (∀ envelope frame, encode envelope = .ok frame →
    decodeRequestFrame foundation frame = .ok envelope) ∧
  (∀ envelope frame, encodeResponseFrame envelope = .ok frame →
    ∃ decoded, decodeFrame foundation frame = .ok decoded ∧ decoded.Equals envelope)

/-- What was decoded can be encoded, and comes back from that. -/
def RequestReturns (foundation : Foundation) (envelope : GuestAgentRequestEnvelope) : Prop :=
  ∃ frame, encode envelope = .ok frame ∧ decodeRequestFrame foundation frame = .ok envelope

def ResponseReturns (foundation : Foundation) (envelope : GuestAgentResponseEnvelope) : Prop :=
  ∃ frame decoded, encodeResponseFrame envelope = .ok frame ∧
    decodeFrame foundation frame = .ok decoded ∧ decoded.Equals envelope

theorem round_trips (foundation : Foundation) : RoundTrips foundation := by
  constructor
  · intro envelope frame encoded
    obtain ⟨⟨-, fits⟩, rfl⟩ := encode_frame_iff.mp encoded
    exact decodeRequestFrame_frame foundation envelope fits
  · intro envelope frame encoded
    obtain ⟨⟨legal, fits⟩, rfl⟩ := encodeResponseFrame_iff.mp encoded
    exact ⟨_, decodeFrame_frame foundation legal fits, rfl, rfl, envelope.response.sorted_equals⟩

/-- Envelopes survive the codec. A decoded one can be encoded again and returns if and only if it is
within the limits, and of these a decoded response can only exceed the size of a frame. -/
theorem codec_round_trip (foundation : Foundation) :
    RoundTrips foundation ∧
    (∀ frame envelope, decodeRequestFrame foundation frame = .ok envelope →
      (RequestReturns foundation envelope ↔
        envelope.request.Legal ∧ sizeRequestEnvelope envelope ≤ maximumPayloadSize)) ∧
    ∀ frame envelope, decodeFrame foundation frame = .ok envelope →
      (ResponseReturns foundation envelope ↔
        sizeResponseEnvelope envelope ≤ maximumPayloadSize) := by
  obtain ⟨requests, responses⟩ := round_trips foundation
  refine ⟨⟨requests, responses⟩, fun frame envelope _ => ?_, fun frame envelope decoded => ?_⟩
  · constructor
    · rintro ⟨again, encoded, -⟩
      exact (encode_frame_iff.mp encoded).1
    · intro within
      have encoded := encode_frame_iff.mpr ⟨within, rfl⟩
      exact ⟨_, encoded, requests envelope _ encoded⟩
  · constructor
    · rintro ⟨again, back, encoded, -⟩
      exact (encodeResponseFrame_iff.mp encoded).1.2
    · intro fits
      have legal := legal_of_decodeFrame foundation decoded
      have encoded := encodeResponseFrame_iff.mpr ⟨⟨legal, fits⟩, rfl⟩
      obtain ⟨back, read, same⟩ := responses envelope _ encoded
      exact ⟨_, back, encoded, read, same⟩

/-- A request to resize the display to one pixel. -/
def tinyDisplay : List UInt8 :=
  let payload := utf8 ("\x7b\"protocolVersion\":2,\"request\":\x7b\"height\":1," ++
    "\"type\":\"resizeDisplay\",\"width\":1\x7d,\"requestID\":\"1\"\x7d").toList
  packHeader payload.length ++ payload

/-- A size no display may have is decoded, but not encoded. -/
theorem tiny_display_decoded :
    ∃ envelope, decodeRequestFrame appleFoundation tinyDisplay = .ok envelope ∧
      encode envelope = .error .invalidDisplaySize ∧ ¬ RequestReturns appleFoundation envelope := by
  let envelope : GuestAgentRequestEnvelope := ⟨2, some "1", .resizeDisplay 1 1⟩
  have fits : sizeRequestEnvelope envelope ≤ maximumPayloadSize := by decide +kernel
  have written : tinyDisplay = packHeader (sizeRequestEnvelope envelope) ++
      utf8 (encodeObject (hostEnvelopeMembers envelope).texts) := by decide +kernel
  have decoded := decodeRequestFrame_frame appleFoundation envelope fits
  rw [← written] at decoded
  have refused : encode envelope = .error .invalidDisplaySize := rfl
  refine ⟨envelope, decoded, refused, ?_⟩
  rintro ⟨frame, encoded, -⟩
  rw [refused] at encoded
  cases encoded

end RoundTrips

end SimpleVM.Agent
