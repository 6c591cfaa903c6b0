import SimpleVM.Agent.Survival
import SimpleVM.Python.Loaded

/-!
# Replies of the session helper

The helper runs as the user and is not trusted. The daemon looks at the type of its reply, and at
the text of a clipboard, and passes the whole reply on to the host, which has its own idea of a
response. What the host takes is an exact condition on the reply.
-/
namespace SimpleVM.Agent

open Effects Python Swift Text

section Dumped

/-- A float read from a number is written as one, or as an infinity where the number is too large
for a float. -/
def WritesFloats (floatRepr : FloatRepr) : Prop :=
  ∀ literal, IsNumber literal → ∃ text, floatRepr literal = text.map Char.toNat ∧
    (IsNumber text ∨ text = "Infinity".toList ∨ text = "-Infinity".toList)

theorem Broken.mono {s t : Str} (broken : Broken s) (inside : s ⊆ t) : Broken t := by
  obtain ⟨n, member, lone⟩ := List.any_eq_true.mp broken
  exact List.any_eq_true.mpr ⟨n, inside member, lone⟩

theorem subset_intercalate {separator t : Str} {texts : List Str} (member : t ∈ texts) :
    t ⊆ List.intercalate separator texts := by
  induction texts with
  | nil => cases member
  | cons first texts ih =>
    cases texts with
    | nil =>
      rw [List.mem_singleton.mp member, List.intercalate_singleton]
      exact List.Subset.refl first
    | cons next texts =>
      rw [List.intercalate_cons_cons]
      intro n unit
      rcases List.mem_cons.mp member with rfl | later
      · exact List.mem_append_left _ (List.mem_append_left _ unit)
      · exact List.mem_append_right _ (ih later unit)

theorem subset_joined {opens closes : Nat} {t : Str} {texts : List Str} (member : t ∈ texts) :
    t ⊆ joined opens closes texts := by
  intro n unit
  have inside : n ∈ List.intercalate [0x2c] texts := subset_intercalate member unit
  exact List.mem_cons_of_mem opens (List.mem_append_left [closes] inside)

/-- Of the text of a sequence, the text of each item is a part. -/
theorem mem_of_mapM {ι ε : Type} {f : ι → Except ε Str} {items : List ι} {texts : List Str}
    (written : items.mapM f = .ok texts) {item : ι} (member : item ∈ items) :
    ∃ t ∈ texts, f item = .ok t := by
  obtain ⟨pairs, rfl, values, all⟩ := pairs_of_mapM (g := id) (P := fun t i => f i = .ok t) written
    fun _ _ _ one => one
  rw [List.map_id] at values
  rw [← values] at member
  obtain ⟨pair, inside, rfl⟩ := List.mem_map.mp member
  exact ⟨pair.1, List.mem_map_of_mem inside, all pair inside⟩

/-- A surrogate is written as it is. -/
theorem broken_dumpsString {s : Str} (broken : Broken s) : Broken (dumpsString s) := by
  obtain ⟨n, member, lone⟩ := List.any_eq_true.mp broken
  have large : 0xd800 ≤ n := by
    simp only [isSurrogate, Bool.and_eq_true, decide_eq_true_eq] at lone
    exact lone.1
  have kept : escapeUnit n = [n] := by
    unfold escapeUnit
    repeat rw [if_neg (by omega)]
  have written : n ∈ s.flatMap escapeUnit :=
    List.mem_flatMap.mpr ⟨n, member, by rw [kept]; exact List.mem_singleton_self n⟩
  exact List.any_eq_true.mpr
    ⟨n, List.mem_cons_of_mem _ (List.mem_append_left _ written), lone⟩

/-- A string of Python without surrogates is text. -/
theorem isText_of_not_broken {s : Str} (python : IsPython s) (whole : ¬ Broken s) : IsText s := by
  apply isText_of_encode python
  cases encoded : encode? s with
  | none => exact absurd (encode?_eq_none.mp encoded) whole
  | some bytes => rfl

/-- A value that was read, and whose text can be sent, is one the host can read. -/
theorem textual_of_loaded {floatRepr : FloatRepr} (floats : WritesFloats floatRepr) {v : Value}
    (loaded : Loaded v) {encoder : Nat} {t : Str} (written : dumps floatRepr encoder v = .ok t)
    (whole : ¬ Broken t) : Textual floatRepr v := by
  -- Induction on the value: the text of a part is a part of the text, so no part is broken.
  induction loaded generalizing encoder t with
  | null => exact .null
  | bool b => exact .bool b
  | int n short => exact .int n
  | float literal number =>
    obtain ⟨text, same, shape⟩ := floats literal number
    exact .float literal text same shape
  | string s python =>
    simp only [dumps] at written
    cases written
    exact .string s (isText_of_not_broken python fun broken => whole (broken_dumpsString broken))
  | list items each ih =>
    obtain ⟨encoder, texts, rfl, inner, rfl⟩ := dumps_list_ok written
    refine .list items fun item member => ?_
    obtain ⟨text, part, one⟩ := mem_of_mapM inner member
    exact ih item member one fun broken => whole (broken.mono (subset_joined part))
  | dict members distinct keys each ih =>
    obtain ⟨encoder, texts, rfl, inner, rfl⟩ := dumps_dict_ok written
    have parts (member : Str × Value) (inside : member ∈ members) :
        ¬ Broken (dumpsString member.1) ∧ ∃ text,
          dumps floatRepr encoder member.2 = .ok text ∧ ¬ Broken text := by
      obtain ⟨line, part, one⟩ := mem_of_mapM inner inside
      obtain ⟨text, value, rfl⟩ := dumpsMember_ok one
      have line : ¬ Broken (dumpsString member.1 ++ [0x3a] ++ text) :=
        fun broken => whole (broken.mono (subset_joined part))
      refine ⟨fun broken => line (broken.mono ?_), text, value, fun broken => line (broken.mono ?_)⟩
      · rw [List.append_assoc]
        exact List.subset_append_left _ _
      · exact List.subset_append_right _ _
    refine .dict members (fun member inside => ?_) fun member inside => ?_
    · exact isText_of_not_broken (keys member inside) fun broken =>
        (parts member inside).1 (broken_dumpsString broken)
    · obtain ⟨-, text, value, unbroken⟩ := parts member inside
      exact ih member inside value unbroken

end Dumped

section Taken

/-- A response that the operation can have. -/
def ValidFor : Operation → GuestAgentResponse → Prop
  | .readClipboard, .clipboard _ => True
  | .writeClipboard _, .accepted => True
  | .resizeDisplay _ _, .accepted => True
  | _, .failure _ => True
  | _, _ => False

/-- A failure with all that the host asks of one. -/
structure Explained (reply : List (Str × Value)) : Prop where
  message : ∃ s, get? reply "message" = some (.string s)
  code : ∀ v, get? reply "code" = some v → v = .null ∨ ∃ s, v = .string s

/-- The host takes the reply, as a response to the operation: it is of a type that answers the
operation, and the parser gets through it. -/
structure Takeable (floatRepr : FloatRepr) (nesting : Nat) (operation : Operation)
    (reply : List (Str × Value)) : Prop where
  parses : Parseable floatRepr nesting (.dict reply)
  clipboard : get? reply "type" = some (.string (str "clipboard")) → operation = .readClipboard
  accepted : get? reply "type" = some (.string (str "accepted")) → operation ≠ .readClipboard
  failure : get? reply "type" = some (.string (str "failure")) → Explained reply

variable {floatRepr : FloatRepr} {operation : Operation} {reply : List (Str × Value)}

theorem validFor_clipboard {text : String} :
    ValidFor operation (.clipboard text) ↔ operation = .readClipboard := by
  cases operation <;> simp [ValidFor]

theorem validFor_accepted (session : operation.isOwn = false) :
    ValidFor operation .accepted ↔ operation ≠ .readClipboard := by
  cases operation <;> simp_all [ValidFor, Operation.isOwn]

theorem validFor_failure {failure : GuestAgentFailure} : ValidFor operation (.failure failure) := by
  cases operation <;> trivial

theorem json_null {v : Value} : json floatRepr v = .null ↔ v = .null := by
  cases v <;> simp [json]

/-- Only a string is decoded as one. -/
theorem decodeString_ok (floatRepr : FloatRepr) {v : Value} :
    (∃ s, decodeString (json floatRepr v) = .ok s) ↔ ∃ s, v = .string s := by
  cases v <;> simp [json, decodeString]

/-- A field that must be a string. -/
theorem decode_string_iff (floatRepr : FloatRepr) (keys : TextKeys reply) (key : String) :
    (∃ s, decode (hosted floatRepr reply) key decodeString = .ok s) ↔
      ∃ s, get? reply key = some (.string s) := by
  cases found : get? reply key with
  | none => simp [decode, lookup_hosted floatRepr keys, found]
  | some v => simp [decode_hosted floatRepr keys found, decodeString_ok]

/-- A field that is a string when it is there. -/
theorem decodeIfPresent_string_iff (floatRepr : FloatRepr) (keys : TextKeys reply) (key : String) :
    (∃ s, decodeIfPresent (hosted floatRepr reply) key decodeString = .ok s) ↔
      ∀ v, get? reply key = some v → v = .null ∨ ∃ s, v = .string s := by
  cases found : get? reply key with
  | none => simp [decodeIfPresent_of_none floatRepr keys found]
  | some v =>
    by_cases null : v = .null
    · subst null
      simp [decodeIfPresent, lookup_hosted floatRepr keys, found, json]
    · have present : json floatRepr v ≠ .null := fun same => null (json_null.mp same)
      have strings : (∃ s, decodeString (json floatRepr v) = .ok s) ↔ _ := decodeString_ok floatRepr
      rw [decodeIfPresent_hosted floatRepr keys found present]
      cases decoded : decodeString (json floatRepr v) with
      | error e => simp_all [Except.map]
      | ok s => simp_all [Except.map]

/-- The host decodes a failure exactly when it is explained. -/
theorem decodeFailure_iff (keys : TextKeys reply) :
    (∃ response, decodeFailure (hosted floatRepr reply) = .ok response) ↔ Explained reply := by
  have codes := decodeIfPresent_string_iff floatRepr keys "code"
  have messages := decode_string_iff floatRepr keys "message"
  constructor
  · rintro ⟨response, decoded⟩
    obtain ⟨code, coded, rest⟩ := bind_ok_iff.mp decoded
    obtain ⟨message, explained, -⟩ := bind_ok_iff.mp rest
    exact ⟨messages.mp ⟨message, explained⟩, codes.mp ⟨code, coded⟩⟩
  · rintro ⟨message, code⟩
    obtain ⟨coded, decodedCode⟩ := codes.mpr code
    obtain ⟨explained, decodedMessage⟩ := messages.mpr message
    exact ⟨_, bind_ok_iff.mpr ⟨coded, decodedCode, bind_ok_iff.mpr ⟨explained, decodedMessage, rfl⟩⟩⟩

/-- A failure is decoded to nothing else. -/
theorem decodeFailure_failure {members : List (String × JSON)} {response : GuestAgentResponse}
    (decoded : decodeFailure members = .ok response) : ∃ failure, response = .failure failure := by
  obtain ⟨code, -, rest⟩ := bind_ok_iff.mp decoded
  obtain ⟨message, -, same⟩ := bind_ok_iff.mp rest
  cases same
  exact ⟨_, rfl⟩

theorem attempt_ok {α : Type} {result : Except DecodingError α} {a : α} :
    attempt result = .ok a ↔ result = .ok a := by
  cases result <;> simp [attempt, mapError_ok, mapError_error]

/-- A text that the daemon lets through is small enough for the host. -/
theorem decodeClipboard_small (keys : TextKeys reply) {text : Str} {bytes : List UInt8}
    (found : get? reply "text" = some (.string text)) (isText : IsText text)
    (encoded : encode? text = some bytes) (small : bytes.length ≤ maxClipboardSize) :
    decodeClipboard (hosted floatRepr reply) = .ok (.clipboard (hostString text)) := by
  have decoded := decode_of_get? floatRepr keys found decodeString_json
  rw [encode?_of_isText isText] at encoded
  cases encoded
  have size : (hostString text).utf8ByteSize ≤ maximumClipboardSize := by
    rw [hostString, ← length_utf8]
    exact small
  simp only [decodeClipboard, decoded, attempt, mapError_ok, bind, Except.bind, size, if_true]
  rfl

/-- Of a relayed reply that parses, the host makes a response to the operation exactly under the
conditions on its type. -/
theorem relayed_valid_iff (foundation : Foundation) (textual : Textual floatRepr (.dict reply))
    (relayed : Relayed reply) (session : operation.isOwn = false) {nesting : Nat}
    (parses : Parseable floatRepr nesting (.dict reply)) :
    (∃ response, decodeResponse foundation (json floatRepr (.dict reply)) = .ok response ∧
      ValidFor operation response) ↔ Takeable floatRepr nesting operation reply := by
  obtain ⟨keys, values⟩ : TextKeys reply ∧ ∀ member ∈ reply, Textual floatRepr member.2 := by
    cases textual with
    | dict _ keys values => exact ⟨keys, values⟩
  have decoded {name : String} {type : ResponseType}
      (typed : get? reply "type" = some (.string (str name)))
      (known : ResponseType.ofRawValue name = some type) :
      decodeResponse foundation (json floatRepr (.dict reply)) =
        decodeTyped foundation (json floatRepr (.dict reply)) (hosted floatRepr reply) type :=
    decodeResponse_typed foundation keys typed known
  have other {name other : String} (typed : get? reply "type" = some (.string (str name)))
      (different : str name ≠ str other) :
      get? reply "type" ≠ some (.string (str other)) := by
    rw [typed]
    intro same
    injection same with same
    injection same with same
    exact different same
  -- One case for each type the daemon relays, and only that type's condition matters.
  rcases relayed with ⟨typed, text, bytes, found, encoded, small⟩ | typed | typed
  · have isText : IsText text := by
      cases values _ (mem_of_get? found) with
      | string _ isText => exact isText
    rw [decoded typed rfl, decodeTyped, decodeClipboard_small keys found isText encoded small]
    simp only [Except.ok.injEq, exists_eq_left', validFor_clipboard]
    constructor
    · intro reads
      exact ⟨parses, fun _ => reads, fun no => absurd no (other typed (by decide)),
        fun no => absurd no (other typed (by decide))⟩
    · exact fun takeable => takeable.clipboard typed
  · rw [decoded typed rfl, decodeTyped]
    simp only [Except.ok.injEq, exists_eq_left', validFor_accepted session]
    constructor
    · intro writes
      exact ⟨parses, fun no => absurd no (other typed (by decide)), fun _ => writes,
        fun no => absurd no (other typed (by decide))⟩
    · exact fun takeable => takeable.accepted typed
  · rw [decoded typed rfl, decodeTyped]
    simp only [attempt_ok]
    constructor
    · rintro ⟨response, failed, -⟩
      have explained := (decodeFailure_iff keys).mp ⟨response, failed⟩
      exact ⟨parses, fun no => absurd no (other typed (by decide)),
        fun no => absurd no (other typed (by decide)), fun _ => explained⟩
    · intro takeable
      obtain ⟨response, failed⟩ := (decodeFailure_iff keys).mpr (takeable.failure typed)
      obtain ⟨failure, rfl⟩ := decodeFailure_failure failed
      exact ⟨_, failed, validFor_failure⟩

end Taken

section Relayed

theorem loaded_envelope (id : String) {reply : List (Str × Value)} (loaded : Loaded (.dict reply)) :
    Loaded (.dict (envelope id reply)) := by
  have version : Loaded (.int protocolVersion) := .int _ (by decide)
  refine loaded_fields ["protocolVersion", "requestID", "response"] rfl (by decide) ?_
  simp [envelope, version, loaded_label, loaded]

/-- The envelope takes one level of nesting. -/
theorem parseable_envelope {floatRepr : FloatRepr} {nesting : Nat} (id : String)
    {reply : List (Str × Value)} :
    Parseable floatRepr (nesting + 1) (.dict (envelope id reply)) ↔
      Parseable floatRepr nesting (.dict reply) := by
  simp [Parseable, envelope]

variable {python : Interpreter} {operation : Operation} {reply : List (Str × Value)}

/-- The frame around a relayed reply is taken exactly when the reply is. -/
theorem frame_taken_iff (foundation : Foundation) (floats : WritesFloats python.floatRepr)
    (id : String) (loaded : Loaded (.dict reply)) (relayed : Relayed reply)
    (session : operation.isOwn = false) {frame : List UInt8}
    (written : encodeFrame python (.dict (envelope id reply)) = .ok frame) :
    (∃ response, decodeFrame foundation frame =
        .ok { protocolVersion := 2, requestID := some id, response := response } ∧
      ValidFor operation response) ↔
      Takeable python.floatRepr (foundation.nesting - 1) operation reply := by
  obtain ⟨nesting, same⟩ : ∃ nesting, foundation.nesting = nesting + 1 :=
    Nat.exists_eq_add_of_le' (Nat.le_trans (by decide) foundation.parses)
  obtain ⟨t, payload, dumped, encoded, -, -⟩ := encodeFrame_ok written
  have whole : ¬ Broken t := by
    rw [← encode?_eq_none, encoded]
    exact fun none => by cases none
  have textual := textual_of_loaded floats (loaded_envelope id loaded) dumped whole
  have inner : Textual python.floatRepr (.dict reply) := by
    cases textual with
    | dict _ _ values => exact values (str "response", .dict reply) (by simp [envelope])
  obtain ⟨isText, decides⟩ := crosses textual dumped
  simp only [decodeFrame_dumped foundation dumped isText written]
  rw [same, Nat.add_sub_cancel]
  have parsing := decides foundation.nesting
  rw [Decides, same, parseable_envelope] at parsing
  rcases parsing with ⟨parses, yields⟩ | ⟨deep, fails⟩
  · rw [parse_of_yields foundation (same ▸ yields)]
    have opened : (attempt (.ok (json python.floatRepr (.dict (envelope id reply)))) >>=
        decodeResponseEnvelope foundation) =
        (decodeResponse foundation (json python.floatRepr (.dict reply))).map fun decoded =>
          { protocolVersion := 2, requestID := some id, response := decoded } :=
      decodeResponseEnvelope_envelope foundation id reply
    rw [opened, ← relayed_valid_iff foundation inner relayed session parses]
    cases decodeResponse foundation (json python.floatRepr (.dict reply)) with
    | error e => simp [Except.map]
    | ok decoded => simp [Except.map]
  · rw [parse_fails foundation (same ▸ fails)]
    constructor
    · rintro ⟨response, decoded, -⟩
      cases decoded
    · exact fun takeable => absurd takeable.parses deep

/-- What the helper is heard to say was read from its stream. -/
theorem loaded_of_call {around : Surroundings}
    (called : call python around.helper (sessionPayload operation) = .ok reply) :
    Loaded (.dict reply) := by
  rcases call_cases python around operation with ⟨-, -, -, e, -, failed⟩ |
    ⟨raw, heard, -, decoded, same⟩ | ⟨-, message, failed⟩
  · rw [called] at failed
    cases failed
  · rw [called] at same
    cases same
    obtain ⟨text, loads⟩ := loads_of_decodePayload decoded
    exact loads_loaded loads
  · rw [called] at failed
    cases failed

/-- Only version 2 asks the session. -/
theorem legacy_eq_false {message : List (Str × Value)} {request : Request}
    (accepted : decodeRequest message = .ok request) (session : request.operation.isOwn = false) :
    request.legacy = false := by
  have own {kind : Str} {body : List (Str × Value)} (legacy : decodeLegacy kind body = .ok request) :
      request.operation.isOwn = true := by
    unfold decodeLegacy at legacy
    split at legacy
    · split at legacy
      · split at legacy
        · cases legacy
          rfl
        · cases legacy
      · cases legacy
    · split at legacy
      · cases legacy
      · next operation known =>
        split at legacy
        · cases legacy
          split at known
          · cases known
            rfl
          split at known
          · cases known
            rfl
          split at known
          · cases known
            rfl
          · cases known
        · cases legacy
  unfold decodeRequest at accepted
  split at accepted
  · split at accepted
    · split at accepted
      · cases accepted
      · split at accepted
        · cases accepted
        · cases accepted
          rfl
    · cases accepted
  · split at accepted
    · have mine := own accepted
      rw [session] at mine
      cases mine
    · cases accepted

/-- What the daemon says on its own is taken for any operation of the session. -/
theorem failure_taken (foundation : Foundation) (id : String) (code message : String)
    {frame : List UInt8}
    (written : encodeFrame python (.dict (envelope id (failure code (str message) none))) =
      .ok frame) :
    ∃ response, decodeFrame foundation frame =
        .ok { protocolVersion := 2, requestID := some id, response := response } ∧
      ValidFor operation response := by
  have produced : Produced (failure code (str message) none) :=
    .failure code (isText_str message) fun _ absent => by cases absent
  obtain ⟨decoded, decodes, corresponds⟩ :=
    decodeResponse_produced python.floatRepr foundation produced
  refine ⟨decoded, decodeFrame_encodeFrame foundation id produced.named decodes written, ?_⟩
  cases corresponds with
  | status reported typed => simp [failure] at typed
  | accepted typed => simp [failure] at typed
  | failure code message typed => exact validFor_failure

/-- For an operation of the session, the frame that the daemon sends is decoded to a response that
is valid for it exactly when the reply of the helper, if it is passed on, can be taken. -/
theorem session_reply_iff (python : Interpreter) (foundation : Foundation)
    (floats : WritesFloats python.floatRepr) (around : Surroundings) (raw : List UInt8)
    (message : List (Str × Value)) (request : Request)
    (received : decodePayload python raw = .ok message)
    (accepted : decodeRequest message = .ok request)
    (session : request.operation.isOwn = false) (frame : List UInt8)
    (written : answer python around request = .ok frame) :
    (∃ id response, request.requestID = some (str id) ∧
      decodeFrame foundation frame =
        .ok { protocolVersion := 2, requestID := some id, response := response } ∧
      ValidFor request.operation response) ↔
    ∀ reply, call python around.helper (sessionPayload request.operation) = .ok reply →
      Relayed reply →
      Takeable python.floatRepr (foundation.nesting - 1) request.operation reply := by
  have current := legacy_eq_false accepted session
  obtain ⟨id, identified⟩ := exists_requestID received accepted current
  have unique : ∀ other : String, request.requestID = some (str other) ↔ other = id := by
    intro other
    rw [identified, Option.some.injEq, eq_comm]
    constructor
    · intro same
      rw [← hostString_str other, same, hostString_str]
    · rintro rfl
      rfl
  simp only [unique, exists_and_left, exists_eq_left]
  obtain ⟨response, dispatched, encoded⟩ := answer_envelope current identified written
  have asked : dispatch python around request.operation =
      dispatchSession python around request.operation := by
    cases operation : request.operation <;> simp_all [Operation.isOwn, dispatch]
  rw [asked, dispatchSession] at dispatched
  split at dispatched
  · next message called =>
    cases dispatched
    refine iff_of_true (failure_taken foundation id _ message encoded) fun reply heard => ?_
    rw [called] at heard
    cases heard
  · cases dispatched
  · next reply called =>
    simp only [called, Except.ok.injEq, forall_eq']
    rcases relay_ok dispatched with ⟨rfl, relayed⟩ | ⟨rfl, kept⟩
    · rw [frame_taken_iff foundation floats id (loaded_of_call called) relayed session encoded]
      exact ⟨fun takeable _ => takeable, fun takeable => takeable relayed⟩
    · exact iff_of_true (failure_taken foundation id _ _ encoded) fun relayed => absurd relayed kept

/-- A guest whose helper answers one request, with this text. -/
def guestHearing (text : String) : Surroundings :=
  { plainGuest with
    helper := some { sends := true,
                     replies := [.chunk (packHeader (utf8 text.toList).length ++ utf8 text.toList)] } }

theorem call_hears (text : String) (reply : List (Str × Value)) {payload : List (Str × Value)}
    {framed : List UInt8} (sent : encodeFrame cpython (.dict payload) = .ok framed)
    (nonempty : utf8 text.toList ≠ [])
    (fits : (utf8 text.toList).length ≤ maxFrameSize)
    (loaded : loads 1 1000 text.toList = .ok (.dict reply)) :
    call cpython (guestHearing text).helper payload = .ok reply := by
  have limit : cpython.decoderLimit = 1000 := rfl
  have hook : cpython.hookLevels = 1 := rfl
  have decoded : decodePayload cpython (utf8 text.toList) = .ok reply := by
    simp only [decodePayload, decodeUTF8_utf8, limit, hook, loaded]
  simp only [call, guestHearing, sent, if_true, readFrame_run, readPayload_frame nonempty fits,
    decoded, mapError_ok]

/-- What is `repr` for most literals. -/
theorem writesFloats_cpython : WritesFloats cpython.floatRepr :=
  fun literal number => ⟨literal, rfl, .inl number⟩

theorem session_reply_iff_accepted :
    ∃ frame, answer cpython (guestHearing "\x7b\"type\":\"accepted\"\x7d")
        ⟨.writeClipboard (str "hi"), false, some (str "1")⟩ = .ok frame ∧
      ∃ id response, some (str "1") = some (str id) ∧
        decodeFrame appleFoundation frame =
          .ok { protocolVersion := 2, requestID := some id, response := response } ∧
        ValidFor (.writeClipboard (str "hi")) response := by
  obtain ⟨text, asked⟩ : ∃ text, encodeEnvelope ⟨2, some "1", .writeClipboard "hi"⟩ = .ok text :=
    ⟨_, rfl⟩
  obtain ⟨body, inner⟩ : ∃ body, encodeRequest (.writeClipboard "hi") = .ok body := ⟨_, rfl⟩
  have valid : decodeRequest (values (envelopeMembers ⟨2, some "1", .writeClipboard "hi"⟩)) =
      .ok ⟨.writeClipboard (str "hi"), false, some (str "1")⟩ := by
    rw [decodeRequest_iff inner]
    decide +kernel
  obtain ⟨framed, sent⟩ : ∃ framed, encodeFrame cpython
      (.dict (sessionPayload (.writeClipboard (str "hi")))) = .ok framed := ⟨_, rfl⟩
  have heard := call_hears "\x7b\"type\":\"accepted\"\x7d"
    [(str "type", .string (str "accepted"))] sent (by decide) (by decide) rfl
  obtain ⟨frame, written⟩ : ∃ frame, answer cpython
      (guestHearing "\x7b\"type\":\"accepted\"\x7d")
      ⟨.writeClipboard (str "hi"), false, some (str "1")⟩ = .ok frame := by
    simp only [answer, dispatch, dispatchSession, heard]
    exact ⟨_, rfl⟩
  refine ⟨frame, written, (session_reply_iff cpython appleFoundation writesFloats_cpython _ _ _ _
    (decodePayload_envelope asked) valid rfl frame written).mpr fun reply again relayed => ?_⟩
  rw [heard] at again
  cases again
  refine ⟨fun member inside => ?_, fun no => ?_, fun _ no => (by cases no), fun no => ?_⟩
  · rw [List.mem_singleton.mp inside]
    trivial
  · exact absurd (Value.string.inj (Option.some.inj no)) (by decide)
  · exact absurd (Value.string.inj (Option.some.inj no)) (by decide)

/-- A failure without a message is passed on, and the host cannot decode it. -/
theorem failure_without_message :
    ¬ ∀ (around : Surroundings) (raw : List UInt8) (message : List (Str × Value)) (request : Request)
        (frame : List UInt8), decodePayload cpython raw = .ok message →
      decodeRequest message = .ok request → request.operation.isOwn = false →
      answer cpython around request = .ok frame →
      ∃ id response, request.requestID = some (str id) ∧
        decodeFrame appleFoundation frame =
          .ok { protocolVersion := 2, requestID := some id, response := response } ∧
        ValidFor request.operation response := by
  intro claimed
  obtain ⟨text, asked⟩ : ∃ text, encodeEnvelope ⟨2, some "1", .readClipboard⟩ = .ok text := ⟨_, rfl⟩
  obtain ⟨body, inner⟩ : ∃ body, encodeRequest .readClipboard = .ok body := ⟨_, rfl⟩
  have valid : decodeRequest (values (envelopeMembers ⟨2, some "1", .readClipboard⟩)) =
      .ok ⟨.readClipboard, false, some (str "1")⟩ := by
    rw [decodeRequest_iff inner]
    decide +kernel
  obtain ⟨framed, sent⟩ : ∃ framed, encodeFrame cpython
      (.dict (sessionPayload .readClipboard)) = .ok framed := ⟨_, rfl⟩
  have heard := call_hears "\x7b\"type\":\"failure\"\x7d"
    [(str "type", .string (str "failure"))] sent (by decide) (by decide) rfl
  obtain ⟨frame, written, answered⟩ : ∃ frame,
      encodeFrame cpython (.dict (envelope "1" [(str "type", .string (str "failure"))])) = .ok frame ∧
      answer cpython (guestHearing "\x7b\"type\":\"failure\"\x7d")
        ⟨.readClipboard, false, some (str "1")⟩ = .ok frame := by
    simp only [answer, dispatch, dispatchSession, heard]
    exact ⟨_, rfl, rfl⟩
  obtain ⟨id, response, same, decoded, responds⟩ := claimed _ _ _ _ frame
    (decodePayload_envelope asked) valid rfl answered
  have identified : id = "1" := by
    rw [← hostString_str id, ← Option.some.inj same, hostString_str]
  subst identified
  have taken := (frame_taken_iff appleFoundation writesFloats_cpython "1" (loaded_of_call heard)
    (.inr (.inr rfl)) rfl written).mp ⟨response, decoded, responds⟩
  obtain ⟨s, explained⟩ := (taken.failure rfl).message
  cases explained

end Relayed

end SimpleVM.Agent
