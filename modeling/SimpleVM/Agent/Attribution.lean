import SimpleVM.Agent.SessionReplies
import SimpleVM.Agent.SocketTransport
import Mathlib.Data.List.Nodup

/-!
# Whose reply it is

A reply may arrive after the call it answers has ended, and the next call then starts to read
somewhere in it. No such offset yields a response: a plausible length starts with a zero byte, which
only headers contain, and the text that is found from inside a header on is not that of an object.
What is read from its first byte on names the request it answers.
-/
namespace SimpleVM.Agent

open Effects Failing Python Swift Text Transition

section Printed

/-- Nothing that is dumped is a control character. -/
def Printed (s : Str) : Prop := ∀ n ∈ s, 0x20 ≤ n

theorem printed_chars {text : List Char} (all : ∀ c ∈ text, 0x20 ≤ c.toNat) :
    Printed (text.map Char.toNat) := by
  intro n member
  obtain ⟨c, inside, rfl⟩ := List.mem_map.mp member
  exact all c inside

theorem digit_printed {c : Char} (digit : isDigit c = true) : 0x20 ≤ c.toNat := by
  simp only [isDigit, Bool.and_eq_true, decide_eq_true_eq] at digit
  have low : '0'.toNat ≤ c.toNat := digit.1
  have zero : '0'.toNat = 48 := rfl
  omega

theorem number_printed {text : List Char} (number : IsNumber text) :
    ∀ c ∈ text, 0x20 ≤ c.toNat := by
  obtain ⟨sign, integer, fraction, exponent, signed, whole, point, power, rfl⟩ := number
  have digits {text : List Char} (all : ∀ c ∈ text, isDigit c = true) :
      ∀ c ∈ text, 0x20 ≤ c.toNat := fun c member => digit_printed (all c member)
  intro c member
  simp only [List.mem_append] at member
  rcases member with inSign | inInteger | inFraction | inExponent
  · rcases signed with rfl | rfl
    · cases inSign
    · rw [List.mem_singleton.mp inSign]
      decide
  · exact digits whole.digits.2 c inInteger
  · rcases point with rfl | ⟨d, more, rfl, all⟩
    · cases inFraction
    · rcases List.mem_cons.mp inFraction with rfl | inside
      · decide
      · exact digits all c inside
  · rcases power with rfl | ⟨e, letter, ⟨d, more, rfl, all⟩ | ⟨s, d, more, sign, rfl, all⟩⟩
    · cases inExponent
    · rcases List.mem_cons.mp inExponent with rfl | inside
      · rcases letter with rfl | rfl <;> decide
      · exact digits all c inside
    · rcases List.mem_cons.mp inExponent with rfl | later
      · rcases letter with rfl | rfl <;> decide
      · rcases List.mem_cons.mp later with rfl | inside
        · rcases sign with rfl | rfl <;> decide
        · exact digits all c inside

theorem printed_escapeUnit (n : Nat) : Printed (escapeUnit n) := by
  have lower (m : Nat) : 0x20 ≤ hexLower m := by
    unfold hexLower
    split <;> omega
  unfold escapeUnit Printed
  repeat (split; · decide)
  split
  · intro m member
    simp only [List.mem_cons, List.not_mem_nil, or_false] at member
    rcases member with rfl | rfl | rfl | rfl | rfl | rfl
    · decide
    · decide
    · decide
    · decide
    · exact lower _
    · exact lower _
  · next plain =>
    intro m member
    rw [List.mem_singleton.mp member]
    exact Nat.le_of_not_lt plain

theorem printed_dumpsString (s : Str) : Printed (dumpsString s) := by
  intro n member
  simp only [dumpsString, List.mem_cons, List.mem_append, List.mem_flatMap, List.not_mem_nil,
    or_false] at member
  rcases member with rfl | ⟨m, -, inside⟩ | rfl
  · decide
  · exact printed_escapeUnit m n inside
  · decide

theorem printed_joined {opens closes : Nat} (bracket : 0x20 ≤ opens ∧ 0x20 ≤ closes)
    {texts : List Str} (each : ∀ t ∈ texts, Printed t) : Printed (joined opens closes texts) := by
  have body : Printed (List.intercalate [0x2c] texts) := by
    induction texts with
    | nil => exact fun _ member => by cases member
    | cons t texts ih =>
      have first := each t List.mem_cons_self
      have rest := ih fun other member => each other (List.mem_cons_of_mem t member)
      cases texts with
      | nil => simpa using first
      | cons next texts =>
        intro n member
        simp only [List.intercalate_cons_cons, List.append_assoc, List.mem_append,
          List.mem_singleton] at member
        rcases member with inFirst | rfl | later
        · exact first n inFirst
        · decide
        · exact rest n later
  intro n member
  simp only [joined, List.mem_cons, List.mem_append, List.not_mem_nil, or_false] at member
  rcases member with rfl | inside | rfl
  · exact bracket.1
  · exact body n inside
  · exact bracket.2

theorem exists_of_mem_mapM {ι ε : Type} {f : ι → Except ε Str} {items : List ι} {texts : List Str}
    (written : items.mapM f = .ok texts) {t : Str} (member : t ∈ texts) :
    ∃ item ∈ items, f item = .ok t := by
  obtain ⟨pairs, rfl, values, all⟩ := pairs_of_mapM (g := id) (P := fun t i => f i = .ok t) written
    fun _ _ _ one => one
  rw [List.map_id] at values
  obtain ⟨pair, inside, rfl⟩ := List.mem_map.mp member
  exact ⟨pair.2, values ▸ List.mem_map_of_mem inside, all pair inside⟩

theorem printed_dumps {floatRepr : FloatRepr} (floats : WritesFloats floatRepr) {v : Value}
    (loaded : Loaded v) {encoder : Nat} {t : Str} (written : dumps floatRepr encoder v = .ok t) :
    Printed t := by
  -- Induction on the value: the separators and brackets are printable, and so is every part.
  induction loaded generalizing encoder t with
  | null =>
    simp only [dumps] at written
    cases written
    show ∀ n ∈ str "null", 0x20 ≤ n
    decide
  | bool b =>
    simp only [dumps] at written
    cases written
    cases b
    · show ∀ n ∈ str "false", 0x20 ≤ n
      decide
    · show ∀ n ∈ str "true", 0x20 ≤ n
      decide
  | int n short =>
    simp only [dumps] at written
    split at written
    · cases written
    · cases written
      exact printed_chars (number_printed (isNumber_int n))
  | float literal number =>
    simp only [dumps] at written
    cases written
    obtain ⟨text, same, shape⟩ := floats literal number
    rw [same]
    apply printed_chars
    rcases shape with finite | rfl | rfl
    · exact number_printed finite
    · simp
    · simp
  | string s python =>
    simp only [dumps] at written
    cases written
    exact printed_dumpsString s
  | list items each ih =>
    obtain ⟨encoder, texts, rfl, inner, rfl⟩ := dumps_list_ok written
    refine printed_joined (by decide) fun t member => ?_
    obtain ⟨item, inside, one⟩ := exists_of_mem_mapM inner member
    exact ih item inside one
  | dict members distinct keys each ih =>
    obtain ⟨encoder, texts, rfl, inner, rfl⟩ := dumps_dict_ok written
    refine printed_joined (by decide) fun line member => ?_
    obtain ⟨item, inside, one⟩ := exists_of_mem_mapM inner member
    obtain ⟨t, value, rfl⟩ := dumpsMember_ok one
    -- A member is its key, a colon and its value.
    intro n unit
    simp only [List.mem_append, List.mem_singleton] at unit
    rcases unit with (inKey | rfl) | inValue
    · exact printed_dumpsString _ n inKey
    · decide
    · exact ih item inside value n inValue

/-- So a byte of the payload of a frame is none of a small length. -/
theorem printed_bytes {t : Str} (text : IsText t) (printed : Printed t) :
    ∀ b ∈ utf8 (characters t), 0x20 ≤ b.toNat := by
  intro b member
  by_cases small : b < 128
  · obtain ⟨c, inside, same⟩ := exists_of_mem_utf8 member small
    obtain ⟨n, unit, rfl⟩ := List.mem_map.mp inside
    obtain ⟨d, rfl⟩ := text n unit
    rw [Char.ofNat_toNat] at same
    have high := printed _ unit
    rw [← same]
    exact high
  · have large : (128 : UInt8).toNat ≤ b.toNat := UInt8.not_lt.mp small
    exact Nat.le_trans (by decide) large

end Printed

section Frames

/-- How the payload of every reply starts. -/
def StartsReply (payload : List UInt8) : Prop :=
  ∃ tail, payload = utf8 "\x7b\"protocolVersion\":2,".toList ++ tail

/-- A frame with a payload that starts so and in which no byte is small. -/
structure IsReply (frame : List UInt8) : Prop where
  payload : ∃ payload, frame = packHeader payload.length ++ payload ∧
    payload.length ≤ maximumPayloadSize ∧ StartsReply payload ∧ ∀ b ∈ payload, 0x20 ≤ b.toNat

theorem dispatch_loaded {python : Interpreter} {around : Surroundings} (sound : around.IsPython)
    {operation : Operation} {response : List (Str × Value)}
    (dispatched : dispatch python around operation = .ok response) : Loaded (.dict response) := by
  have absent (code : String) (message : String) :
      Loaded (.dict (failure code (str message) none)) :=
    failure_loaded code (isPython_str message) fun _ absent => by cases absent
  have session (dispatched : dispatchSession python around operation = .ok response) :
      Loaded (.dict response) := by
    rw [dispatchSession] at dispatched
    split at dispatched
    · cases dispatched
      exact absent _ _
    · cases dispatched
    · next called =>
      rcases relay_ok dispatched with ⟨rfl, -⟩ | ⟨rfl, -⟩
      · exact loaded_of_call called
      · exact absent _ _
  cases operation with
  | status => exact status_loaded sound dispatched
  | shutdown => exact dispatchPower_loaded sound dispatched
  | reboot => exact dispatchPower_loaded sound dispatched
  | mountSharedDirectory => exact dispatchMount_loaded sound dispatched
  | readClipboard => exact session dispatched
  | writeClipboard text => exact session dispatched
  | resizeDisplay width height => exact session dispatched

theorem starts_envelope {floatRepr : FloatRepr} {encoder : Nat} {id : String}
    {response : List (Str × Value)} {t : Str}
    (dumped : dumps floatRepr encoder (.dict (envelope id response)) = .ok t) :
    ∃ tail, t = str "\x7b\"protocolVersion\":2," ++ tail := by
  obtain ⟨_, texts, -, inner, rfl⟩ := dumps_dict_ok dumped
  simp only [envelope, List.mapM_cons, List.mapM_nil] at inner
  obtain ⟨first, version, inner⟩ := bind_ok_iff.mp inner
  obtain ⟨others, rest, inner⟩ := bind_ok_iff.mp inner
  obtain ⟨second, -, rest⟩ := bind_ok_iff.mp rest
  obtain ⟨third, -, rest⟩ := bind_ok_iff.mp rest
  obtain ⟨number, value, rfl⟩ := dumpsMember_ok version
  have short : ¬ maxStrDigits < (Nat.toDigits 10 protocolVersion.natAbs).length := by decide
  simp only [dumps, if_neg short] at value
  cases value
  cases inner
  cases rest
  exact ⟨_, rfl⟩

/-- The frame that answers a request of version 2, and what the host can take it for. -/
theorem answer_reply {python : Interpreter} (foundation : Foundation)
    (floats : WritesFloats python.floatRepr) {around : Surroundings} (sound : around.IsPython)
    {request : Request} (current : request.legacy = false) {id : String}
    (identified : request.requestID = some (str id)) {frame : List UInt8}
    (answered : answer python around request = .ok frame) :
    IsReply frame ∧ ∀ envelope, decodeFrame foundation frame = .ok envelope →
      envelope.protocolVersion = 2 ∧ envelope.requestID = some id := by
  obtain ⟨response, dispatched, encoded⟩ := answer_envelope current identified answered
  -- The response is one Python could have loaded, so the text is that of a textual value.
  have loaded := loaded_envelope id (dispatch_loaded sound dispatched)
  obtain ⟨t, payload, dumped, text, small, same⟩ := encodeFrame_ok encoded
  have unbroken : ¬ Broken t := by
    rw [← encode?_eq_none, text]
    exact fun none => by cases none
  obtain ⟨isText, decides⟩ := crosses (textual_of_loaded floats loaded dumped unbroken) dumped
  rw [encode?_of_isText isText] at text
  cases text
  constructor
  · refine ⟨_, same, small, ?_, printed_bytes isText (printed_dumps floats loaded dumped)⟩
    obtain ⟨tail, rfl⟩ := starts_envelope dumped
    refine ⟨utf8 (characters tail), ?_⟩
    rw [List.map_append, utf8_append, ← characters, characters_str]
    rfl
  · intro decoded read
    rw [decodeFrame_dumped foundation dumped isText encoded] at read
    -- The host reads the text back to the value, or gives up at its nesting limit.
    rcases decides foundation.nesting with ⟨-, yields⟩ | ⟨-, fails⟩
    · rw [parse_of_yields foundation yields] at read
      have opened : (attempt (.ok (json python.floatRepr (.dict (envelope id response)))) >>=
          decodeResponseEnvelope foundation) =
          (decodeResponse foundation (json python.floatRepr (.dict response))).map fun decoded =>
            { protocolVersion := 2, requestID := some id, response := decoded } :=
        decodeResponseEnvelope_envelope foundation id response
      rw [opened] at read
      cases inner : decodeResponse foundation (json python.floatRepr (.dict response)) with
      | error e => simp [inner, Except.map] at read
      | ok decoded =>
        simp only [inner, Except.map, Except.ok.injEq] at read
        subst read
        exact ⟨rfl, rfl⟩
    · rw [parse_fails foundation fails] at read
      cases read

end Frames

section Offsets

/-- A place in the replies lies in one of them. -/
theorem locate_reply {frames : List (List UInt8)} {before tail : List UInt8}
    (same : frames.flatten = before ++ tail) :
    tail = [] ∨ ∃ frame ∈ frames, ∃ front back rest,
      frame = front ++ back ∧ back ≠ [] ∧ tail = back ++ rest := by
  induction frames generalizing before with
  | nil => exact .inl (List.append_eq_nil_iff.mp same.symm).2
  | cons frame frames ih =>
    have later (before : List UInt8) (same : frames.flatten = before ++ tail) :
        tail = [] ∨ ∃ other ∈ frame :: frames, ∃ front back rest,
          other = front ++ back ∧ back ≠ [] ∧ tail = back ++ rest := by
      rcases ih same with empty | ⟨other, member, found⟩
      · exact .inl empty
      · exact .inr ⟨other, List.mem_cons_of_mem frame member, found⟩
    rw [List.flatten_cons] at same
    rcases List.append_eq_append_iff.mp same with ⟨middle, rfl, rest⟩ | ⟨middle, here, rfl⟩
    · exact later middle rest
    · by_cases empty : middle = []
      · subst empty
        exact later [] rfl
      · exact .inr ⟨frame, List.mem_cons_self, before, middle, _, here, empty, rfl⟩

/-- What is decoded was parsed. -/
theorem parsed_of_decodeFrame {foundation : Foundation} {header payload : List UInt8}
    (four : header.length = 4) {envelope : GuestAgentResponseEnvelope}
    (decoded : decodeFrame foundation (header ++ payload) = .ok envelope) :
    ∃ text v, decodeUTF8 payload = some text ∧ foundation.parse text = .ok v := by
  have back : (header ++ payload).drop 4 = payload := List.drop_left' four
  unfold decodeFrame at decoded
  split at decoded
  · cases decoded
  dsimp only at decoded
  split at decoded
  · cases decoded
  split at decoded
  · cases decoded
  rw [back, decodeJSON] at decoded
  cases found : decodeUTF8 payload with
  | none => simp [found] at decoded
  | some text =>
    cases parsed : foundation.parse text with
    | ok v => exact ⟨text, v, rfl, parsed⟩
    | error e => simp [found, parsed, attempt, mapError_error, bind, Except.bind] at decoded

/-- A text that starts with a string and goes on is no value. -/
theorem parse_string {foundation : Foundation} {s : Str} (text : IsText s) {c : Char}
    (mark : isSpace c = false) (more : List Char) (v : JSON) :
    foundation.parse ('"' :: ((s.flatMap escapeUnit).map Char.ofNat ++ '"' :: c :: more)) ≠ .ok v := by
  have quote : skipSpace ('"' :: ((s.flatMap escapeUnit).map Char.ofNat ++ '"' :: c :: more)) =
      '"' :: ((s.flatMap escapeUnit).map Char.ofNat ++ '"' :: c :: more) :=
    skipSpace_of_not (by decide)
  have scanned := scanString_dumped text (c :: more)
  simp only [Foundation.parse, quote, Swift.scanValue, scanned, Except.map, skipSpace_of_not mark]
  exact fun same => by cases same

theorem parse_letter {foundation : Foundation} (more : List Char) (v : JSON) :
    foundation.parse ('p' :: more) ≠ .ok v := by
  have letter : skipSpace ('p' :: more) = 'p' :: more := skipSpace_of_not (by decide)
  have scanned : Swift.scanValue foundation.nesting ('p' :: more) = .error .value := by
    cases foundation.nesting <;> rfl
  simp only [Foundation.parse, letter, scanned]
  exact fun same => by cases same

theorem four_of_length {header : List UInt8} (four : header.length = 4) :
    ∃ e f g h, header = [e, f, g, h] := by
  match header, four with
  | [e, f, g, h], _ => exact ⟨e, f, g, h, rfl⟩

theorem front_of_append {payload more front rest : List UInt8}
    (same : payload ++ more = front ++ rest) (long : front.length ≤ payload.length) :
    ∃ others, front ++ others = payload := by
  rcases List.append_eq_append_iff.mp same with ⟨middle, rfl, -⟩ | ⟨middle, rfl, -⟩
  · cases middle with
    | nil => exact ⟨[], by simp⟩
    | cons b middle =>
      rw [List.length_append, List.length_cons] at long
      omega
  · exact ⟨middle, rfl⟩

/-- The start of a payload, from its second, third and fourth byte on. -/
theorem utf8_versionKey :
    utf8 "\x7b\"protocolVersion\":2,".toList = 0x7b :: utf8 "\"protocolVersion\":2,".toList ∧
    utf8 "\"protocolVersion\":2,".toList =
      0x22 :: (utf8 "p".toList ++ utf8 "rotocolVersion\":2,".toList) ∧
    utf8 "p".toList = [0x70] := by decide

/-- Only from its first byte on is a reply read. -/
theorem aligned {foundation : Foundation} {frame front back rest header payload more : List UInt8}
    (reply : IsReply frame) (cut : frame = front ++ back) (nonempty : back ≠ [])
    (read : header ++ (payload ++ more) = back ++ rest) (four : header.length = 4)
    (announced : unpackHeader header = payload.length)
    (fits : payload.length ≤ maximumPayloadSize) {envelope : GuestAgentResponseEnvelope}
    (decoded : decodeFrame foundation (header ++ payload) = .ok envelope) :
    header ++ payload = frame := by
  obtain ⟨whole, same, small, ⟨tail, starts⟩, printed⟩ := reply.payload
  obtain ⟨b, c, d, packed, -⟩ := packHeader_of_small small
  obtain ⟨text, v, utf8Text, parsed⟩ := parsed_of_decodeFrame four decoded
  have encoded := decodeUTF8_eq_some.mp utf8Text
  obtain ⟨low, zero⟩ := head_of_unpackHeader four (announced ▸ fits)
  obtain ⟨second, third, fourth⟩ := utf8_versionKey
  match front, cut with
  | [], cut =>
    rw [List.nil_append] at cut
    rw [← cut, same, List.append_assoc] at read
    obtain ⟨rfl, later⟩ := List.append_inj read (by rw [four, length_packHeader])
    rw [unpackHeader_packHeader (Nat.lt_of_le_of_lt small (by decide))] at announced
    obtain ⟨rfl, -⟩ := List.append_inj later announced.symm
    exact same.symm
  | [_], cut =>
    -- The payload starts with the key of the version.
    rw [same, packed, starts] at cut
    simp only [List.cons_append, List.nil_append, List.cons.injEq] at cut
    obtain ⟨-, rfl⟩ := cut
    obtain ⟨e, f, g, h, rfl⟩ := four_of_length four
    have split : [e, f, g, h] ++ (payload ++ more) =
        [b, c, d, 0x7b] ++ (utf8 "\"protocolVersion\":2,".toList ++ (tail ++ rest)) := by
      rw [read, second]
      simp only [List.cons_append, List.nil_append, List.append_assoc]
    obtain ⟨header, later⟩ := List.append_inj split rfl
    cases header
    have long : (utf8 "\"protocolVersion\":2,".toList).length ≤ payload.length := by
      rw [← announced]
      simp only [unpackHeader, List.foldl_cons, List.foldl_nil]
      have key : (utf8 "\"protocolVersion\":2,".toList).length = 20 := by decide
      have brace : (0x7b : UInt8).toNat = 123 := rfl
      omega
    obtain ⟨others, rfl⟩ := front_of_append later long
    obtain ⟨after, rfl⟩ := starts_of_utf8_starts encoded
    have key : IsText (str "protocolVersion") := isText_str _
    exact absurd parsed (parse_string key (c := ':') (by decide) _ v)
  | [_, _], cut =>
    rw [same, packed, starts] at cut
    simp only [List.cons_append, List.nil_append, List.cons.injEq] at cut
    obtain ⟨-, -, rfl⟩ := cut
    obtain ⟨e, f, g, h, rfl⟩ := four_of_length four
    have split : [e, f, g, h] ++ (payload ++ more) =
        [c, d, 0x7b, 0x22] ++ (utf8 "p".toList ++ (utf8 "rotocolVersion\":2,".toList ++ (tail ++ rest))) := by
      rw [read, second, third]
      simp only [List.cons_append, List.nil_append, List.append_assoc]
    obtain ⟨header, later⟩ := List.append_inj split rfl
    cases header
    have long : (utf8 "p".toList).length ≤ payload.length := by
      rw [← announced]
      simp only [unpackHeader, List.foldl_cons, List.foldl_nil]
      have letter : (utf8 "p".toList).length = 1 := by decide
      have quote : (0x22 : UInt8).toNat = 34 := rfl
      omega
    obtain ⟨others, rfl⟩ := front_of_append later long
    obtain ⟨after, rfl⟩ := starts_of_utf8_starts encoded
    exact absurd parsed (parse_letter after v)
  | [_, _, _], cut =>
    -- The header ends with the first three bytes of the payload, and announces too much.
    rw [same, packed, starts] at cut
    simp only [List.cons_append, List.nil_append, List.cons.injEq] at cut
    obtain ⟨-, -, -, rfl⟩ := cut
    obtain ⟨e, f, g, h, rfl⟩ := four_of_length four
    have split : [e, f, g, h] ++ (payload ++ more) =
        [d, 0x7b, 0x22, 0x70] ++ (utf8 "rotocolVersion\":2,".toList ++ (tail ++ rest)) := by
      rw [read, second, third, fourth]
      simp only [List.cons_append, List.nil_append, List.append_assoc]
    obtain ⟨header, -⟩ := List.append_inj split rfl
    cases header
    rw [← announced] at fits
    simp only [unpackHeader, List.foldl_cons, List.foldl_nil, maximumPayloadSize] at fits
    have brace : (0x7b : UInt8).toNat = 123 := rfl
    omega
  | w :: x :: y :: z :: inner, cut =>
    -- The header starts with a byte of the payload.
    rw [same, packed] at cut
    simp only [List.cons_append, List.nil_append, List.cons.injEq] at cut
    obtain ⟨-, -, -, -, cut⟩ := cut
    obtain ⟨first, back, rfl⟩ := List.exists_cons_of_ne_nil nonempty
    rw [zero, List.cons_append, List.cons_append] at read
    have small : 0 = first := (List.cons.inj read).1
    have large := printed first (by rw [cut]; simp)
    rw [← small] at large
    exact absurd large (by decide)

end Offsets

section Calls

theorem receiveExactly_ok {count : Nat} {stream rest : Stream} {bytes : List UInt8}
    (received : receiveExactly count stream = (.ok bytes, rest)) :
    content stream = bytes ++ content rest ∧ bytes.length = count := by
  obtain ⟨used, same, length⟩ := readExactly_content count stream
  cases read : readExactly count stream with
  | mk result left =>
    rw [read] at same length
    unfold receiveExactly at received
    rw [read] at received
    cases result with
    | ok taken =>
      cases received
      obtain ⟨rfl, exact_⟩ := length bytes rfl
      exact ⟨same, exact_⟩
    | error stop =>
      cases stop with
      | waiting => cases received
      | raised e => cases e <;> cases received

/-- What a call returns was decoded from the first bytes it met, and carries its identifier. -/
theorem receiveResponse_ok {foundation : Foundation} {requestID : Option String}
    {stream rest : Stream} {response : GuestAgentResponse}
    (received : receiveResponse foundation requestID stream = (.ok response, rest)) :
    ∃ header payload left envelope, content stream = header ++ (payload ++ left) ∧
      header.length = 4 ∧ unpackHeader header = payload.length ∧
      payload.length ≤ maximumPayloadSize ∧
      decodeFrame foundation (header ++ payload) = .ok envelope ∧ envelope.response = response ∧
      (2 ≤ envelope.protocolVersion → envelope.requestID = requestID) := by
  -- Four bytes of header, then as many bytes as it announces.
  obtain ⟨header, middle, first, received⟩ := bind_eq_ok.mp received
  obtain ⟨front, four⟩ := receiveExactly_ok first
  split at received
  · cases received
  · next fits =>
    obtain ⟨payload, last, second, received⟩ := bind_eq_ok.mp received
    obtain ⟨back, length⟩ := receiveExactly_ok second
    obtain ⟨envelope, after, decoded, received⟩ := bind_eq_ok.mp received
    cases outcome : decodeFrame foundation (header ++ payload) with
    | error e =>
      rw [outcome] at decoded
      cases decoded
    | ok other =>
      rw [outcome] at decoded
      cases decoded
      refine ⟨header, payload, content last, envelope, by rw [front, back], four, length.symm,
        length ▸ Nat.le_of_not_lt fits, outcome, ?_⟩
      -- What is left are the checks of the version and of the request's name.
      split at received
      · cases received
      split at received
      · cases received
      · next mine =>
        split at received
        · cases received
        · cases received
          refine ⟨rfl, fun current => Classical.byContradiction fun other => mine ⟨current, other⟩⟩

theorem exists_of_run_ok {foundation : Foundation} {call : Call} {response : GuestAgentResponse}
    (returned : (call.run foundation).1 = .ok response) :
    ∃ rest, receiveResponse foundation (some call.requestID) call.arrivals =
      (.ok response, rest) := by
  unfold Call.run at returned
  split at returned
  · cases returned
  · split at returned
    · next received =>
      cases outcome : receiveResponse foundation (some call.requestID) call.arrivals with
      | mk result rest =>
        rw [outcome] at returned
        cases returned
        exact ⟨rest, rfl⟩
    · cases returned

/-- Each call meets bytes from somewhere in the replies. -/
theorem Exchanges.met {foundation : Foundation} {replies : List UInt8} {calls : List Call}
    {outcomes : List (Except RequestError GuestAgentResponse)}
    (exchanged : Exchanges foundation replies calls outcomes) :
    ∀ pair ∈ calls.zip outcomes, pair.2 = (pair.1.run foundation).1 ∧
      ∃ before tail, replies = before ++ tail ∧ content pair.1.arrivals <+: tail := by
  induction exchanged with
  | done => exact fun _ member => by cases member
  | @call replies call calls outcomes arrived _ ih =>
    intro pair member
    rcases List.mem_cons.mp member with rfl | later
    · exact ⟨rfl, [], replies, rfl, arrived⟩
    · obtain ⟨outcome, before, tail, same, met⟩ := ih pair later
      obtain ⟨gone, whole⟩ : ∃ gone, replies = gone ++ call.leaves foundation replies :=
        ⟨_, (List.take_append_drop _ replies).symm⟩
      refine ⟨outcome, gone ++ before, tail, ?_, met⟩
      rw [List.append_assoc, ← same]
      exact whole

/-- Every frame that a thread has written answers a request that it has dispatched. -/
def Answered (python : Interpreter) (events : List Event) (thread : Thread) : Prop :=
  ∀ frame ∈ thread.written, ∃ around request, .serve around ∈ events ∧
    request ∈ thread.dispatched ∧ answer python around request = .ok frame

theorem Answered.step {python : Interpreter} {events : List Event} {thread next : Thread}
    {event : Event} (answered : Answered python events thread) (listed : event ∈ events)
    (taken : thread.step python event = some next) : Answered python events next := by
  -- What was written stays justified while more is dispatched.
  have grows {other : Thread} (written : other.written = thread.written)
      (dispatched : ∀ request ∈ thread.dispatched, request ∈ other.dispatched) :
      Answered python events other := by
    intro frame member
    rw [written] at member
    obtain ⟨around, request, here, inside, sent⟩ := answered frame member
    exact ⟨around, request, here, dispatched request inside, sent⟩
  cases event with
  | reenter =>
    simp only [Thread.step] at taken
    split at taken
    · cases taken
      exact grows rfl fun _ inside => inside
    · cases taken
  | serve around =>
    simp only [Thread.step] at taken
    split at taken
    · unfold Thread.serve at taken
      split at taken
      · cases taken
      · cases taken
        exact grows rfl fun _ inside => inside
      · next request left received =>
        have earlier : ∀ other ∈ thread.dispatched, other ∈ thread.dispatched ++ [request] :=
          fun _ inside => List.mem_append_left _ inside
        have kept : Answered python events
            { thread with stream := left, dispatched := thread.dispatched ++ [request] } :=
          grows rfl earlier
        dsimp only at taken
        split at taken
        -- Only the new frame needs a reason, and it answers the request just received.
        · next frame sent =>
          cases taken
          intro other member
          rcases List.mem_append.mp member with before | now
          · exact kept other before
          · rw [List.mem_singleton.mp now]
            exact ⟨around, request, listed, List.mem_append_right _ List.mem_cons_self, sent⟩
        · cases taken
          exact kept
    · cases taken

theorem requestOf_envelope {call : Call} {request : Request}
    (asked : requestOf call.envelope = some request) :
    request.legacy = false ∧ request.requestID = some (str call.requestID) := by
  unfold requestOf Call.envelope at asked
  dsimp only at asked
  split at asked
  · next id operation same _ =>
    cases same
    split at asked
    · cases asked
      exact ⟨rfl, rfl⟩
    · cases asked
  · cases asked

/-- A request that the daemon has dispatched was asked by a call. -/
theorem exists_call {calls : List Call} {request : Request}
    (member : request ∈ (calls.filterMap Call.connection).filterMap Connection.request) :
    ∃ call ∈ calls, requestOf call.envelope = some request := by
  obtain ⟨connection, inside, asked⟩ := List.mem_filterMap.mp member
  obtain ⟨call, listed, connected⟩ := List.mem_filterMap.mp inside
  refine ⟨call, listed, ?_⟩
  unfold Call.connection at connected
  split at connected
  · cases connected
  · cases connected
    unfold Connection.request at asked
    split at asked
    · exact asked
    · cases asked

/-- Over every sequence of calls on one port to a daemon, wherever the calls end: a response that a
call returns is the one that the daemon has produced for the request of that call. -/
theorem replies_attributed (python : Interpreter) (foundation : Foundation)
    (floats : WritesFloats python.floatRepr) (calls : List Call)
    (distinct : (calls.map Call.requestID).Nodup) (stream : Stream)
    (arrived : content stream = sent (calls.filterMap Call.connection)) (events : List Event)
    (sound : ∀ around, .serve around ∈ events → around.IsPython) (thread : Thread)
    (served : Run (Thread.step python) { stream := stream } events thread)
    (outcomes : List (Except RequestError GuestAgentResponse))
    (exchanged : Exchanges foundation thread.written.flatten calls outcomes) :
    ∀ call response, (call, .ok response) ∈ calls.zip outcomes →
      ∃ request around reply frame, requestOf call.envelope = some request ∧
        request ∈ thread.dispatched ∧ .serve around ∈ events ∧
        dispatch python around request.operation = .ok reply ∧
        answer python around request = .ok frame ∧ frame ∈ thread.written ∧
        decodeFrame foundation frame = .ok
          { protocolVersion := 2, requestID := some call.requestID, response := response } := by
  -- Two invariants of the guest's run: it has dispatched only requests that were sent, and every
  -- frame it has written answers one of them.
  have faithful : Faithful (calls.filterMap Call.connection) thread :=
    served.keeps (fun _ _ _ faithful taken => faithful.step taken)
      ⟨[], _, rfl, List.Sublist.refl _, [], by simpa using arrived, .inl rfl⟩
  have answers : Answered python events thread :=
    served.keeps_of (V := (· ∈ events)) (fun _ _ _ answered listed taken => answered.step listed taken)
      (fun _ listed => listed) fun _ none => by cases none
  obtain ⟨gone, rest, split, sublist, -⟩ := faithful
  have asked (request : Request) (member : request ∈ thread.dispatched) :
      ∃ call ∈ calls, requestOf call.envelope = some request := by
    apply exists_call
    rw [split, List.filterMap_append]
    exact List.mem_append_left _ (sublist.subset member)
  -- Hence each frame names the call whose request it answers.
  have frames (frame : List UInt8) (member : frame ∈ thread.written) :
      ∃ around request call, .serve around ∈ events ∧ request ∈ thread.dispatched ∧
        answer python around request = .ok frame ∧ call ∈ calls ∧
        requestOf call.envelope = some request ∧ IsReply frame ∧
        ∀ envelope, decodeFrame foundation frame = .ok envelope →
          envelope.protocolVersion = 2 ∧ envelope.requestID = some call.requestID := by
    obtain ⟨around, request, listed, inside, sent⟩ := answers frame member
    obtain ⟨call, known, own⟩ := asked request inside
    obtain ⟨current, identified⟩ := requestOf_envelope own
    obtain ⟨reply, names⟩ := answer_reply foundation floats (sound around listed) current identified sent
    exact ⟨around, request, call, listed, inside, sent, known, own, reply, names⟩
  -- The host's side: what the call took for its response starts somewhere in those frames.
  intro call response member
  obtain ⟨outcome, before, tail, replies, ⟨unread, met⟩⟩ := exchanged.met _ member
  obtain ⟨left, received⟩ := exists_of_run_ok outcome.symm
  obtain ⟨header, payload, after, envelope, bytes, four, announced, fits, decoded, rfl, mine⟩ :=
    receiveResponse_ok received
  rw [bytes] at met
  rcases locate_reply replies with empty | ⟨frame, written, front, back, others, cut, nonempty, rfl⟩
  · rw [empty] at met
    obtain ⟨none, -⟩ := List.append_eq_nil_iff.mp met
    obtain ⟨none, -⟩ := List.append_eq_nil_iff.mp none
    rw [none] at four
    cases four
  · obtain ⟨around, request, other, listed, inside, sent, known, own, reply, names⟩ :=
      frames frame written
    -- It starts at the first byte of a frame, and is then that whole frame.
    have start : header ++ (payload ++ (after ++ unread)) = back ++ others := by
      rw [← met]
      simp only [List.append_assoc]
    have same := aligned reply cut nonempty start four announced fits decoded
    rw [same] at decoded
    obtain ⟨version, named⟩ := names envelope decoded
    have current : 2 ≤ envelope.protocolVersion := by
      rw [version]
      decide
    -- The frame names its own call and the one that took it, and names are distinct.
    have identified : other.requestID = call.requestID :=
      Option.some.inj (named.symm.trans (mine current))
    have listedCall : call ∈ calls := (List.of_mem_zip member).1
    have itself : other = call := List.inj_on_of_nodup_map distinct known listedCall identified
    subst itself
    obtain ⟨reply, dispatched, -⟩ := bind_ok_iff.mp sent
    refine ⟨request, around, reply, frame, own, inside, listed, dispatched, sent, written, ?_⟩
    rw [decoded, ← version, ← named]

/-- The frame of a request to shut down. -/
def shutdownFrame (id : String) : List UInt8 :=
  match encode ⟨2, some id, .shutdown⟩ with
  | .ok frame => frame
  | .error _ => []

/-- The frame that answers it. -/
def acceptedFrame (id : String) : List UInt8 :=
  match encodeFrame cpython (.dict (envelope id (accepted .shutdown))) with
  | .ok frame => frame
  | .error _ => []

/-- A call that times out two bytes into its reply; the others go with its connection. -/
def endedCall : Call :=
  { requestID := "1", request := .shutdown, written := (shutdownFrame "1").length
    arrivals := [.chunk ((acceptedFrame "1").take 2)]
    lost := (acceptedFrame "1").length - 2 }

/-- The call after it. -/
def nextCall : Call :=
  { requestID := "2", request := .shutdown, written := (shutdownFrame "2").length
    arrivals := [.chunk (acceptedFrame "2")] }

/-- The daemon has served both. -/
def servedThread : Thread :=
  { stream := []
    dispatched := [⟨.shutdown, false, some (str "1")⟩, ⟨.shutdown, false, some (str "2")⟩]
    written := [acceptedFrame "1", acceptedFrame "2"] }

set_option maxRecDepth 8000 in
theorem run_servedThread : Run (Thread.step cpython)
    { stream := [.chunk (shutdownFrame "1"), .chunk (shutdownFrame "2")] }
    [.serve plainGuest, .serve plainGuest] servedThread :=
  run_of_execute rfl

set_option maxRecDepth 8000 in
theorem run_endedCall : endedCall.run appleFoundation = (.error (.transport .timedOut), []) := by
  rfl

set_option maxRecDepth 8000 in
theorem run_nextCall : nextCall.run appleFoundation = (.ok .accepted, []) := by
  rfl

/-- No text of the plain guest comes from outside. -/
theorem plainGuest_isPython : plainGuest.IsPython := by
  have nothing : IsPython [] := fun _ none => by cases none
  constructor
  · constructor
    · exact isPython_str "arch"
    · intro entry member
      rw [List.mem_singleton.mp member]
      exact isPython_str "arch"
    · exact fun _ none => by cases none
    · exact fun _ none => by cases none
    · exact nothing
    · exact fun _ none => by cases none
    · exact fun _ none => by cases none
    · exact fun _ => nothing
    · exact fun _ none => by cases none
  · exact fun _ none => by cases none

set_option maxRecDepth 8000 in
/-- The call after one that ended inside its reply returns the response to its own request. -/
theorem replies_attributed_after_cut :
    ∃ request around reply frame, requestOf nextCall.envelope = some request ∧
      request ∈ servedThread.dispatched ∧
      .serve around ∈ [Event.serve plainGuest, .serve plainGuest] ∧
      dispatch cpython around request.operation = .ok reply ∧
      answer cpython around request = .ok frame ∧ frame ∈ servedThread.written ∧
      decodeFrame appleFoundation frame = .ok
        { protocolVersion := 2, requestID := some "2", response := .accepted } := by
  have sent : content [.chunk (shutdownFrame "1"), .chunk (shutdownFrame "2")] =
      sent ([endedCall, nextCall].filterMap Call.connection) := by rfl
  -- What the first call leaves is the second reply.
  have left : endedCall.leaves appleFoundation servedThread.written.flatten = acceptedFrame "2" := by
    rfl
  have exchanged : Exchanges appleFoundation servedThread.written.flatten [endedCall, nextCall]
      [.error (.transport .timedOut), .ok .accepted] := by
    have first : content endedCall.arrivals <+: servedThread.written.flatten := by decide +kernel
    have second : content nextCall.arrivals <+: acceptedFrame "2" := by decide +kernel
    have last : Exchanges appleFoundation (acceptedFrame "2") [nextCall]
        [(nextCall.run appleFoundation).1] := .call second (.done _)
    rw [← left, run_nextCall] at last
    have both := Exchanges.call first last
    rwa [run_endedCall] at both
  exact replies_attributed cpython appleFoundation writesFloats_cpython [endedCall, nextCall]
    (by decide) _ sent _
    (fun around listed => by
      have same : around = plainGuest := by simpa using listed
      rw [same]
      exact plainGuest_isPython)
    servedThread run_servedThread _ exchanged nextCall .accepted (by simp)

end Calls

end SimpleVM.Agent
