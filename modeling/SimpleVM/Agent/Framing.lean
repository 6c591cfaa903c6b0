import SimpleVM.Agent.FrameLimit
import SimpleVM.Agent.GuestText
import SimpleVM.Agent.Resynchronisation

/-!
# Frames between guest processes

The guest tools write frames to each other with `encode_frame` and read them with `read_frame`. What
`json.dumps` writes for a value without floats, `json.loads` reads back as that value, unless it
takes more levels than the decoder recurses; and reading takes one frame after the other off the
stream, however the transport cuts it.
-/
namespace SimpleVM.Agent

open Effects Failing Python Text
open Swift (toList_toString_int toDigits_starts digit_marks)

section Strings

theorem scanUnits_escapeUnit (c : Char) (more : List Char) :
    scanUnits ((escapeUnit c.toNat).map Char.ofNat ++ more) =
      Python.prepend c.toNat (scanUnits more) := by
  rcases escapeUnit_cases c with ⟨mark, written, letter⟩ | ⟨control, written⟩ |
    ⟨quote, backslash, printed, written⟩
  · rw [written]
    exact scanUnits_letter letter more
  · rw [written]
    exact scanUnits_unicode (hex4_hexLower control) more
  · rw [written]
    exact scanUnits_plain quote backslash printed more

/-- The characters of a dumped string are its code points again. -/
theorem scanString_reread {s : Str} (text : IsText s) (more : List Char) :
    Python.scanString ((s.flatMap escapeUnit).map Char.ofNat ++ '"' :: more) = .ok (s, more) := by
  have units : scanUnits ((s.flatMap escapeUnit).map Char.ofNat ++ '"' :: more) = .ok (s, more) := by
    induction s with
    | nil => rfl
    | cons n s ih =>
      obtain ⟨c, rfl⟩ := text n List.mem_cons_self
      rw [List.flatMap_cons, List.map_append, List.append_assoc, scanUnits_escapeUnit,
        ih fun m member => text m (List.mem_cons_of_mem _ member)]
      rfl
  have whole : joinSurrogates s = s := by
    rw [← str_hostString text]
    exact joinSurrogates_chars _
  simp only [Python.scanString, units, Except.map, whole]

end Strings

section Numbers

/-- An integer that `str()` converts is read back. -/
theorem rereads_int (hook limit : Nat) {n : Int}
    (short : (Nat.toDigits 10 n.natAbs).length ≤ maxStrDigits) :
    Yields (Python.scanValue hook limit) (toString n).toList (.int n) := by
  rw [toList_toString_int]
  split
  · next positive =>
    have same : n.natAbs = n.toNat := by omega
    rw [same] at short
    obtain ⟨d, rest, written, digit⟩ := toDigits_starts n.toNat
    obtain ⟨noSign, marks⟩ := digit_marks digit
    refine ⟨⟨d, rest, written, marks⟩, fun more ends => scanValue_number limit ?_⟩
    have read := Agent.scanUnsigned_toDigits false ends short
    have value : ((n.toNat : Nat) : Int) = n := by omega
    simp only [Bool.false_eq_true, if_false, value] at read
    rw [written] at read ⊢
    rw [List.cons_append, Python.scanNumber]
    · exact read
    · rintro others same
      exact noSign (List.cons.inj same).1
  · next negative =>
    have same : n.natAbs = (-n).toNat := by omega
    rw [same] at short
    refine ⟨⟨'-', _, rfl, by decide, by decide, by decide⟩, fun more ends => ?_⟩
    have read := Agent.scanUnsigned_toDigits true ends short
    have value : -((-n).toNat : Int) = n := by omega
    simp only [if_true, value] at read
    exact scanValue_number limit read

end Numbers

section Values

/-- A message of the guest tools: no floats, text for strings, and the keys of a dict distinct. -/
inductive Plain : Value → Prop
  | null : Plain .null
  | bool (b : Bool) : Plain (.bool b)
  | int (n : Int) : Plain (.int n)
  | string (s : Str) : IsText s → Plain (.string s)
  | list (items : List Value) : (∀ item ∈ items, Plain item) → Plain (.list items)
  | dict (members : List (Str × Value)) : (members.map Prod.fst).Nodup →
      (∀ member ∈ members, IsText member.1) → (∀ member ∈ members, Plain member.2) →
      Plain (.dict members)

/-- The levels that the decoder takes: one for each list and each dict, and in a dict `hook` more,
at its end. -/
def DecodesWithin (hook : Nat) : Nat → Value → Prop
  | 0, .list _ => False
  | 0, .dict _ => False
  | levels + 1, .list items => ∀ item ∈ items, DecodesWithin hook levels item
  | levels + 1, .dict members => hook ≤ levels ∧ ∀ member ∈ members, DecodesWithin hook levels member.2
  | _, _ => True

theorem decodesWithin_dict {hook levels : Nat} {members : List (Str × Value)} :
    DecodesWithin hook (levels + 1) (.dict members) ↔
      hook ≤ levels ∧ ∀ member ∈ members, DecodesWithin hook levels member.2 := Iff.rfl

/-- Without the levels for its hook no object is read. -/
theorem strictObject_fails {hook limit : Nat} (few : limit < hook)
    (scanned : Scan (List (Str × Value))) : ∃ e, strictObject hook limit scanned = .error e := by
  cases scanned with
  | error e => exact ⟨e, rfl⟩
  | ok found => exact ⟨.recursion, if_pos few⟩

/-- A member is read as its value is. -/
theorem rereads_member {hook limit : Nat} {key t : Str} {v : Value} {good : Prop} (keyText : IsText key)
    (decides : Decides good (Python.scanValue hook limit) (characters t) v) :
    Decides good (Python.scanMember (Python.scanValue hook limit))
      (characters (dumpsString key ++ [0x3a] ++ t)) (key, v) := by
  have written : characters (dumpsString key ++ [0x3a] ++ t) =
      '"' :: ((key.flatMap escapeUnit).map Char.ofNat ++ '"' :: ':' :: characters t) := by
    simp [characters, dumpsString]
  have colon : isSpace ':' = false := by decide
  rcases decides with ⟨holds, yields⟩ | ⟨bad, fails⟩
  · refine .inl ⟨holds, ⟨'"', _, written, by decide, by decide, by decide⟩, fun more ends => ?_⟩
    rw [written]
    simp only [List.cons_append, List.append_assoc, Python.scanMember, scanString_reread keyText,
      skipSpace_of_not colon, yields.skipSpace more, yields.reads more ends, Except.map]
  · refine .inr ⟨bad, ⟨'"', _, written, by decide, by decide, by decide⟩, fun more ends => ?_⟩
    obtain ⟨e, failed⟩ := fails.fails more ends
    refine ⟨e, ?_⟩
    rw [written]
    simp only [List.cons_append, List.append_assoc, Python.scanMember, scanString_reread keyText,
      skipSpace_of_not colon, fails.skipSpace more, failed, Except.map]

variable {floatRepr : FloatRepr}

/-- What was dumped is text, and is read back exactly when it takes no more levels than the decoder
recurses. -/
def Rereads (v : Value) (t : Str) : Prop :=
  IsText t ∧ ∀ hook decoder,
    Decides (DecodesWithin hook decoder v) (Python.scanValue hook decoder) (characters t) v

theorem rereads_word (s : String) (v : Value) {c : Char} {tail : List Char}
    (starts : s.toList = c :: tail) (front : isSpace c = false ∧ c ≠ '}' ∧ c ≠ ']')
    (atom : ∀ hook decoder, DecodesWithin hook decoder v)
    (reads : ∀ hook decoder more, Ends more →
      Python.scanValue hook decoder (s.toList ++ more) = .ok (v, more)) :
    Rereads v (str s) := by
  refine ⟨isText_str s, fun hook decoder => .inl ⟨atom hook decoder, ?_⟩⟩
  rw [characters_str]
  exact ⟨⟨c, tail, starts, front⟩, reads hook decoder⟩

theorem rereads_string {s : Str} (text : IsText s) : Rereads (.string s) (dumpsString s) := by
  have shape : characters (dumpsString s) =
      '"' :: ((s.flatMap escapeUnit).map Char.ofNat ++ ['"']) := by
    simp [characters, dumpsString]
  refine ⟨isText_dumpsString text, fun _ _ => .inl ⟨by simp [DecodesWithin],
    ⟨'"', _, shape, by decide, by decide, by decide⟩, fun more _ => ?_⟩⟩
  simp only [shape, List.cons_append, List.append_assoc, List.nil_append, Python.scanValue,
    scanString_reread text, Except.map]

/-- The items are read one by one, one level of nesting below the list. -/
theorem rereads_list {items : List Value} {texts : List Str} {encoder : Nat}
    (written : items.mapM (dumps floatRepr encoder) = .ok texts)
    (each : ∀ item ∈ items, ∀ t, dumps floatRepr encoder item = .ok t → Rereads item t) :
    Rereads (.list items) (joined 0x5b 0x5d texts) := by
  obtain ⟨pairs, rfl, values, reread⟩ := pairs_of_mapM (g := id)
    (P := fun t item => Rereads item t) written each
  rw [List.map_id] at values
  refine ⟨isText_joined '[' ']' fun pair member => (reread pair member).1, fun hook decoder => ?_⟩
  cases decoder with
  | zero =>
    have shape := characters_joined '[' ']' pairs
    refine .inr ⟨by simp [DecodesWithin], ⟨'[', _, shape, by decide, by decide, by decide⟩,
      fun more _ => ⟨.recursion, ?_⟩⟩
    rw [show joined 0x5b 0x5d (pairs.map Prod.fst) = joined '['.toNat ']'.toNat _ from rfl, shape]
    rfl
  | succ decoder =>
    have whole : Decides (∀ item ∈ pairs.map Prod.snd, DecodesWithin hook decoder item)
        (Python.scanValue hook (decoder + 1))
        (characters (joined '['.toNat ']'.toNat (pairs.map Prod.fst))) (.list items) :=
      decides_container id '[' ']' (.inr rfl) (by decide)
        (Except.map fun read => (Value.list read.1, read.2)) (fun text => rfl)
        (fun e => ⟨e, rfl⟩) (DecodesWithin hook decoder)
        (fun pair member => (reread pair member).2 hook decoder) fun more => by
          rw [values, List.map_id]
          rfl
    rw [values] at whole
    exact whole

/-- The members are read one by one; their keys are distinct, so the dict is accepted. -/
theorem rereads_dict {members : List (Str × Value)} {texts : List Str} {encoder : Nat}
    (distinct : (members.map Prod.fst).Nodup) (keys : ∀ member ∈ members, IsText member.1)
    (written : members.mapM (dumpsMember floatRepr encoder) = .ok texts)
    (each : ∀ member ∈ members, ∀ t, dumps floatRepr encoder member.2 = .ok t →
      Rereads member.2 t) :
    Rereads (.dict members) (joined 0x7b 0x7d texts) := by
  obtain ⟨pairs, rfl, values, reread⟩ := pairs_of_mapM (g := id)
    (P := fun t member => IsText t ∧ ∀ hook decoder, Decides (DecodesWithin hook decoder member.2)
      (Python.scanMember (Python.scanValue hook decoder)) (characters t) member) written
    fun member inside t one => by
      obtain ⟨text, value, rfl⟩ := dumpsMember_ok one
      obtain ⟨isText, decides⟩ := each member inside text value
      have colon : IsText [0x3a] := isText_str ":"
      have key := keys member inside
      exact ⟨((isText_dumpsString key).append colon).append isText, fun hook decoder =>
        rereads_member key (decides hook decoder)⟩
  rw [List.map_id] at values
  refine ⟨isText_joined '{' '}' fun pair member => (reread pair member).1, fun hook decoder => ?_⟩
  -- Without a level left the decoder fails at the bracket.
  cases decoder with
  | zero =>
    have shape := characters_joined '{' '}' pairs
    refine .inr ⟨by simp [DecodesWithin], ⟨'{', _, shape, by decide, by decide, by decide⟩,
      fun more _ => ⟨.recursion, ?_⟩⟩
    rw [show joined 0x7b 0x7d (pairs.map Prod.fst) = joined '{'.toNat '}'.toNat _ from rfl, shape]
    rfl
  | succ decoder =>
    rw [decodesWithin_dict]
    by_cases called : hook ≤ decoder
    · have whole : Decides (∀ member ∈ pairs.map Prod.snd, DecodesWithin hook decoder member.2)
          (Python.scanValue hook (decoder + 1))
          (characters (joined '{'.toNat '}'.toNat (pairs.map Prod.fst))) (.dict members) :=
        decides_container id '{' '}' (.inl rfl) (by decide) (strictObject hook decoder)
          (fun text => rfl) (fun e => ⟨e, rfl⟩) (fun member => DecodesWithin hook decoder member.2)
          (fun pair member => (reread pair member).2 hook decoder) fun more => by
            rw [values, List.map_id]
            simp only [strictObject, if_neg (Nat.not_lt.mpr called), if_pos distinct]
      rw [values] at whole
      rw [and_iff_right called]
      exact whole
    · have shape := characters_joined '{' '}' pairs
      refine .inr ⟨fun within => called within.1, ⟨'{', _, shape, by decide, by decide, by decide⟩,
        fun more _ => ?_⟩
      rw [show joined 0x7b 0x7d (pairs.map Prod.fst) = joined '{'.toNat '}'.toNat _ from rfl, shape]
      exact strictObject_fails (Nat.lt_of_not_le called) _

theorem rereads {v : Value} (plain : Plain v) {encoder : Nat} {t : Str}
    (written : dumps floatRepr encoder v = .ok t) : Rereads v t := by
  induction plain generalizing encoder t with
  | null =>
    simp only [dumps] at written
    cases written
    exact rereads_word "null" .null rfl (by decide) (by simp [DecodesWithin]) (by
      simp [Python.scanValue])
  | bool b =>
    simp only [dumps] at written
    cases written
    cases b with
    | true =>
      exact rereads_word "true" (.bool true) rfl (by decide) (by simp [DecodesWithin]) (by
        simp [Python.scanValue])
    | false =>
      exact rereads_word "false" (.bool false) rfl (by decide) (by simp [DecodesWithin]) (by
        simp [Python.scanValue])
  | int n =>
    simp only [dumps] at written
    split at written
    · cases written
    · next short =>
      cases written
      have yields (hook decoder : Nat) := rereads_int hook decoder (Nat.le_of_not_lt short)
      obtain ⟨c, tail, starts, front⟩ := (yields 0 0).starts
      exact rereads_word (toString n) (.int n) starts front (by simp [DecodesWithin])
        fun hook decoder => (yields hook decoder).reads
  | string s text =>
    simp only [dumps] at written
    cases written
    exact rereads_string text
  | list items each ih =>
    obtain ⟨encoder, texts, rfl, inner, rfl⟩ := dumps_list_ok written
    exact rereads_list inner fun item member t one => ih item member one
  | dict members distinct keys each ih =>
    obtain ⟨encoder, texts, rfl, inner, rfl⟩ := dumps_dict_ok written
    exact rereads_dict distinct keys inner fun member inside t one => ih member inside one

end Values

section Frames

variable {python : Interpreter}

/-- The text of a dict starts with its bracket, so it is no byte order mark. -/
theorem starts_dict {floatRepr : FloatRepr} {limit : Nat} {members : List (Str × Value)} {t : Str}
    (dumped : dumps floatRepr limit (.dict members) = .ok t) :
    ∃ tail, characters t = '{' :: tail := by
  obtain ⟨_, texts, -, -, rfl⟩ := dumps_dict_ok dumped
  exact ⟨_, rfl⟩

variable (python) in
/-- The decoder recurses as deep as the message takes. -/
def Readable (message : List (Str × Value)) : Prop :=
  DecodesWithin python.hookLevels python.decoderLimit (.dict message)

/-- A message is decoded from the payload of its frame exactly when it takes no more levels than the
decoder recurses. -/
theorem decodePayload_reread {message : List (Str × Value)} (plain : Plain (.dict message)) {t : Str}
    (dumped : dumps python.floatRepr python.encoderLimit (.dict message) = .ok t) :
    encode? t = some (utf8 (characters t)) ∧
      ((Readable python message ∧
          decodePayload python (utf8 (characters t)) = .ok message) ∨
        ¬ Readable python message ∧
          ∃ e, decodePayload python (utf8 (characters t)) = .error e) := by
  obtain ⟨isText, decides⟩ := rereads plain dumped
  refine ⟨encode?_of_isText isText, ?_⟩
  obtain ⟨tail, starts⟩ := starts_dict dumped
  have mark : ¬ (characters t).head? = some '\ufeff' := by
    rw [starts]
    exact fun same => absurd (Option.some.inj same) (by decide)
  have skipped : skipSpace (characters t) = characters t := by
    rw [starts]
    exact skipSpace_of_not (by decide)
  have nothing : Ends [] := fun _ front => by cases front
  rcases decides python.hookLevels python.decoderLimit with ⟨readable, yields⟩ | ⟨deep, fails⟩
  · have read := yields.reads [] nothing
    rw [List.append_nil] at read
    refine .inl ⟨readable, ?_⟩
    simp only [decodePayload, decodeUTF8_utf8, loads, if_neg mark, skipped, read]
    rfl
  · obtain ⟨e, failed⟩ := fails.fails [] nothing
    rw [List.append_nil] at failed
    refine .inr ⟨deep, ?_⟩
    simp only [decodePayload, decodeUTF8_utf8, loads, if_neg mark, skipped, failed]
    cases e with
    | value => exact ⟨_, rfl⟩
    | recursion => exact ⟨_, rfl⟩

/-- Each frame that was read has taken bytes off the stream. -/
theorem readFrame_shorter {stream rest : Stream} {message : List (Str × Value)}
    (read : readFrame python stream = (.ok message, rest)) :
    (content rest).length < (content stream).length := by
  rw [readFrame_run] at read
  cases payload : readPayload stream with
  | mk result middle =>
    obtain ⟨used, taken, frame⟩ := readPayload_content payload
    rw [payload] at read
    cases result with
    | error stop => cases read
    | ok raw =>
      obtain ⟨header, rfl, four, -⟩ := frame raw rfl
      have same : middle = rest := congrArg Prod.snd read
      rw [taken, same, List.length_append, List.length_append, four]
      omega

variable (python) in
/-- Reading frame after frame until an exception is raised or nothing more arrives. -/
def readUntil (stream : Stream) : List (List (Str × Value)) × Stop :=
  match _ : readFrame python stream with
  | (.ok message, rest) => (message :: (readUntil rest).1, (readUntil rest).2)
  | (.error stop, _) => ([], stop)
termination_by (content stream).length
decreasing_by all_goals exact readFrame_shorter (by assumption)

theorem readUntil_ok {stream rest : Stream} {message : List (Str × Value)}
    (read : readFrame python stream = (.ok message, rest)) :
    readUntil python stream = (message :: (readUntil python rest).1, (readUntil python rest).2) := by
  rw [readUntil]
  split
  · next same =>
    rw [read] at same
    cases same
    rfl
  · next same =>
    rw [read] at same
    cases same

theorem readUntil_error {stream rest : Stream} {stop : Stop}
    (read : readFrame python stream = (.error stop, rest)) :
    readUntil python stream = ([], stop) := by
  rw [readUntil]
  split
  · next same =>
    rw [read] at same
    cases same
  · next same =>
    rw [read] at same
    cases same
    rfl

/-- One message comes off the front of the stream, or, nested too deep, raises there. -/
theorem readFrame_reread {message : List (Str × Value)} (plain : Plain (.dict message))
    {frame : List UInt8} (written : encodeFrame python (.dict message) = .ok frame)
    {chunks : List (List UInt8)} (filled : ∀ chunk ∈ chunks, chunk ≠ []) {more : List UInt8}
    (arrived : chunks.flatten = frame ++ more) (after : Stream) :
    ∃ left : List (List UInt8), (∀ chunk ∈ left, chunk ≠ []) ∧ left.flatten = more ∧
      (Readable python message ∧
          readFrame python (chunks.map .chunk ++ after) = (.ok message, left.map .chunk ++ after) ∨
        ¬ Readable python message ∧
          ∃ e, readFrame python (chunks.map .chunk ++ after) =
            (.error (.raised e), left.map .chunk ++ after)) := by
  obtain ⟨t, payload, dumped, encoded, fits, rfl⟩ := encodeFrame_ok written
  obtain ⟨encodes, outcome⟩ := decodePayload_reread plain dumped
  cases encodes.symm.trans encoded
  obtain ⟨tail, starts⟩ := starts_dict dumped
  have nonempty : utf8 (characters t) ≠ [] := by
    rw [starts]
    simp [utf8]
  obtain ⟨left, leftFilled, leftFlat, payload⟩ := readPayload_front nonempty fits filled arrived after
  refine ⟨left, leftFilled, leftFlat, ?_⟩
  rw [readFrame_run, payload]
  dsimp only
  rcases outcome with ⟨readable, decoded⟩ | ⟨deep, e, failed⟩
  · exact .inl ⟨readable, by rw [decoded]; rfl⟩
  · exact .inr ⟨deep, e, by rw [failed]; rfl⟩

variable (python) in
/-- The messages come back, in order and followed by the end of the stream, exactly when none takes
more levels than the decoder recurses. -/
theorem frames_reread_iff (messages : List (List (Str × Value)))
    (plain : ∀ message ∈ messages, Plain (.dict message)) (frames : List (List UInt8))
    (written : messages.mapM (fun message => encodeFrame python (.dict message)) = .ok frames)
    (chunks : List (List UInt8)) (filled : ∀ chunk ∈ chunks, chunk ≠ [])
    (arrived : chunks.flatten = frames.flatten) :
    readUntil python (chunks.map .chunk ++ [.chunk []]) = (messages, .raised .eof) ↔
      ∀ message ∈ messages, Readable python message := by
  -- Induction on the messages: the first frame is read whole, and what is left are the others.
  induction messages generalizing frames chunks with
  | nil =>
    cases written
    have empty : chunks = [] := by
      cases chunks with
      | nil => rfl
      | cons chunk chunks =>
        have nothing := (List.append_eq_nil_iff.mp arrived).1
        exact absurd nothing (filled chunk List.mem_cons_self)
    subst empty
    have ended : readFrame python [.chunk []] = (.error (.raised .eof), []) := rfl
    simp [readUntil_error ended]
  | cons message messages ih =>
    rw [List.mapM_cons] at written
    obtain ⟨frame, first, written⟩ := bind_ok_iff.mp written
    obtain ⟨others, rest, whole⟩ := bind_ok_iff.mp written
    cases whole
    have plainFirst := plain message List.mem_cons_self
    obtain ⟨left, leftFilled, leftFlat, outcome⟩ :=
      readFrame_reread plainFirst first filled arrived [.chunk []]
    have later := ih (fun other member => plain other (List.mem_cons_of_mem message member)) others
      rest left leftFilled leftFlat
    rw [List.forall_mem_cons]
    -- A message that nests too deep ends the loop, so the list is short.
    rcases outcome with ⟨readable, read⟩ | ⟨deep, e, failed⟩
    · rw [readUntil_ok read, ← later]
      constructor
      · intro all
        have same := Prod.mk.inj all
        exact ⟨readable, Prod.ext (List.cons.inj same.1).2 same.2⟩
      · rintro ⟨-, all⟩
        rw [all]
    · rw [readUntil_error failed]
      refine iff_of_false (fun same => ?_) fun readable => deep readable.1
      cases (Prod.mk.inj same).1

/-- A status request and an empty message, in two chunks that cut the first frame. -/
theorem frames_reread_status :
    ∃ frames, [[(str "type", Value.string (str "status"))], []].mapM
        (fun message => encodeFrame cpython (.dict message)) = .ok frames ∧
      readUntil cpython [.chunk (frames.flatten.take 3), .chunk (frames.flatten.drop 3), .chunk []] =
        ([[(str "type", .string (str "status"))], []], .raised .eof) := by
  have plain : ∀ message ∈ [[(str "type", Value.string (str "status"))], []],
      Plain (.dict message) := by
    intro message member
    simp only [List.mem_cons, List.not_mem_nil, or_false] at member
    rcases member with rfl | rfl
    · refine .dict _ (by decide) (fun entry inside => ?_) fun entry inside => ?_
      · rw [List.mem_singleton.mp inside]
        exact isText_str "type"
      · rw [List.mem_singleton.mp inside]
        exact .string _ (isText_str "status")
    · exact .dict [] List.nodup_nil (fun _ inside => by cases inside) fun _ inside => by cases inside
  have readable : ∀ message ∈ [[(str "type", Value.string (str "status"))], []],
      Readable cpython message := by
    intro message member
    simp only [List.mem_cons, List.not_mem_nil, or_false] at member
    rcases member with rfl | rfl
    · refine ⟨by decide, fun entry inside => ?_⟩
      rw [List.mem_singleton.mp inside]
      exact trivial
    · exact ⟨by decide, fun _ inside => by cases inside⟩
  refine ⟨_, rfl, ?_⟩
  exact (frames_reread_iff cpython _ plain _ rfl [_, _] (by decide) (by simp)).mpr readable

section Deep

/-- So many dicts in a dict. -/
def nested : Nat → List (Str × Value)
  | 0 => []
  | n + 1 => [(str "a", .dict (nested n))]

theorem plain_nested (n : Nat) : Plain (.dict (nested n)) := by
  induction n with
  | zero =>
    exact .dict [] List.nodup_nil (fun _ inside => by cases inside) fun _ inside => by cases inside
  | succ n ih =>
    refine .dict _ (by simp [nested]) (fun entry inside => ?_) fun entry inside => ?_
    · rw [List.mem_singleton.mp inside]
      exact isText_str "a"
    · rw [List.mem_singleton.mp inside]
      exact ih

theorem decodesWithin_nested {hook n limit : Nat} :
    DecodesWithin hook limit (.dict (nested n)) ↔ n + hook < limit := by
  induction n generalizing limit with
  | zero =>
    cases limit with
    | zero => simp [DecodesWithin]
    | succ limit =>
      rw [decodesWithin_dict, Nat.zero_add, Nat.lt_succ_iff]
      exact and_iff_left fun _ inside => by cases inside
  | succ n ih =>
    cases limit with
    | zero => simp [DecodesWithin]
    | succ limit =>
      simp only [decodesWithin_dict, nested, List.mem_singleton, forall_eq, ih]
      omega

/-- Each dict around takes six bytes. -/
theorem dumps_nested (floatRepr : FloatRepr) {n limit : Nat} (nests : n < limit) :
    ∃ t, dumps floatRepr limit (.dict (nested n)) = .ok t ∧ Encodes t (6 * n + 2) := by
  induction n generalizing limit with
  | zero =>
    obtain ⟨limit, rfl⟩ := Nat.exists_eq_add_of_lt nests
    exact ⟨str "\x7b\x7d", by simp [nested, dumps_dict, joined]; rfl, _, rfl, rfl⟩
  | succ n ih =>
    obtain ⟨limit, rfl⟩ := Nat.exists_eq_add_of_le' (Nat.le_trans (Nat.le_add_left 1 n)
      (Nat.le_of_lt nests))
    obtain ⟨t, inner, encodes⟩ := ih (Nat.lt_of_succ_lt_succ nests)
    have start : Encodes (str "\x7b\"a\":") 5 := ⟨_, rfl, rfl⟩
    have close : Encodes (str "\x7d") 1 := ⟨_, rfl, rfl⟩
    have sum : 6 * (n + 1) + 2 = 5 + (6 * n + 2 + 1) := by omega
    refine ⟨str "\x7b\"a\":" ++ (t ++ str "\x7d"), ?_, ?_⟩
    · have written : dumps floatRepr (limit + 1) (.dict (nested (n + 1))) =
          .ok (joined 0x7b 0x7d [dumpsString (str "a") ++ [0x3a] ++ t]) := by
        rw [nested, dumps_dict, List.mapM_cons, dumpsMember, inner, List.mapM_nil]
        rfl
      rw [written, joined, List.intercalate_singleton, List.append_assoc]
      rfl
    · rw [sum]
      exact start.append (encodes.append close)

/-- The deepest message that can be written cannot be read: at the end of the innermost dict there
is no level left for the hook. -/
theorem deepest_message_lost :
    ∃ frame, encodeFrame cpython (.dict (nested 999)) = .ok frame ∧
      readUntil cpython [.chunk frame, .chunk []] ≠ ([nested 999], .raised .eof) := by
  obtain ⟨t, dumped, encodes⟩ := dumps_nested cpython.floatRepr
    (show 999 < cpython.encoderLimit by decide)
  obtain ⟨frame, written⟩ := (encodeFrame_iff dumped encodes).mpr (by decide)
  refine ⟨frame, written, fun read => ?_⟩
  have filled : ∀ chunk ∈ [frame], chunk ≠ [] := by
    obtain ⟨_, payload, -, -, -, rfl⟩ := encodeFrame_ok written
    intro chunk member
    rw [List.mem_singleton.mp member]
    exact List.cons_ne_nil _ _
  obtain ⟨left, -, -, outcome⟩ := readFrame_reread (plain_nested 999) written filled
    (show [frame].flatten = frame ++ [] by simp) [.chunk []]
  rcases outcome with ⟨readable, -⟩ | ⟨-, e, failed⟩
  · exact absurd (decodesWithin_nested.mp readable) (by decide)
  · have raised : readUntil cpython [.chunk frame, .chunk []] = ([], .raised e) :=
      readUntil_error failed
    rw [raised] at read
    cases read

end Deep

end Frames

end SimpleVM.Agent
