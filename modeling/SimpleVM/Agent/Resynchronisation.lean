import SimpleVM.Agent.Crossing
import SimpleVM.Effects.Result
import SimpleVM.Transition.Run

/-!
# No injected requests

The host opens one connection per request on one byte stream, and a connection may end anywhere
in its frame. The daemon then takes what follows for the rest of that frame and goes on at some
offset of a later one. Here no such offset yields a request: a plausible length starts with a zero
byte, which only headers contain, and a payload that does not start where the host's payload
starts is no JSON object that the guest accepts.
-/
namespace SimpleVM.Agent

open Effects Failing Python Text Transition
open Swift (shortEscape escape encodeString encodeInt encodeMember encodeObject encodeArray)

section Texts

variable {hook limit : Nat} {whole : List Char} {members expected : List (Str × Value)}

/-- How the text of every envelope starts. -/
def StartsEnvelope (text : List Char) : Prop := ∃ tail, text = '{' :: '"' :: 'p' :: 'r' :: tail

/-- Blanks before an object do not matter. -/
theorem loads_blank {c : Char} {text : List Char} (space : isSpace c = true)
    (loaded : loads hook limit (c :: text) = .ok (.dict members)) :
    loads hook limit text = .ok (.dict members) := by
  obtain ⟨tail, rest, skipped, scanned, blank⟩ := loads_dict loaded
  have same : skipSpace (c :: text) = skipSpace text := by
    simp only [skipSpace, List.dropWhile_cons, space, if_true]
  rw [same] at skipped
  have mark : ¬ text.head? = some '\ufeff' := by
    intro first
    cases text with
    | nil => cases first
    | cons d text =>
      cases first
      rw [skipSpace_of_not (show isSpace '\ufeff' = false by decide)] at skipped
      cases skipped
  simp only [loads, if_neg mark, skipped, scanned, blank, List.isEmpty_nil, if_true]

/-- Cutting an object short or adding to it leaves no object: a prefix of an object that loads
is the whole of it. -/
theorem eq_of_prefix (starts : StartsEnvelope whole)
    (complete : scanValue hook limit whole = .ok (.dict expected, [])) {text : List Char}
    (cut : text <+: whole) (loaded : loads hook limit text = .ok (.dict members)) :
    text = whole ∧ members = expected := by
  obtain ⟨tail, rest, skipped, scanned, -⟩ := loads_dict loaded
  have front : text = '{' :: tail := by
    obtain ⟨body, rfl⟩ := starts
    cases text with
    | nil => cases skipped
    | cons c text =>
      obtain ⟨rfl, -⟩ := List.cons_prefix_cons.mp cut
      rwa [skipSpace_of_not (show isSpace '{' = false by decide)] at skipped
  subst front
  obtain ⟨more, joined⟩ := cut
  have extended := scanValue_object_append scanned more
  rw [joined, complete] at extended
  have ends := congrArg Prod.snd (Except.ok.inj extended)
  have value := congrArg Prod.fst (Except.ok.inj extended)
  have nothing := (List.append_eq_nil_iff.mp ends.symm).2
  subst nothing
  cases value
  exact ⟨by simpa using joined, rfl⟩

theorem scanElements_first {close : Char} {α : Type} {element : List Char → Scan α} {fuel : Nat}
    {text rest : List Char} {items : List α}
    (scanned : scanElements close element fuel text = .ok (items, rest)) :
    ∃ first tail, element text = .ok (first, tail) := by
  cases fuel with
  | zero => cases scanned
  | succ fuel =>
    cases read : element text with
    | error e => simp [scanElements, read] at scanned
    | ok found => exact ⟨found.1, found.2, rfl⟩

/-- After the bracket of an object comes its end or the quote of a key. -/
theorem scanObject_cases {tail rest : List Char} {v : Value}
    (scanned : scanValue hook limit ('{' :: tail) = .ok (v, rest)) :
    (∃ body, skipSpace tail = '}' :: body ∧ v = .dict []) ∨
    ∃ body key text after, skipSpace tail = '"' :: body ∧ scanString body = .ok (key, text) ∧
      skipSpace text = ':' :: after := by
  cases limit with
  | zero => cases scanned
  | succ limit =>
    simp only [scanValue] at scanned
    obtain ⟨members, inside, rfl, -⟩ := strictObject_ok scanned
    unfold scanContainer at inside
    split at inside
    · cases inside
    · next c body found =>
      split at inside
      · next close =>
        subst close
        cases inside
        exact .inl ⟨_, found, rfl⟩
      -- Otherwise a member comes first, and its key is a string before a colon.
      · cases read : scanElements '}' (scanMember (scanValue hook limit)) (c :: body).length
            (c :: body) with
        | error e =>
          rw [read] at inside
          cases inside
        | ok items =>
          obtain ⟨first, after, member⟩ := scanElements_first read
          unfold scanMember at member
          split at member
          · next text same =>
            cases same
            cases key : scanString body with
            | error e =>
              rw [key] at member
              cases member
            | ok read =>
              simp only [key] at member
              split at member
              · next colon => exact .inr ⟨body, read.1, read.2, _, found, key, colon⟩
              · cases member
          · cases member

/-- Two brackets in a row open no object. -/
theorem scanObject_bracket {body rest : List Char} {v : Value} :
    scanValue hook limit ('{' :: '{' :: body) ≠ .ok (v, rest) := by
  intro scanned
  have plain : skipSpace ('{' :: body) = '{' :: body := skipSpace_of_not (by decide)
  rcases scanObject_cases scanned with ⟨_, skipped, -⟩ | ⟨_, _, _, _, skipped, -⟩
  all_goals
    rw [plain] at skipped
    cases skipped

theorem scanObject_prefix (starts : StartsEnvelope whole) {text rest : List Char} {v : Value}
    (cut : text <+: whole) : scanValue hook limit ('{' :: text) ≠ .ok (v, rest) := by
  obtain ⟨body, rfl⟩ := starts
  cases text with
  | nil =>
    intro scanned
    rcases scanObject_cases scanned with ⟨_, skipped, -⟩ | ⟨_, _, _, _, skipped, -⟩ <;>
      cases skipped
  | cons c text =>
    obtain ⟨rfl, -⟩ := List.cons_prefix_cons.mp cut
    exact scanObject_bracket

/-- A bracket and one more character before the start of an envelope make at most the empty
object. -/
theorem scanObject_stray (starts : StartsEnvelope whole) {c : Char} {text rest : List Char}
    {v : Value} (cut : text <+: whole)
    (scanned : scanValue hook limit ('{' :: c :: text) = .ok (v, rest)) : v = .dict [] := by
  obtain ⟨body, rfl⟩ := starts
  by_cases space : isSpace c = true
  · have skips : skipSpace (c :: text) = skipSpace text := by
      simp only [skipSpace, List.dropWhile_cons, space, if_true]
    cases text with
    | nil =>
      rcases scanObject_cases scanned with ⟨_, skipped, -⟩ | ⟨_, _, _, _, skipped, -⟩ <;>
      · rw [skips] at skipped
        cases skipped
    | cons d text =>
      obtain ⟨rfl, -⟩ := List.cons_prefix_cons.mp cut
      have plain : skipSpace ('{' :: text) = '{' :: text := skipSpace_of_not (by decide)
      rcases scanObject_cases scanned with ⟨_, skipped, -⟩ | ⟨_, _, _, _, skipped, -⟩ <;>
      · rw [skips, plain] at skipped
        cases skipped
  · have plain : skipSpace (c :: text) = c :: text := skipSpace_of_not (by simpa using space)
    rcases scanObject_cases scanned with ⟨_, -, empty⟩ | ⟨tail, key, after, _, skipped, read, colon⟩
    · exact empty
    · rw [plain] at skipped
      cases skipped
      -- The quote makes the bracket of the envelope a key, which its own quote ends.
      exfalso
      rcases text with _ | ⟨d, _ | ⟨e, _ | ⟨f, text⟩⟩⟩
      · cases read
      · obtain ⟨rfl, -⟩ := List.cons_prefix_cons.mp cut
        cases read
      · obtain ⟨rfl, second⟩ := List.cons_prefix_cons.mp cut
        obtain ⟨rfl, -⟩ := List.cons_prefix_cons.mp second
        cases read
        cases colon
      · obtain ⟨rfl, second⟩ := List.cons_prefix_cons.mp cut
        obtain ⟨rfl, third⟩ := List.cons_prefix_cons.mp second
        obtain ⟨rfl, -⟩ := List.cons_prefix_cons.mp third
        cases read
        rw [skipSpace_of_not (show isSpace 'p' = false by decide)] at colon
        cases colon

/-- Nothing an object can go on with starts with a character beyond ASCII. -/
theorem scanObject_wide {c : Char} (wide : 128 ≤ c.toNat) {text rest : List Char} {v : Value} :
    scanValue hook limit ('{' :: c :: text) ≠ .ok (v, rest) := by
  intro scanned
  have plain : isSpace c = false := by
    cases space : isSpace c with
    | false => rfl
    | true =>
      simp only [isSpace, Bool.or_eq_true, decide_eq_true_eq] at space
      rcases space with ((rfl | rfl) | rfl) | rfl <;> exact absurd wide (by decide)
  rcases scanObject_cases scanned with ⟨_, skipped, -⟩ | ⟨_, _, _, _, skipped, -⟩
  all_goals
    rw [skipSpace_of_not plain] at skipped
    cases skipped
    exact absurd wide (by decide)

end Texts

section Bytes

/-- The first byte of an encoded text tells its first character when it is ASCII, and tells that
it is not otherwise. -/
theorem utf8_cons_prefix {c : Char} {text : List Char} {b : UInt8} {bytes : List UInt8}
    (cut : utf8 (c :: text) <+: b :: bytes) :
    (c.toNat = b.toNat ∧ utf8 text <+: bytes ∧ String.utf8EncodeChar c = [b]) ∨
      (128 ≤ b.toNat ∧ 128 ≤ c.toNat) := by
  rw [utf8_cons] at cut
  -- An ASCII character is its byte; any other begins with a byte from 128 on.
  by_cases small : c.val ≤ 127
  · left
    rw [utf8EncodeChar_ascii small, List.singleton_append] at cut
    obtain ⟨same, later⟩ := List.cons_prefix_cons.mp cut
    refine ⟨?_, later, by rw [utf8EncodeChar_ascii small, same]⟩
    have bound := UInt32.le_iff_toNat_le.mp small
    simp only [UInt32.reduceToNat] at bound
    rw [← same, UInt32.toNat_toUInt8]
    show c.val.toNat = c.val.toNat % 256
    omega
  · right
    have wide : 128 ≤ c.toNat := by
      have large : ¬ c.val.toNat ≤ 127 := fun small' => small (UInt32.le_iff_toNat_le.mpr small')
      show 128 ≤ c.val.toNat
      omega
    cases encoded : String.utf8EncodeChar c with
    | nil =>
      have nonempty := String.length_utf8EncodeChar c
      rw [encoded] at nonempty
      exact absurd nonempty.symm (Nat.ne_of_gt (Char.utf8Size_pos c))
    | cons d rest =>
      rw [encoded, List.cons_append] at cut
      obtain ⟨rfl, -⟩ := List.cons_prefix_cons.mp cut
      have high := le_of_mem_utf8EncodeChar small (encoded ▸ List.mem_cons_self)
      exact ⟨UInt8.le_iff_toNat_le.mp high, wide⟩

variable {hook limit : Nat} {whole : List Char} {members expected : List (Str × Value)}

theorem decodeRequest_empty (request : Request) : decodeRequest [] ≠ .ok request := by
  simp [decodeRequest, hasKeys]

/-- A payload that starts at most three bytes before the text of an envelope is accepted only if
it goes to the end of it. The bytes before it are the end of its header, in which a bracket can
stand at two places at most. -/
theorem leftover (starts : StartsEnvelope whole)
    (complete : scanValue hook limit whole = .ok (.dict expected, [])) {request : Request} :
    ∀ (header : List UInt8) (text : List Char), header.length ≤ 3 →
      (header.length = 3 → header.head? ≠ some 123) → utf8 text <+: header ++ utf8 whole →
      loads hook limit text = .ok (.dict members) → decodeRequest members = .ok request →
      utf8 text = header ++ utf8 whole ∧ members = expected := by
  intro header
  -- Induction on what is left of the header: its bytes may be taken for blanks before the object.
  induction header with
  | nil =>
    intro text _ _ cut loaded _
    obtain ⟨more, joined⟩ := cut
    obtain ⟨rfl, same⟩ := eq_of_prefix starts complete (starts_of_utf8_starts joined) loaded
    exact ⟨rfl, same⟩
  | cons b header ih =>
    intro text short bracket cut loaded decoded
    cases text with
    | nil =>
      obtain ⟨_, _, skipped, -, -⟩ := loads_dict loaded
      cases skipped
    | cons c text =>
      by_cases space : isSpace c = true
      · rcases utf8_cons_prefix cut with ⟨-, later, single⟩ | ⟨-, wide⟩
        · have fewer : header.length ≤ 2 := Nat.le_of_succ_le_succ short
          obtain ⟨bytes, same⟩ := ih text (Nat.le_succ_of_le fewer)
            (fun three => absurd three (by omega)) later (loads_blank space loaded) decoded
          refine ⟨?_, same⟩
          rw [utf8_cons, single, bytes, List.singleton_append, List.cons_append]
        · simp only [isSpace, Bool.or_eq_true, decide_eq_true_eq] at space
          rcases space with ((rfl | rfl) | rfl) | rfl <;> exact absurd wide (by decide)
      -- Otherwise a header byte is the bracket, and what follows it in the frame is no member.
      · obtain ⟨tail, rest, skipped, scanned, -⟩ := loads_dict loaded
        rw [skipSpace_of_not (by simpa using space)] at skipped
        cases skipped
        exfalso
        rcases utf8_cons_prefix cut with ⟨number, later, -⟩ | ⟨-, wide⟩
        · have isBracket : b = 123 := UInt8.toNat_inj.mp number.symm
          subst isBracket
          -- The bracket is the last, the middle or the first of the three bytes.
          rcases header with _ | ⟨x, _ | ⟨y, _ | ⟨z, header⟩⟩⟩
          · obtain ⟨more, joined⟩ := later
            exact scanObject_prefix starts (starts_of_utf8_starts joined) scanned
          · cases text with
            | nil => exact scanObject_prefix starts (List.nil_prefix) scanned
            | cons d text =>
              rcases utf8_cons_prefix later with ⟨-, last, -⟩ | ⟨-, wide⟩
              · obtain ⟨more, joined⟩ := last
                have empty := scanObject_stray starts (starts_of_utf8_starts joined) scanned
                cases empty
                exact decodeRequest_empty request decoded
              · exact scanObject_wide wide scanned
          · exact bracket rfl rfl
          · simp only [List.length_cons] at short
            omega
        · exact absurd wide (by decide)

/-- Nothing that starts one to three bytes into the text of an envelope is an object. -/
theorem inside (starts : StartsEnvelope whole) {skip : Nat} (some_ : 1 ≤ skip) (few : skip ≤ 3)
    {text : List Char} (cut : utf8 text <+: (utf8 whole).drop skip) :
    loads hook limit text ≠ .ok (.dict members) := by
  intro loaded
  obtain ⟨body, rfl⟩ := starts
  -- From inside the first four characters on, the text starts with one of the other three.
  have front : ∀ c tail, skipSpace text = c :: tail → c = '"' ∨ c = 'p' ∨ c = 'r' := by
    intro c tail skipped
    cases text with
    | nil => cases skipped
    | cons d text =>
      have dropped : ∃ b bytes, (utf8 ('{' :: '"' :: 'p' :: 'r' :: body)).drop skip = b :: bytes ∧
          (b = 34 ∨ b = 112 ∨ b = 114) := by
        match skip, some_, few with
        | 1, _, _ => exact ⟨34, _, rfl, .inl rfl⟩
        | 2, _, _ => exact ⟨112, _, rfl, .inr (.inl rfl)⟩
        | 3, _, _ => exact ⟨114, _, rfl, .inr (.inr rfl)⟩
      obtain ⟨b, bytes, same, which⟩ := dropped
      rw [same] at cut
      rcases utf8_cons_prefix cut with ⟨number, -, -⟩ | ⟨wide, -⟩
      · have char : d = '"' ∨ d = 'p' ∨ d = 'r' := by
          rcases which with rfl | rfl | rfl
          · exact .inl (Char.toNat_inj.mp number)
          · exact .inr (.inl (Char.toNat_inj.mp number))
          · exact .inr (.inr (Char.toNat_inj.mp number))
        have plain : isSpace d = false := by rcases char with rfl | rfl | rfl <;> decide
        rw [skipSpace_of_not plain] at skipped
        cases skipped
        exact char
      · rcases which with rfl | rfl | rfl <;> exact absurd wide (by decide)
  obtain ⟨tail, rest, skipped, -, -⟩ := loads_dict loaded
  rcases front _ _ skipped with impossible | impossible | impossible <;>
    exact absurd impossible (by decide)

end Bytes

section Connections

/-- One connection of the host: the frame of an envelope, of which some bytes were written. -/
structure Connection where
  envelope : GuestAgentRequestEnvelope
  frame : List UInt8
  encoded : encode envelope = .ok frame
  written : Nat

namespace Connection

def bytes (connection : Connection) : List UInt8 := connection.frame.take connection.written

/-- The request, where the host has sent it in full. -/
def request (connection : Connection) : Option Request :=
  if connection.frame.length ≤ connection.written then requestOf connection.envelope else none

end Connection

/-- All bytes the guest's port receives. -/
def sent (connections : List Connection) : List UInt8 := connections.flatMap Connection.bytes

theorem packHeader_of_small {length : Nat} (fits : length ≤ maximumPayloadSize) :
    ∃ b c d : UInt8, packHeader length = [0, b, c, d] ∧ b ≠ 123 := by
  have zero : UInt8.ofNat (length / 16777216) = 0 := by
    have small : length / 16777216 = 0 := by
      simp only [maximumPayloadSize] at fits
      omega
    rw [small]
    rfl
  refine ⟨UInt8.ofNat (length / 65536), UInt8.ofNat (length / 256), UInt8.ofNat length,
    by rw [packHeader, zero], fun bracket => ?_⟩
  have value := congrArg UInt8.toNat bracket
  simp only [UInt8.toNat_ofNat', UInt8.reduceToNat, maximumPayloadSize] at value fits
  omega

/-- A length that the reader accepts starts with a zero byte. -/
theorem head_of_unpackHeader {header : List UInt8} (four : header.length = 4)
    (fits : unpackHeader header ≤ maxFrameSize) : ∃ rest, header = 0 :: rest := by
  match header, four with
  | [a, b, c, d], _ =>
    refine ⟨[b, c, d], ?_⟩
    simp only [unpackHeader, List.foldl_cons, List.foldl_nil, maxFrameSize] at fits
    have zero : a.toNat = 0 := by omega
    rw [UInt8.toNat_inj.mp (zero.trans (by rfl : 0 = (0 : UInt8).toNat))]

/-- What a frame consists of: a header and the text of its envelope, which reads as an object,
starts as every envelope does and contains no zero byte. -/
theorem Connection.frame_eq (connection : Connection) :
    ∃ whole : List Char, connection.frame = packHeader (utf8 whole).length ++ utf8 whole ∧
      (utf8 whole).length ≤ maximumPayloadSize ∧ StartsEnvelope whole ∧ 0 ∉ utf8 whole ∧
      (∀ python : Interpreter, scanValue python.hookLevels python.decoderLimit whole =
        .ok (.dict (values (envelopeMembers connection.envelope)), [])) ∧
      ∀ request, decodeRequest (values (envelopeMembers connection.envelope)) = .ok request →
        requestOf connection.envelope = some request := by
  obtain ⟨whole, body, written, inner, fits, frame⟩ := encode_ok connection.encoded
  have text := encodeEnvelope_ok written
  have reads (python : Interpreter) : Reads python.hookLevels python.decoderLimit whole
      (.dict (values (envelopeMembers connection.envelope))) := by
    obtain ⟨limit, called, roomy⟩ := python.decodes_envelope
    rw [roomy, text]
    exact reads_envelopeMembers called connection.envelope
  refine ⟨whole, frame, fits, ?_, ?_, fun python => ?_, fun request decoded =>
    (decodeRequest_iff inner request).mp decoded⟩
  -- The keys are sorted, and `protocolVersion` comes first.
  · have key : ∃ tail, encodeString "protocolVersion" = '"' :: 'p' :: 'r' :: tail :=
      ⟨(encodeString "protocolVersion").drop 3, by decide +kernel⟩
    obtain ⟨tail, key⟩ := key
    rw [text]
    simp only [StartsEnvelope, encodeObject, texts, envelopeMembers, List.cons_append,
      List.nil_append, List.map_cons, List.intercalate_cons_cons, encodeMember, key,
      List.append_assoc]
    exact ⟨_, rfl⟩
  -- A zero byte would be the character NUL, which a text that loads does not hold.
  · intro member
    obtain ⟨c, inside, number⟩ := exists_of_mem_utf8 member (by decide)
    have nul : c = '\x00' := Char.toNat_inj.mp number
    exact nul_notMem_of_loads (loads_of_reads (reads cpython)) (nul ▸ inside)
  · have read := (reads python).reads [] (fun _ front => by cases front)
    rwa [List.append_nil] at read

/-- What was sent on a connection is empty or starts with a zero byte. -/
theorem Connection.head_bytes (connection : Connection) :
    ∀ b ∈ connection.bytes.head?, b = 0 := by
  obtain ⟨whole, frame, fits, -⟩ := connection.frame_eq
  obtain ⟨b, c, d, header, -⟩ := packHeader_of_small fits
  intro first front
  rw [Connection.bytes, frame, header] at front
  cases written : connection.written with
  | zero =>
    rw [written] at front
    cases front
  | succ n =>
    rw [written] at front
    cases front
    rfl

theorem head_sent (connections : List Connection) : ∀ b ∈ (sent connections).head?, b = 0 := by
  induction connections with
  | nil => exact fun _ front => by cases front
  | cons connection connections ih =>
    intro b front
    rw [sent, List.flatMap_cons, List.head?_append] at front
    cases first : connection.bytes.head? with
    | none =>
      rw [first] at front
      exact ih b front
    | some c =>
      rw [first] at front
      cases front
      exact connection.head_bytes b first

/-- Bytes without a zero byte lie on one connection, behind its first byte. -/
theorem locate {bytes : List UInt8} (nonempty : bytes ≠ []) (noNul : 0 ∉ bytes) :
    ∀ (connections : List Connection) (tail before after : List UInt8),
      before ++ (bytes ++ after) = tail ++ sent connections →
      (∃ last, tail = before ++ (bytes ++ last) ∧ after = last ++ sent connections) ∨
      ∃ gone connection rest front last, connections = gone ++ connection :: rest ∧
        before = tail ++ (sent gone ++ front) ∧ connection.bytes = front ++ (bytes ++ last) ∧
        front ≠ [] ∧ after = last ++ sent rest := by
  intro connections
  induction connections with
  | nil =>
    intro tail before after same
    refine .inl ⟨after, ?_, by simp [sent]⟩
    simpa [sent] using same.symm
  | cons connection connections ih =>
    intro tail before after same
    rcases List.append_eq_append_iff.mp same with ⟨middle, rfl, inner⟩ | ⟨middle, rfl, inner⟩
    · left
      rcases List.append_eq_append_iff.mp inner with ⟨last, rfl, ends⟩ | ⟨last, rfl, starts⟩
      · exact ⟨last, rfl, ends⟩
      · cases last with
        | nil => exact ⟨[], by simp, by simpa using starts.symm⟩
        | cons b last =>
          -- The bytes would reach the first byte of the next connection.
          have zero := head_sent (connection :: connections) b (by rw [starts]; rfl)
          subst zero
          exact absurd (List.mem_append_right middle List.mem_cons_self) noNul
    · right
      rw [sent, List.flatMap_cons] at inner
      rcases ih connection.bytes middle after inner.symm with ⟨last, whole, ends⟩ |
        ⟨gone, other, rest, front, last, rfl, starts, whole, behind, ends⟩
      · refine ⟨[], connection, connections, middle, last, rfl, by simp [sent], whole, ?_, ends⟩
        rintro rfl
        obtain ⟨b, bytes, rfl⟩ := List.exists_cons_of_ne_nil nonempty
        have zero := connection.head_bytes b (by rw [whole]; rfl)
        subst zero
        exact noNul List.mem_cons_self
      · refine ⟨connection :: gone, other, rest, front, last, rfl, ?_, whole, behind, ends⟩
        rw [starts]
        simp [sent]

/-- What is left of the bytes, a proper part of one connection's and all of these others'. -/
def Remains (bytes : List UInt8) (connections : List Connection) : Prop :=
  ∃ tail, bytes = tail ++ sent connections ∧
    (tail = [] ∨ ∃ (connection : Connection) (front : List UInt8), front ≠ [] ∧
      connection.bytes = front ++ tail)

/-- Whatever is read, what remains then belongs to connections that remained before. -/
theorem Remains.drop {connections : List Connection} {used left : List UInt8}
    (remains : Remains (used ++ left) connections) :
    ∃ gone rest, connections = gone ++ rest ∧ Remains left rest := by
  -- What is used begins behind a front of a connection and ends in that one or in a later one;
  -- induction on the connections after it.
  have behind : ∀ (connections : List Connection) (tail used : List UInt8), used ≠ [] →
      (∃ (connection : Connection) (front : List UInt8), connection.bytes = front ++ tail) →
      used ++ left = tail ++ sent connections →
      ∃ gone rest, connections = gone ++ rest ∧ Remains left rest := by
    intro connections
    induction connections with
    | nil =>
      rintro tail used nonempty ⟨connection, front, part⟩ same
      rw [sent, List.flatMap_nil, List.append_nil] at same
      subst same
      refine ⟨[], [], rfl, left, by simp [sent], .inr ⟨connection, front ++ used, ?_, ?_⟩⟩
      · simp [nonempty]
      · rw [part, List.append_assoc]
    | cons next connections ih =>
      rintro tail used nonempty ⟨connection, front, part⟩ same
      rcases List.append_eq_append_iff.mp same with ⟨last, rfl, ends⟩ | ⟨last, rfl, starts⟩
      · refine ⟨[], next :: connections, rfl, last, ends, .inr ⟨connection, front ++ used, ?_, ?_⟩⟩
        · simp [nonempty]
        · rw [part, List.append_assoc]
      · cases last with
        | nil => exact ⟨[], next :: connections, rfl, [], by simpa using starts.symm, .inl rfl⟩
        | cons b last =>
          rw [sent, List.flatMap_cons] at starts
          obtain ⟨gone, rest, rfl, remains⟩ := ih next.bytes (b :: last) (List.cons_ne_nil _ _)
            ⟨next, [], rfl⟩ starts.symm
          exact ⟨next :: gone, rest, rfl, remains⟩
  obtain ⟨tail, same, part⟩ := remains
  cases used with
  | nil => exact ⟨[], connections, rfl, tail, same, part⟩
  | cons b used =>
    rcases part with rfl | ⟨connection, front, -, part⟩
    · cases connections with
      | nil => simp [sent] at same
      | cons next connections =>
        have starts : b :: used ++ left = next.bytes ++ sent connections := by
          simpa [sent] using same
        obtain ⟨gone, rest, rfl, remains⟩ := behind connections next.bytes (b :: used)
          (List.cons_ne_nil _ _) ⟨next, [], rfl⟩ starts
        exact ⟨next :: gone, rest, rfl, remains⟩
    · exact behind connections tail (b :: used) (List.cons_ne_nil _ _) ⟨connection, front, part⟩ same

/-- An accepted payload is that of a connection that was written in full, wherever its header was
read: what remains afterwards starts with the next connection. -/
theorem accepted_whole {python : Interpreter} {connections : List Connection}
    {header payload left : List UInt8} {members : List (Str × Value)} {request : Request}
    (remains : Remains (header ++ (payload ++ left)) connections) (four : header.length = 4)
    (announced : unpackHeader header = payload.length) (nonempty : payload ≠ [])
    (fits : payload.length ≤ maxFrameSize)
    (decoded : decodePayload python payload = .ok members)
    (valid : decodeRequest members = .ok request) :
    ∃ gone connection rest, connections = gone ++ connection :: rest ∧
      connection.request = some request ∧ left = sent rest := by
  -- The payload is a text that loads to a dict; it has no zero byte, but every header begins with
  -- one.
  have text : ∃ text, payload = utf8 text ∧ loads python.hookLevels python.decoderLimit text = .ok (.dict members) := by
    unfold decodePayload at decoded
    split at decoded
    · cases decoded
    · next text utf =>
      split at decoded
      · cases decoded
      · cases decoded
      · next loaded =>
        cases decoded
        exact ⟨text, decodeUTF8_eq_some.mp utf, loaded⟩
      · cases decoded
  obtain ⟨text, rfl, loaded⟩ := text
  have noNul : 0 ∉ utf8 text := by
    intro member
    obtain ⟨c, within, number⟩ := exists_of_mem_utf8 member (by decide)
    have nul : c = '\x00' := Char.toNat_inj.mp number
    exact nul_notMem_of_loads loaded (nul ▸ within)
  obtain ⟨more, rfl⟩ := head_of_unpackHeader four (announced ▸ fits)
  obtain ⟨tail, same, part⟩ := remains
  rcases locate nonempty noNul connections tail (0 :: more) left same with ⟨last, rfl, -⟩ |
    ⟨gone, connection, rest, front, last, rfl, starts, bytes, behind, ends⟩
  · -- The header would lie inside one connection, so its zero byte is in that header.
    exfalso
    rcases part with impossible | ⟨connection, front, behind, bytes⟩
    · cases impossible
    · obtain ⟨whole, frame, small, begins, plain, complete, -⟩ := connection.frame_eq
      have cut : front ++ (0 :: more ++ (utf8 text ++ last)) <+: connection.frame := by
        rw [← bytes]
        exact List.take_prefix _ _
      obtain ⟨unsent, cut⟩ := cut
      rw [frame] at cut
      -- And the zero byte is in the header of that connection, so the payload begins inside its
      -- text.
      have early : front.length ≤ 3 := by
        refine Nat.le_of_lt_succ (Nat.lt_of_not_le fun late => plain ?_)
        have dropped := congrArg (List.drop front.length) cut
        rw [List.append_assoc, List.drop_left, List.drop_append, length_packHeader,
          List.drop_of_length_le (by rw [length_packHeader]; exact late), List.nil_append] at dropped
        have first : (0 : UInt8) ∈ 0 :: more ++ (utf8 text ++ last) ++ unsent := by simp
        rw [dropped] at first
        exact List.mem_of_mem_drop first
      have dropped := congrArg (List.drop (front.length + 4)) cut
      have length : (front ++ 0 :: more).length = front.length + 4 := by
        rw [List.length_append, four]
      rw [List.append_assoc, List.append_assoc, ← List.append_assoc front, ← length, List.drop_left,
        length, List.drop_append, length_packHeader, Nat.add_sub_cancel,
        List.drop_of_length_le (by rw [length_packHeader]; omega), List.nil_append,
        List.append_assoc] at dropped
      have positive : 1 ≤ front.length := List.length_pos_iff.mpr behind
      exact inside begins positive early ⟨_, dropped⟩ loaded
  -- The zero byte begins the header of a later connection, all or part of which precedes the
  -- payload.
  · obtain ⟨whole, frame, small, begins, plain, complete, stands⟩ := connection.frame_eq
    have atMost : front.length ≤ 4 := by
      have total := congrArg List.length starts
      rw [four, List.length_append, List.length_append] at total
      omega
    have positive : 1 ≤ front.length := List.length_pos_iff.mpr behind
    have cut : front ++ (utf8 text ++ last) <+: connection.frame := by
      rw [← bytes]
      exact List.take_prefix _ _
    obtain ⟨unsent, cut⟩ := cut
    have dropped := congrArg (List.drop front.length) cut
    rw [frame, List.append_assoc, List.drop_left,
      List.drop_append_of_le_length (by rw [length_packHeader]; exact atMost),
      List.append_assoc] at dropped
    obtain ⟨b, c, d, numbers, noBracket⟩ := packHeader_of_small small
    have shorter : ((packHeader (utf8 whole).length).drop front.length).length ≤ 3 := by
      rw [List.length_drop, length_packHeader]
      omega
    have bracket : ((packHeader (utf8 whole).length).drop front.length).length = 3 →
        ((packHeader (utf8 whole).length).drop front.length).head? ≠ some 123 := by
      intro three
      rw [List.length_drop, length_packHeader] at three
      have one : front.length = 1 := by omega
      rw [one, numbers]
      simpa using noBracket
    -- So the payload is that connection's whole text, and its request is the one sent.
    obtain ⟨covers, same⟩ := leftover begins (complete python) _ text shorter bracket
      ⟨_, dropped⟩ loaded valid
    have nothing : last ++ unsent = [] := by
      rw [covers] at dropped
      exact List.append_cancel_left (dropped.trans (List.append_nil _).symm)
    obtain ⟨rfl, rfl⟩ := List.append_eq_nil_iff.mp nothing
    refine ⟨gone, connection, rest, rfl, ?_, by rw [ends, List.nil_append]⟩
    have inFull : connection.frame.length ≤ connection.written := by
      have all : connection.bytes = connection.frame := by
        rw [bytes]
        simpa using cut
      have size := congrArg List.length all
      rw [Connection.bytes, List.length_take] at size
      omega
    rw [Connection.request, if_pos inFull]
    exact stands request (same ▸ valid)

end Connections

section Runs

/-- Reading a payload takes it and its header, and nothing else. -/
theorem readPayload_content {stream rest : Stream} {result : Except Stop (List UInt8)}
    (read : readPayload stream = (result, rest)) :
    ∃ used, content stream = used ++ content rest ∧
      ∀ raw, result = .ok raw → ∃ header, used = header ++ raw ∧ header.length = 4 ∧
        unpackHeader header = raw.length ∧ raw ≠ [] ∧ raw.length ≤ maxFrameSize := by
  -- The header first, and the payload only when the length it announces is acceptable.
  obtain ⟨used, taken, length⟩ := readExactly_content 4 stream
  cases first : readExactly 4 stream with
  | mk header middle =>
    rw [first] at taken length
    cases header with
    | error e =>
      rw [readPayload, bind_of_error _ (show readExact 4 stream = (.error e, middle) from first)]
        at read
      cases read
      exact ⟨used, taken, fun raw same => by cases same⟩
    | ok header =>
      rw [readPayload, bind_of_ok _ (show readExact 4 stream = (.ok header, middle) from first)]
        at read
      obtain ⟨rfl, four⟩ := length header rfl
      split at read
      · cases read
        exact ⟨used, taken, fun raw same => by cases same⟩
      · next valid =>
        rw [not_or, Nat.not_lt] at valid
        obtain ⟨body, takenBody, lengthBody⟩ := readExactly_content (unpackHeader used) middle
        have bodyRead : readExactly (unpackHeader used) middle = (result, rest) := read
        rw [bodyRead] at takenBody lengthBody
        refine ⟨used ++ body, by rw [taken, List.append_assoc, ← takenBody], ?_⟩
        rintro raw rfl
        obtain ⟨rfl, announced⟩ := lengthBody raw rfl
        refine ⟨used, rfl, four, announced.symm, ?_, announced ▸ valid.2⟩
        rintro rfl
        exact valid.1 announced.symm

theorem receive_ok {python : Interpreter} {stream rest : Stream} {request : Request}
    (received : receive python stream = (.ok request, rest)) :
    ∃ raw members, readPayload stream = (.ok raw, rest) ∧ decodePayload python raw = .ok members ∧
      decodeRequest members = .ok request := by
  obtain ⟨members, middle, frame, decoded⟩ := bind_eq_ok.mp received
  rw [readFrame_eq] at frame
  obtain ⟨raw, last, payload, parsed⟩ := bind_eq_ok.mp frame
  rw [ofExcept_run] at parsed decoded
  cases body : decodePayload python raw with
  | error e => simp [body, mapError_error] at parsed
  | ok found =>
    cases result : decodeRequest members with
    | error e => simp [result, mapError_error] at decoded
    | ok answer =>
      simp only [body, mapError_ok, Prod.mk.injEq, Except.ok.injEq] at parsed
      simp only [result, mapError_ok, Prod.mk.injEq, Except.ok.injEq] at decoded
      obtain ⟨rfl, rfl⟩ := parsed
      obtain ⟨rfl, rfl⟩ := decoded
      exact ⟨raw, found, payload, body, result⟩

/-- Whatever an iteration comes to, it takes bytes off the front of the stream. -/
theorem receive_content {python : Interpreter} {stream rest : Stream}
    {result : Except Stop Request} (received : receive python stream = (result, rest)) :
    ∃ used, content stream = used ++ content rest := by
  have taken : (receive python stream).2 = (readPayload stream).2 := by
    rw [receive, readFrame_eq]
    simp only [bind_eq]
    cases payload : readPayload stream with
    | mk raw middle =>
      cases raw with
      | error e => rfl
      | ok raw =>
        simp only [ofExcept_run]
        cases decodePayload python raw with
        | error e => rfl
        | ok members => cases decodeRequest members <;> rfl
  cases payload : readPayload stream with
  | mk raw middle =>
    rw [received, payload] at taken
    obtain ⟨used, same, -⟩ := readPayload_content payload
    exact ⟨used, (show rest = middle from taken) ▸ same⟩

/-- What the daemon has dispatched is part of what was sent in full on the connections that it
has read. -/
def Faithful (connections : List Connection) (thread : Thread) : Prop :=
  ∃ gone rest, connections = gone ++ rest ∧
    thread.dispatched.Sublist (gone.filterMap Connection.request) ∧
    Remains (content thread.stream) rest

theorem Faithful.step {python : Interpreter} {connections : List Connection} {thread next : Thread}
    {event : Event} (faithful : Faithful connections thread)
    (taken : thread.step python event = some next) : Faithful connections next := by
  obtain ⟨gone, rest, rfl, sublist, remains⟩ := faithful
  cases event with
  | reenter =>
    simp only [Thread.step] at taken
    split at taken
    · cases taken
      exact ⟨gone, rest, rfl, sublist, remains⟩
    · cases taken
  | serve around =>
    simp only [Thread.step] at taken
    split at taken
    · unfold Thread.serve at taken
      split at taken
      · cases taken
      · next e left received =>
        cases taken
        -- Nothing is dispatched, and what was used is dropped from the connections.
        obtain ⟨used, same⟩ := receive_content received
        rw [same] at remains
        obtain ⟨skipped, later, rfl, remaining⟩ := remains.drop
        refine ⟨gone ++ skipped, later, (List.append_assoc ..).symm, ?_, remaining⟩
        rw [List.filterMap_append]
        exact sublist.trans (List.sublist_append_left _ _)
      · next request left received =>
        obtain ⟨raw, members, payload, parsed, decoded⟩ := receive_ok received
        obtain ⟨used, same, shape⟩ := readPayload_content payload
        obtain ⟨header, rfl, four, announced, nonempty, fits⟩ := shape raw rfl
        rw [same, List.append_assoc] at remains
        -- What was accepted is a whole connection; those before it are skipped.
        obtain ⟨skipped, connection, later, rfl, whole, ends⟩ :=
          accepted_whole remains four announced nonempty fits parsed decoded
        have dispatched : (thread.dispatched ++ [request]).Sublist
            ((gone ++ (skipped ++ [connection])).filterMap Connection.request) := by
          rw [List.filterMap_append, List.filterMap_append, List.filterMap_cons, whole]
          exact sublist.append (List.sublist_append_right _ _)
        have kept : Faithful (gone ++ (skipped ++ connection :: later))
            { thread with stream := left, dispatched := thread.dispatched ++ [request] } :=
          ⟨gone ++ (skipped ++ [connection]), later, by simp, dispatched, [], by simp [ends], .inl rfl⟩
        dsimp only at taken
        split at taken <;> cases taken <;> exact kept
    · cases taken

/-- Over every run on the one stream, however the connections are cut and the bytes arrive: what
the daemon dispatches was sent in full, in the order of sending and each at most once. -/
theorem no_injected_requests (python : Interpreter) (connections : List Connection)
    (stream : Stream) (arrived : content stream = sent connections) (events : List Event)
    (thread : Thread) (run : Run (Thread.step python) { stream := stream } events thread) :
    thread.dispatched.Sublist (connections.filterMap Connection.request) := by
  have initial : Faithful connections { stream := stream } :=
    ⟨[], connections, rfl, List.Sublist.refl _, [], by simpa using arrived, .inl rfl⟩
  obtain ⟨gone, rest, rfl, sublist, -⟩ :=
    run.keeps (fun _ _ _ faithful taken => faithful.step taken) initial
  rw [List.filterMap_append]
  exact sublist.trans (List.sublist_append_left _ _)

/-- A connection that is cut after two bytes, with the end the daemon sees after it, and one that
sends its frame in full. -/
theorem no_injected_requests_status :
    ∃ (connections : List Connection) (stream : Stream) (events : List Event) (thread : Thread),
      content stream = sent connections ∧
      Run (Thread.step cpython) { stream := stream } events thread ∧
      thread.dispatched.length = 1 ∧
      thread.dispatched.Sublist (connections.filterMap Connection.request) := by
  have encoded : ∃ frame, encode ⟨2, some "1", .status⟩ = .ok frame := ⟨_, by rfl⟩
  obtain ⟨frame, encoded⟩ := encoded
  obtain ⟨text, -, written, -, fits, whole⟩ := encode_ok encoded
  obtain ⟨b, c, d, header, -⟩ := packHeader_of_small fits
  -- The first connection is cut off after two bytes, the second is whole.
  let cut : Connection := ⟨_, frame, encoded, 2⟩
  let full : Connection := ⟨_, frame, encoded, frame.length⟩
  let stream : Stream := [.chunk [0, b], .chunk [], .chunk frame]
  have arrived : content stream = sent [cut, full] := by
    simp [stream, content, Arrival.bytes, sent, Connection.bytes, cut, full, whole, header]
  have filled : ∀ chunk ∈ [frame], chunk ≠ [] := by
    simp [whole, header]
  have received : receive cpython [.chunk frame] = (.ok ⟨.status, false, some (str "1")⟩, []) :=
    receive_frame encoded (by rfl) filled (by simp)
  let around : Surroundings :=
    { status := ⟨none, [], [], .unknown, .ofText []⟩, power := .exited 0 [],
      mount := ⟨.ofText [], none, fun _ => .exited 0 [], .ofText []⟩,
      helper := none, takesWhole := false }
  have stops : Thread.step cpython { stream := stream } (.serve around) =
      some { stream := [.chunk frame], mode := .returned } := rfl
  have again : Thread.step cpython { stream := [.chunk frame], mode := .returned } .reenter =
      some { stream := [.chunk frame] } := rfl
  have serves : ∃ thread, Thread.step cpython { stream := [.chunk frame] } (.serve around) =
      some thread ∧ thread.dispatched.length = 1 := by
    simp only [Thread.step, if_true, Thread.serve, received]
    split
    · exact ⟨_, rfl, rfl⟩
    · exact ⟨_, rfl, rfl⟩
  obtain ⟨thread, serves, one⟩ := serves
  have run : Run (Thread.step cpython) { stream := stream }
      [.serve around, .reenter, .serve around] thread :=
    .next stops (.next again (.next serves (.done thread)))
  exact ⟨[cut, full], stream, _, thread, arrived, run, one,
    no_injected_requests cpython [cut, full] stream arrived _ thread run⟩

end Runs

end SimpleVM.Agent
