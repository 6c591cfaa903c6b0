import SimpleVM.Swift.Characters
import SimpleVM.Text.RepairedUTF8

/-!
# The disk password prompt

`startSerialMonitor` polls the log of the serial port. Each poll decodes what has come since the
size that the last one found, and looks for the prompt in that alone.
-/
namespace SimpleVM.QEMU

open Swift Text UTF8Decoder

/-- `contains` compares characters, so an occurrence must not be joined with its neighbours. The
characters of the text looked for are ASCII without canonical equivalents. -/
def contains (joins : Joins) (phrase : List Char) : Option Char → List Char → Bool
  | _, [] => false
  | previous, c :: rest =>
    (phrase.isPrefixOf (c :: rest) && joins.startsAfter previous &&
        joins.endsBefore ((c :: rest).drop phrase.length)) ||
      contains joins phrase (some c) rest

/-- "A password is required to access the root volume" -/
def prompt : List UInt8 :=
  [0x41, 0x20, 0x70, 0x61, 0x73, 0x73, 0x77, 0x6f, 0x72, 0x64, 0x20, 0x69, 0x73, 0x20, 0x72, 0x65,
    0x71, 0x75, 0x69, 0x72, 0x65, 0x64, 0x20, 0x74, 0x6f, 0x20, 0x61, 0x63, 0x63, 0x65, 0x73, 0x73,
    0x20, 0x74, 0x68, 0x65, 0x20, 0x72, 0x6f, 0x6f, 0x74, 0x20, 0x76, 0x6f, 0x6c, 0x75, 0x6d, 0x65]

/-- What the file operations of one poll give. -/
structure Poll where
  /-- The size among the attributes of the file. -/
  size : Option Nat
  /-- What an opened file holds until it is closed. -/
  opened : Option (List UInt8)
  seeks : Bool := true
  reads : Bool := true

structure SerialMonitor where
  serialReadOffset : Nat := 0
  requiresDiskPassword : Bool := false
deriving DecidableEq, Repr

namespace SerialMonitor

/-- One round of the loop in `startSerialMonitor`. -/
def poll (joins : Joins) (m : SerialMonitor) (p : Poll) : SerialMonitor :=
  match p.size with
  | none => m
  | some endOffset =>
    let serialReadOffset := if endOffset < m.serialReadOffset then 0 else m.serialReadOffset
    match p.opened with
    | none => { m with serialReadOffset }
    | some content =>
      if serialReadOffset < endOffset then
        -- A `seek` that fails leaves the handle at the start of the file.
        let position := if p.seeks then serialReadOffset else 0
        let data := if p.reads then content.drop position else []
        { serialReadOffset := endOffset
          requiresDiskPassword := m.requiresDiskPassword ||
            contains joins (prompt.map asciiChar) none (decode data) }
      else { m with serialReadOffset }

end SerialMonitor

/-- The moments at which a poll asks for the size of the log and reads it, by the bytes the log
has then. -/
structure Moment where
  sized : Nat
  seen : Nat
deriving DecidableEq, Repr

/-- A poll whose file operations succeed. -/
def Moment.poll (moment : Moment) (log : List UInt8) : Poll where
  size := some moment.sized
  opened := some (log.take moment.seen)

/-- The log only grows, from `start` bytes on. -/
def Grows : Nat → List Moment → Prop
  | _, [] => True
  | start, moment :: later =>
    start ≤ moment.sized ∧ moment.sized ≤ moment.seen ∧ Grows moment.seen later

/-- The monitor after these polls of the log. -/
def monitored (joins : Joins) (log : List UInt8) (moments : List Moment) : SerialMonitor :=
  moments.foldl (fun m moment => m.poll joins (moment.poll log)) {}

section Cuts

/-- The prompt occurs in these bytes, as a run of characters of its own. -/
def Shows (joins : Joins) (data : List UInt8) : Prop :=
  ∃ before rest, data = before ++ prompt ++ rest ∧
    joins.startsAfter (decode before).getLast? ∧ joins.endsBefore (decode rest)

/-- Some occurrence of the prompt is not cut: it begins no earlier than the size one poll found and
ends before what the next one, which found a larger size, sees. -/
def Uncut (joins : Joins) (log : List UInt8) : Nat → List Moment → Prop
  | _, [] => False
  | start, moment :: later =>
    (start < moment.sized ∧ Shows joins ((log.take moment.seen).drop start)) ∨
      Uncut joins log moment.sized later

variable {joins : Joins} {log : List UInt8}

/-- `contains` finds occurrences whose neighbours do not join them. -/
theorem contains_iff {phrase text : List Char} (nonempty : phrase ≠ []) {previous : Option Char} :
    contains joins phrase previous text = true ↔
      ∃ front back, text = front ++ phrase ++ back ∧
        joins.startsAfter (front.getLast?.or previous) ∧ joins.endsBefore back := by
  induction text generalizing previous with
  | nil =>
    constructor
    · intro found
      cases found
    · rintro ⟨front, back, whole, -⟩
      have empty := (List.append_eq_nil_iff.mp (List.append_eq_nil_iff.mp whole.symm).1).2
      exact absurd empty nonempty
  | cons c rest ih =>
    rw [contains, Bool.or_eq_true, Bool.and_eq_true, Bool.and_eq_true, List.isPrefixOf_iff_prefix,
      ih]
    constructor
    · rintro (⟨⟨⟨back, here⟩, free⟩, ends⟩ | ⟨front, back, whole, free, ends⟩)
      · refine ⟨[], back, here.symm, free, ?_⟩
        rwa [← here, List.drop_left] at ends
      · refine ⟨c :: front, back, by rw [whole]; rfl, ?_, ends⟩
        rw [List.getLast?_cons]
        cases last : front.getLast? with
        | none => simpa [last] using free
        | some d => simpa [last] using free
    · rintro ⟨front, back, whole, free, ends⟩
      cases front with
      | nil =>
        refine .inl ⟨⟨⟨back, whole.symm⟩, free⟩, ?_⟩
        rwa [whole, List.nil_append, List.drop_left]
      | cons d front =>
        obtain ⟨rfl, later⟩ := List.cons.inj whole
        refine .inr ⟨front, back, later, ?_, ends⟩
        rw [List.getLast?_cons] at free
        cases last : front.getLast? with
        | none => simpa [last] using free
        | some d => simpa [last] using free

/-- What a poll finds in the text it decodes is what its bytes show. -/
theorem contains_decode_iff (data : List UInt8) :
    contains joins (prompt.map asciiChar) none (decode data) = true ↔ Shows joins data := by
  have ascii : ∀ b ∈ prompt, b.toNat < 128 := by decide +kernel
  have nonempty : prompt ≠ [] := by decide
  rw [contains_iff (by decide)]
  constructor
  · rintro ⟨front, back, whole, free, ends⟩
    obtain ⟨before, rest, split, rfl, rfl⟩ := (decodeFrom_eq_append_iff ascii nonempty).mp whole
    rw [Option.or_none] at free
    exact ⟨before, rest, split, free, ends⟩
  · rintro ⟨before, rest, split, free, ends⟩
    have whole : decode data = decode before ++ prompt.map asciiChar ++ decode rest :=
      (decodeFrom_eq_append_iff ascii nonempty).mpr ⟨before, rest, split, rfl, rfl⟩
    refine ⟨decode before, decode rest, whole, ?_, ends⟩
    rwa [Option.or_none]

/-- What is shown occurs in the bytes. -/
theorem Shows.infix {data : List UInt8} (shown : Shows joins data) : prompt <:+: data := by
  obtain ⟨before, rest, split, -⟩ := shown
  exact ⟨before, rest, split.symm⟩

/-- What a poll sees of the log is part of it. -/
theorem Uncut.occurs {moments : List Moment} {start : Nat}
    (uncut : Uncut joins log start moments) : prompt <:+: log := by
  induction moments generalizing start with
  | nil => cases uncut
  | cons moment later ih =>
    rcases uncut with ⟨-, seen⟩ | rest
    · exact seen.infix.trans
        ((List.drop_suffix start _).isInfix.trans (List.take_prefix moment.seen log).isInfix)
    · exact ih rest

/-- One poll: it reads from where the last one found the end, if the log has grown since. -/
theorem poll_spec (joins : Joins) (log : List UInt8) {m : SerialMonitor} {moment : Moment}
    (grown : m.serialReadOffset ≤ moment.sized) :
    (m.poll joins (moment.poll log)).serialReadOffset = moment.sized ∧
      ((m.poll joins (moment.poll log)).requiresDiskPassword = true ↔
        m.requiresDiskPassword = true ∨ (m.serialReadOffset < moment.sized ∧
          Shows joins ((log.take moment.seen).drop m.serialReadOffset))) := by
  unfold SerialMonitor.poll Moment.poll
  dsimp only
  rw [if_neg (Nat.not_lt.mpr grown)]
  by_cases more : m.serialReadOffset < moment.sized
  · rw [if_pos more]
    refine ⟨rfl, ?_⟩
    simp only [if_true, Bool.or_eq_true, contains_decode_iff, more, true_and]
  · rw [if_neg more]
    refine ⟨by dsimp only; omega, ?_⟩
    simp only [more, false_and, or_false]

/-- **Run lemma**, by induction on the polls: the flag is set when it was, or when some occurrence
is not cut. -/
theorem polls_spec (joins : Joins) (log : List UInt8) (m : SerialMonitor)
    {moments : List Moment} {start : Nat} (grows : Grows start moments) (offset : m.serialReadOffset ≤ start) :
    (moments.foldl (fun m moment => m.poll joins (moment.poll log)) m).requiresDiskPassword =
        true ↔
      m.requiresDiskPassword = true ∨ Uncut joins log m.serialReadOffset moments := by
  induction moments generalizing m start with
  | nil => simp [Uncut]
  | cons moment later ih =>
    obtain ⟨grown, ordered, after⟩ := grows
    obtain ⟨next, flag⟩ := poll_spec joins log (Nat.le_trans offset grown)
    rw [List.foldl_cons, ih _ after (by omega), flag, next, or_assoc]
    rfl

end Cuts

/-- The polls of a log that only grows, up to one that sees all of it. -/
structure Watched (log : List UInt8) (moments : List Moment) : Prop where
  grows : Grows 0 moments
  whole : moments.getLast? = some ⟨log.length, log.length⟩

/-- The flag says whether the prompt occurs in the log. -/
def Detects (joins : Joins) (log : List UInt8) (moments : List Moment) : Prop :=
  (monitored joins log moments).requiresDiskPassword = true ↔ prompt <:+: log

theorem flag_iff {joins : Joins} {log : List UInt8} {moments : List Moment}
    (watched : Watched log moments) :
    (monitored joins log moments).requiresDiskPassword = true ↔ Uncut joins log 0 moments := by
  have flag := polls_spec joins log {} watched.grows (Nat.le_refl 0)
  simpa [monitored] using flag

/-- **The prompt and the polls.** Once the whole log has been seen, the flag says whether the
prompt occurs in it exactly when, if it does, some occurrence is not cut by the polls. -/
theorem detects_iff (joins : Joins) (log : List UInt8) (moments : List Moment)
    (watched : Watched log moments) :
    Detects joins log moments ↔ (prompt <:+: log → Uncut joins log 0 moments) := by
  unfold Detects
  rw [flag_iff watched]
  constructor
  · intro detects
    exact detects.mpr
  · intro uncut
    exact ⟨Uncut.occurs, uncut⟩

/-- One poll that sees all of a log with the prompt in it. -/
theorem detects_at_once :
    Detects .acute ([0x0a] ++ prompt) [⟨49, 49⟩] := by
  refine (detects_iff .acute ([0x0a] ++ prompt) [⟨49, 49⟩]
    ⟨⟨by decide, by decide, trivial⟩, by decide⟩).mpr fun _ => ?_
  exact .inl ⟨by decide, [0x0a], [], by decide +kernel, by decide +kernel, by decide +kernel⟩

/-- The prompt in two pieces is in the log and not detected. -/
theorem prompt_in_pieces_missed : Watched prompt [⟨20, 20⟩, ⟨48, 48⟩] ∧
    ¬ Detects .acute prompt [⟨20, 20⟩, ⟨48, 48⟩] := by
  have watched : Watched prompt [⟨20, 20⟩, ⟨48, 48⟩] :=
    ⟨⟨by decide, by decide, by decide, by decide, trivial⟩, by decide⟩
  refine ⟨watched, fun detects => ?_⟩
  have uncut := (flag_iff watched).mp (detects.mpr List.infix_rfl)
  -- Neither piece is as long as the prompt.
  have short (data : List UInt8) (less : data.length < 48) :
      ¬ Shows .acute data := fun shown => by
    have length := shown.infix.length_le
    have long : prompt.length = 48 := by decide
    omega
  rcases uncut with ⟨-, shown⟩ | ⟨-, shown⟩ | never
  · exact short _ (by decide) shown
  · exact short _ (by decide) shown
  · exact never

end SimpleVM.QEMU
