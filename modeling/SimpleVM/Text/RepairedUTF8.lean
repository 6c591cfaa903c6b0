/-!
# UTF-8 that is repaired

Any bytes decode to a text: each longest part that begins a character and does not end one becomes
a replacement character. Bytes of ASCII are never part of such a damage, so an ASCII text occurs in
the decoded text exactly where its bytes occur.
-/
namespace SimpleVM.Text.UTF8Decoder

def replacement : Char := '\ufffd'

/-- A character that has begun. -/
structure Sequence where
  /-- The bits so far. -/
  value : Nat
  missing : Nat
  /-- What the next byte may be. -/
  lower : Nat
  upper : Nat
  continues : 128 ≤ lower
  /-- What comes out is not ASCII. -/
  long : 2 ≤ value ∨ (2 ≤ missing ∧ 2 ≤ value * 64 + (lower - 128))

def asciiChar (b : UInt8) : Char := Char.ofNat b.toNat

/-- The bounds on the bytes leave valid scalars only. -/
def scalar (value : Nat) : Char := if value.isValidChar then Char.ofNat value else replacement

/-- A byte where no character has begun. -/
def lead (b : UInt8) : List Char × Option Sequence :=
  if b.toNat < 0x80 then ([asciiChar b], none)
  else if two : 0xc2 ≤ b.toNat ∧ b.toNat ≤ 0xdf then
    ([], some ⟨b.toNat - 0xc0, 1, 0x80, 0xbf, by decide, by omega⟩)
  else if b.toNat = 0xe0 then ([], some ⟨0, 2, 0xa0, 0xbf, by decide, by decide⟩)
  else if b.toNat = 0xed then ([], some ⟨0xd, 2, 0x80, 0x9f, by decide, by decide⟩)
  else if three : 0xe1 ≤ b.toNat ∧ b.toNat ≤ 0xef then
    ([], some ⟨b.toNat - 0xe0, 2, 0x80, 0xbf, by decide, by omega⟩)
  else if b.toNat = 0xf0 then ([], some ⟨0, 3, 0x90, 0xbf, by decide, by decide⟩)
  else if b.toNat = 0xf4 then ([], some ⟨4, 3, 0x80, 0x8f, by decide, by decide⟩)
  else if four : 0xf1 ≤ b.toNat ∧ b.toNat ≤ 0xf3 then
    ([], some ⟨b.toNat - 0xf0, 3, 0x80, 0xbf, by decide, by omega⟩)
  else ([replacement], none)

/-- What a byte completes, and what it leaves unfinished. -/
def step : Option Sequence → UInt8 → List Char × Option Sequence
  | none, b => lead b
  | some s, b =>
    if inside : s.lower ≤ b.toNat ∧ b.toNat ≤ s.upper then
      if more : 2 ≤ s.missing then
        ([], some ⟨s.value * 64 + (b.toNat - 0x80), s.missing - 1, 0x80, 0xbf, by decide, by
          have long := s.long
          have continues := s.continues
          omega⟩)
      else ([scalar (s.value * 64 + (b.toNat - 0x80))], none)
    else (replacement :: (lead b).1, (lead b).2)

/-- What is unfinished at the end. -/
def flush : Option Sequence → List Char
  | none => []
  | some _ => [replacement]

def decodeFrom (unfinished : Option Sequence) : List UInt8 → List Char
  | [] => flush unfinished
  | b :: rest => (step unfinished b).1 ++ decodeFrom (step unfinished b).2 rest

/-- `String(decoding:as:)` -/
def decode (bytes : List UInt8) : List Char := decodeFrom none bytes

section ASCII

variable {b : UInt8} {unfinished : Option Sequence}

theorem toNat_ofNat {value : Nat} (valid : value.isValidChar) :
    (Char.ofNat value).toNat = value := by
  rw [Char.ofNat, dif_pos valid]
  rfl

theorem toNat_asciiChar (ascii : b.toNat < 128) : (asciiChar b).toNat = b.toNat :=
  toNat_ofNat (Or.inl (by omega))

theorem toNat_scalar {value : Nat} (long : 128 ≤ value) : 128 ≤ (scalar value).toNat := by
  unfold scalar
  split
  · next valid => rwa [toNat_ofNat valid]
  · decide

/-- An ASCII byte ends what has begun and stands for itself. -/
theorem step_ascii (unfinished : Option Sequence) (ascii : b.toNat < 128) :
    step unfinished b = (flush unfinished ++ [asciiChar b], none) := by
  have plain : lead b = ([asciiChar b], none) := if_pos ascii
  cases unfinished with
  | none => exact plain
  | some s =>
    have continues := s.continues
    dsimp only [step]
    rw [dif_neg (by omega), plain]
    rfl

/-- Any other byte completes characters outside ASCII only. -/
theorem step_wide (unfinished : Option Sequence) (wide : 128 ≤ b.toNat) : ∀ c ∈ (step unfinished b).1, 128 ≤ c.toNat := by
  have begins : ∀ c ∈ (lead b).1, 128 ≤ c.toNat := by
    unfold lead
    rw [if_neg (by omega)]
    split
    · simp
    · repeat (split; · simp)
      simp [replacement]
  cases unfinished with
  | none => exact begins
  | some s =>
    have long := s.long
    dsimp only [step]
    split
    · next inside =>
      split
      · simp
      · intro c member
        rw [List.mem_singleton.mp member]
        exact toNat_scalar (by omega)
    · intro c member
      rcases List.mem_cons.mp member with rfl | later
      · decide
      · exact begins c later

/-- Only nothing decodes to nothing. -/
theorem decodeFrom_eq_nil {bytes : List UInt8} (empty : decodeFrom unfinished bytes = []) :
    unfinished = none ∧ bytes = [] := by
  induction bytes generalizing unfinished with
  | nil =>
    cases unfinished with
    | none => exact ⟨rfl, rfl⟩
    | some s => cases empty
  | cons b rest ih =>
    obtain ⟨emitted, later⟩ := List.append_eq_nil_iff.mp empty
    obtain ⟨finished, rfl⟩ := ih later
    -- A byte that leaves nothing unfinished completes something.
    exfalso
    have lead_emits (finished : (lead b).2 = none) : (lead b).1 ≠ [] := by
      revert finished
      unfold lead
      repeat (split; · simp)
      simp
    cases unfinished with
    | none => exact lead_emits finished emitted
    | some s =>
      dsimp only [step] at finished emitted
      split at finished
      · next inside =>
        rw [dif_pos inside] at emitted
        split at finished
        · cases finished
        · next last =>
          rw [dif_neg last] at emitted
          cases emitted
      · next outside =>
        rw [dif_neg outside] at emitted
        cases emitted

/-- Decoding comes apart at an ASCII byte. -/
theorem decodeFrom_append (before : List UInt8) (ascii : b.toNat < 128) (rest : List UInt8) :
    decodeFrom unfinished (before ++ b :: rest) =
      decodeFrom unfinished before ++ asciiChar b :: decodeFrom none rest := by
  induction before generalizing unfinished with
  | nil =>
    have first := step_ascii unfinished ascii
    simp [decodeFrom, first]
  | cons first before ih => simp [decodeFrom, ih]

theorem asciiChar_inj {a b : UInt8} (first : a.toNat < 128) (second : b.toNat < 128)
    (same : asciiChar a = asciiChar b) : a = b := by
  apply UInt8.toNat_inj.mp
  rw [← toNat_asciiChar first, same, toNat_asciiChar second]

/-- A flushed sequence leaves the replacement character only. -/
theorem not_mem_flush (unfinished : Option Sequence) (ascii : b.toNat < 128) :
    asciiChar b ∉ flush unfinished := by
  intro member
  cases unfinished with
  | none => cases member
  | some s =>
    have narrow := toNat_asciiChar ascii
    rw [List.mem_singleton.mp member] at narrow
    have wide : replacement.toNat = 0xfffd := rfl
    omega

/-- An ASCII character in the decoded text is the byte it stands for. -/
theorem decodeFrom_split {bytes : List UInt8} {front back : List Char} (ascii : b.toNat < 128)
    (whole : decodeFrom unfinished bytes = front ++ asciiChar b :: back) :
    ∃ before rest, bytes = before ++ b :: rest ∧ decodeFrom unfinished before = front ∧
      decodeFrom none rest = back := by
  have narrow := toNat_asciiChar ascii
  induction bytes generalizing unfinished front with
  | nil =>
    exfalso
    apply not_mem_flush unfinished ascii
    rw [show flush unfinished = _ from whole]
    simp
  | cons first rest ih =>
    rw [decodeFrom] at whole
    by_cases plain : first.toNat < 128
    · rw [step_ascii _ plain, List.append_assoc, List.singleton_append] at whole
      dsimp only at whole
      -- The character is the first byte, or it comes later.
      rcases List.append_eq_append_iff.mp whole with ⟨more, front', tail⟩ | ⟨more, flushed, tail⟩
      · cases more with
        | nil =>
          rw [List.nil_append] at tail
          obtain ⟨same, later⟩ := List.cons.inj tail
          have equal : first = b := asciiChar_inj plain ascii same
          subst equal
          refine ⟨[], rest, rfl, ?_, later⟩
          rw [front', List.append_nil]
          rfl
        | cons c more =>
          obtain ⟨same, later⟩ := List.cons.inj tail
          obtain ⟨before, after, split, decoded, end_⟩ := ih later
          refine ⟨first :: before, after, by rw [split]; rfl, ?_, end_⟩
          rw [decodeFrom, step_ascii _ plain, decoded, front', ← same]
          simp
      · cases more with
        | nil =>
          rw [List.nil_append] at tail
          obtain ⟨same, later⟩ := List.cons.inj tail
          have equal : b = first := asciiChar_inj ascii plain same
          subst equal
          refine ⟨[], rest, rfl, ?_, later.symm⟩
          rw [List.append_nil] at flushed
          exact flushed
        | cons c more =>
          exfalso
          obtain ⟨same, -⟩ := List.cons.inj tail
          apply not_mem_flush unfinished ascii
          rw [flushed, same]
          simp
    · rcases List.append_eq_append_iff.mp whole with ⟨more, front', tail⟩ | ⟨more, emitted, tail⟩
      · obtain ⟨before, after, split, decoded, end_⟩ := ih tail
        refine ⟨first :: before, after, by rw [split]; rfl, ?_, end_⟩
        rw [decodeFrom, decoded, front']
      · cases more with
        | nil =>
          rw [List.nil_append] at tail
          rw [List.append_nil] at emitted
          have rest' : decodeFrom (step unfinished first).2 rest = [] ++ asciiChar b :: back :=
            tail.symm
          obtain ⟨before, after, split, decoded, end_⟩ := ih rest'
          refine ⟨first :: before, after, by rw [split]; rfl, ?_, end_⟩
          rw [decodeFrom, decoded, emitted, List.append_nil]
        | cons c more =>
          exfalso
          obtain ⟨same, -⟩ := List.cons.inj tail
          have wide := step_wide unfinished (Nat.le_of_not_lt plain) (asciiChar b) (by
            rw [emitted, same]
            simp)
          omega

/-- **Occurrences.** An ASCII text occurs in the decoded text exactly where its bytes occur. -/
theorem decodeFrom_eq_append_iff {phrase bytes : List UInt8} {front back : List Char}
    (ascii : ∀ b ∈ phrase, b.toNat < 128) (nonempty : phrase ≠ []) :
    decodeFrom unfinished bytes = front ++ phrase.map asciiChar ++ back ↔
      ∃ before rest, bytes = before ++ phrase ++ rest ∧ decodeFrom unfinished before = front ∧
        decodeFrom none rest = back := by
  induction phrase generalizing unfinished bytes front with
  | nil => exact absurd rfl nonempty
  | cons b phrase ih =>
    have plain := ascii b List.mem_cons_self
    have later : ∀ c ∈ phrase, c.toNat < 128 := fun c member =>
      ascii c (List.mem_cons_of_mem b member)
    constructor
    · intro whole
      rw [List.map_cons, List.append_assoc, List.cons_append] at whole
      obtain ⟨before, rest, rfl, decoded, end_⟩ := decodeFrom_split plain whole
      by_cases last : phrase = []
      · subst last
        exact ⟨before, rest, by simp, decoded, end_⟩
      · have rest' : decodeFrom none rest = [] ++ phrase.map asciiChar ++ back := end_
        obtain ⟨nothing, more, rfl, empty, end'⟩ := (ih later last).mp rest'
        obtain ⟨-, rfl⟩ := decodeFrom_eq_nil empty
        exact ⟨before, more, by simp, decoded, end'⟩
    · rintro ⟨before, rest, rfl, rfl, rfl⟩
      rw [List.append_assoc, List.cons_append, decodeFrom_append before plain, List.map_cons,
        List.append_assoc, List.cons_append]
      congr 2
      by_cases last : phrase = []
      · subst last
        rfl
      · have tail : decodeFrom none (phrase ++ rest) =
            [] ++ phrase.map asciiChar ++ decodeFrom none rest :=
          (ih later last).mpr ⟨[], rest, rfl, rfl, rfl⟩
        exact tail

end ASCII

end SimpleVM.Text.UTF8Decoder
