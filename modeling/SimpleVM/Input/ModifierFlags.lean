/-!
# Modifier flags

`NSEvent.ModifierFlags`, an option set over 64 bits, and the key codes of the modifiers.
-/
namespace SimpleVM.Input

structure ModifierFlags where
  rawValue : BitVec 64
deriving DecidableEq, Repr

namespace ModifierFlags

/-- The flag of one bit. -/
def single (i : Nat) : ModifierFlags := ⟨BitVec.twoPow 64 i⟩

def empty : ModifierFlags := ⟨0⟩

def shift : ModifierFlags := single 17
def control : ModifierFlags := single 18
def option : ModifierFlags := single 19
def command : ModifierFlags := single 20
def function : ModifierFlags := single 23

def union (a b : ModifierFlags) : ModifierFlags := ⟨a.rawValue ||| b.rawValue⟩

def intersection (a b : ModifierFlags) : ModifierFlags := ⟨a.rawValue &&& b.rawValue⟩

/-- `remove`. -/
def subtracting (a b : ModifierFlags) : ModifierFlags := ⟨a.rawValue &&& ~~~b.rawValue⟩

def contains (a b : ModifierFlags) : Bool := decide (a.rawValue &&& b.rawValue = b.rawValue)

def isEmpty (a : ModifierFlags) : Bool := decide (a = empty)

/-- `normalized`: what a guest keyboard has keys for. -/
def normalized (flags : ModifierFlags) : ModifierFlags :=
  flags.intersection (((control.union option).union shift).union command)

variable {a b : ModifierFlags} {i j : Nat}

theorem ext_bits (same : ∀ i, a.rawValue.getLsbD i = b.rawValue.getLsbD i) : a = b := by
  cases a with
  | mk a =>
    cases b with
    | mk b =>
      have equal : a = b := BitVec.eq_of_getLsbD_eq fun i _ => same i
      rw [equal]

theorem contains_iff : a.contains b = true ↔
    ∀ i, b.rawValue.getLsbD i = true → a.rawValue.getLsbD i = true := by
  unfold contains
  rw [decide_eq_true_iff]
  constructor
  · intro same i set
    have bit := congrArg (fun x => x.getLsbD i) same
    simp only [BitVec.getLsbD_and, set, Bool.and_true] at bit
    exact bit
  · intro inside
    apply BitVec.eq_of_getLsbD_eq
    intro i _
    rw [BitVec.getLsbD_and]
    cases set : b.rawValue.getLsbD i with
    | false => simp
    | true => simp [inside i set]

theorem contains_single (bound : i < 64) : a.contains (single i) = a.rawValue.getLsbD i := by
  apply Bool.eq_iff_iff.mpr
  rw [contains_iff]
  constructor
  · intro inside
    apply inside
    simp [single, bound]
  · intro set j isSingle
    simp only [single, BitVec.getLsbD_twoPow, Bool.and_eq_true, decide_eq_true_eq] at isSingle
    rw [← isSingle.2]
    exact set

theorem subtracting_contains (boundI : i < 64) (boundJ : j < 64) :
    (a.subtracting (single i)).contains (single j) = (a.contains (single j) && !decide (i = j)) := by
  rw [contains_single boundJ, contains_single boundJ]
  simp only [subtracting, single, BitVec.getLsbD_and, BitVec.getLsbD_not, BitVec.getLsbD_twoPow]
  simp [boundI, boundJ]

theorem union_contains (boundI : i < 64) (boundJ : j < 64) :
    (a.union (single i)).contains (single j) = (a.contains (single j) || decide (i = j)) := by
  rw [contains_single boundJ, contains_single boundJ]
  simp only [union, single, BitVec.getLsbD_or, BitVec.getLsbD_twoPow]
  simp [boundI]

theorem normalized_bit (flags : ModifierFlags) (i : Nat) :
    flags.normalized.rawValue.getLsbD i =
      (flags.rawValue.getLsbD i && decide (17 ≤ i ∧ i ≤ 20)) := by
  apply Bool.eq_iff_iff.mpr
  simp only [normalized, intersection, union, control, option, shift, command, single,
    BitVec.getLsbD_and, BitVec.getLsbD_or, BitVec.getLsbD_twoPow, Bool.and_eq_true,
    Bool.or_eq_true, decide_eq_true_eq]
  constructor
  · rintro ⟨set, range⟩
    refine ⟨set, ?_⟩
    omega
  · rintro ⟨set, range⟩
    refine ⟨set, ?_⟩
    omega

theorem normalized_normalized (flags : ModifierFlags) :
    flags.normalized.normalized = flags.normalized := by
  apply ext_bits
  intro i
  simp only [normalized_bit, Bool.and_assoc, Bool.and_self]

theorem normalized_empty : empty.normalized = empty := by decide

theorem normalized_union (a b : ModifierFlags) :
    (a.union b).normalized = a.normalized.union b.normalized := by
  apply ext_bits
  intro i
  simp only [union, BitVec.getLsbD_or, normalized_bit]
  exact Bool.and_or_distrib_right _ _ _

/-- Normalized sets are equal if they agree on the four modifiers. -/
theorem eq_of_normalized (left : a.normalized = a) (right : b.normalized = b)
    (same : ∀ i, 17 ≤ i → i ≤ 20 → a.contains (single i) = b.contains (single i)) : a = b := by
  apply ext_bits
  intro i
  by_cases range : 17 ≤ i ∧ i ≤ 20
  · have agree := same i range.1 range.2
    rwa [contains_single (by omega), contains_single (by omega)] at agree
  · rw [← left, ← right, normalized_bit, normalized_bit]
    simp [range]

theorem contains_normalized (bound : 17 ≤ i ∧ i ≤ 20) :
    a.normalized.contains (single i) = a.contains (single i) := by
  rw [contains_single (by omega), contains_single (by omega), normalized_bit]
  simp [bound]

end ModifierFlags

end SimpleVM.Input
