import Mathlib.Data.List.Basic
/-!
# Readers of a stream

A reader takes a value off the front of a stream, or wants more of it. Two facts carry every round
trip: what a value is spelt as is read back whatever follows, and what has been read stays read when
more arrives. From these a stream of whole values and the beginning of one more is split into just
those values and that beginning.
-/
namespace SimpleVM.Streams

/-- A reader of values of type `α` from a stream of symbols. -/
def Reader (Symbol α : Type) := List Symbol → Option (α × List Symbol)

namespace Reader

variable {Symbol α β : Type}

instance : Monad (Reader Symbol) where
  pure a := fun input => some (a, input)
  bind r f := fun input => (r input).bind fun read => f read.1 read.2

/-- The next symbol. -/
def next : Reader Symbol Symbol
  | [] => none
  | symbol :: rest => some (symbol, rest)

/-- Nothing is read here. -/
def reject : Reader Symbol α := fun _ => none

/-- So many values one after another. -/
def times (r : Reader Symbol α) : Nat → Reader Symbol (List α)
  | 0 => pure []
  | n + 1 => do
    let first ← r
    let others ← times r n
    return first :: others

theorem pure_apply (a : α) (input : List Symbol) :
    (pure a : Reader Symbol α) input = some (a, input) := rfl

theorem bind_apply (r : Reader Symbol α) (f : α → Reader Symbol β) (input : List Symbol) :
    (r >>= f) input = (r input).bind fun read => f read.1 read.2 := rfl

theorem next_cons (symbol : Symbol) (rest : List Symbol) :
    next (symbol :: rest) = some (symbol, rest) := rfl

/-- The reader takes exactly what a value is spelt as, whatever follows. -/
def ReadsBack (r : Reader Symbol α) (spelt : List Symbol) (a : α) : Prop :=
  ∀ rest, r (spelt ++ rest) = some (a, rest)

/-- What is read is read the same way when more has arrived. -/
def Settled (r : Reader Symbol α) : Prop :=
  ∀ input a rest more, r input = some (a, rest) → r (input ++ more) = some (a, rest ++ more)

variable {r : Reader Symbol α} {f : α → Reader Symbol β}

theorem settled_pure (a : α) : Settled (pure a : Reader Symbol α) := by
  intro input b rest more read
  cases read
  rfl

theorem settled_reject : Settled (reject : Reader Symbol α) := by
  intro input a rest more read
  cases read

theorem settled_next : Settled (next : Reader Symbol Symbol) := by
  intro input a rest more read
  cases input with
  | nil => cases read
  | cons symbol others =>
    cases read
    rfl

theorem Settled.bind (settled : Settled r) (then_ : ∀ a, Settled (f a)) : Settled (r >>= f) := by
  intro input b rest more read
  rw [bind_apply] at read ⊢
  obtain ⟨⟨a, middle⟩, first, second⟩ := Option.bind_eq_some_iff.mp read
  rw [settled input a middle more first]
  exact then_ a middle b rest more second

theorem Settled.times (settled : Settled r) (n : Nat) : Settled (r.times n) := by
  induction n with
  | zero => exact settled_pure []
  | succ n ih => exact settled.bind fun _ => ih.bind fun _ => settled_pure _

theorem Settled.ite {c : Prop} [Decidable c] {other : Reader Symbol α} (settled : Settled r)
    (also : Settled other) : Settled (if c then r else other) := by
  by_cases holds : c
  · rw [if_pos holds]
    exact settled
  · rw [if_neg holds]
    exact also

/-- The beginning of a value is not a value yet. -/
theorem Settled.wants (settled : Settled r) {begun left : List Symbol} {a : α}
    (reads : ReadsBack r (begun ++ left) a) (unfinished : left ≠ []) : r begun = none := by
  cases early : r begun with
  | none => rfl
  | some read =>
    -- What is read early is read of the whole as well, where nothing is left.
    obtain ⟨b, rest⟩ := read
    have whole := reads []
    rw [List.append_nil, settled begun b rest left early] at whole
    have nothing : rest ++ left = [] := (Prod.mk.inj (Option.some.inj whole)).2
    exact absurd (List.append_eq_nil_iff.mp nothing).2 unfinished

/-- The values at the front of a stream, at most so many, and what is left of it. -/
def upTo (r : Reader Symbol α) : Nat → List Symbol → List α × List Symbol
  | 0, input => ([], input)
  | n + 1, input =>
    match r input with
    | none => ([], input)
    | some (a, rest) => (a :: (upTo r n rest).1, (upTo r n rest).2)

/-- All values at the front of a stream, none of which is spelt as nothing. -/
def all (r : Reader Symbol α) (input : List Symbol) : List α × List Symbol :=
  r.upTo input.length input

/-- A stream of values and the beginning of one more is split into these. -/
theorem all_eq {Value : Type} {spell : Value → List Symbol} {meaning : Value → α}
    (reads : ∀ v, ReadsBack r (spell v) (meaning v)) (proper : ∀ v, spell v ≠ [])
    {begun : List Symbol} (unfinished : r begun = none) (values : List Value) :
    r.all (values.flatMap spell ++ begun) = (values.map meaning, begun) := by
  -- More rounds than symbols are enough: every value has a symbol.
  suffices within : ∀ n, (values.flatMap spell ++ begun).length ≤ n →
      r.upTo n (values.flatMap spell ++ begun) = (values.map meaning, begun) from
    within _ (Nat.le_refl _)
  induction values with
  | nil =>
    intro n _
    cases n with
    | zero => rfl
    | succ n => simp only [List.flatMap_nil, List.nil_append, upTo, unfinished, List.map_nil]
  | cons v values ih =>
    intro n enough
    have some : 0 < (spell v).length := List.length_pos_iff.mpr (proper v)
    rw [List.flatMap_cons, List.append_assoc] at enough ⊢
    cases n with
    | zero =>
      rw [List.length_append] at enough
      omega
    | succ n =>
      rw [List.length_append] at enough
      have rest := ih n (by omega)
      rw [upTo, reads v]
      simp only [rest, List.map_cons]

end Reader

end SimpleVM.Streams
