import SimpleVM.Python.Json

/-!
# Text in Python

The methods of `str` that the guest tools call, on lists of code points.
-/
namespace SimpleVM.Python

/-- `str.isspace` of one character. -/
def isWhitespace (n : Nat) : Bool :=
  decide (9 ≤ n ∧ n ≤ 13) || decide (28 ≤ n ∧ n ≤ 32) || n = 0x85 || n = 0xa0 || n = 0x1680 ||
    decide (0x2000 ≤ n ∧ n ≤ 0x200a) || n = 0x2028 || n = 0x2029 || n = 0x202f || n = 0x205f ||
    n = 0x3000

/-- `s.split()`: the runs of other characters between white space. -/
def split (s : Str) : List Str := (s.splitOnP isWhitespace).filter fun run => !run.isEmpty

def strip (s : Str) : Str :=
  ((s.dropWhile isWhitespace).reverse.dropWhile isWhitespace).reverse

/-- `s.partition(sep)`; `none` when the separator, which is not empty, does not occur. -/
def partition (separator : Str) : Str → Option (Str × Str)
  | [] => none
  | c :: rest =>
    if separator.isPrefixOf (c :: rest) then some ([], (c :: rest).drop separator.length)
    else (partition separator rest).map fun (left, right) => (c :: left, right)

/-- The lines of a text file, which ends each with `\n` whatever ends it in the text. `line` has
been read of the first one, and `afterReturn` says that a `\r` has ended the line before it. -/
def linesFrom (line : Str) (afterReturn : Bool) : Str → List Str
  | [] => if line.isEmpty then [] else [line]
  | c :: rest =>
    if c = 10 ∧ afterReturn = true then linesFrom line false rest
    else if c = 10 ∨ c = 13 then (line ++ [10]) :: linesFrom [] (decide (c = 13)) rest
    else linesFrom (line ++ [c]) false rest

/-- What iterating over a file with this text gives. -/
def fileLines (text : Str) : List Str := linesFrom [] false text

/-- `text or default` -/
def orElse (text default : Str) : Str := if text.isEmpty then default else text

section Pieces

theorem mem_of_mem_splitOnP {p : Nat → Bool} {s run : Str} (piece : run ∈ s.splitOnP p) {n : Nat}
    (member : n ∈ run) : n ∈ s := by
  induction s generalizing run with
  | nil =>
    rw [List.splitOnP_nil] at piece
    rw [List.mem_singleton.mp piece] at member
    exact member
  | cons c s ih =>
    rw [List.splitOnP_cons_eq_if_modifyHead] at piece
    split at piece
    · rcases List.mem_cons.mp piece with rfl | later
      · cases member
      · exact List.mem_cons_of_mem c (ih later member)
    · cases runs : s.splitOnP p with
      | nil => exact absurd runs (List.splitOnP_ne_nil p s)
      | cons first others =>
        rw [runs, List.modifyHead_cons] at piece
        rcases List.mem_cons.mp piece with rfl | later
        · rcases List.mem_cons.mp member with rfl | inside
          · exact List.mem_cons_self
          · exact List.mem_cons_of_mem c (ih (by simp [runs]) inside)
        · exact List.mem_cons_of_mem c (ih (by simp [runs, later]) member)

/-- A field is made of characters of the line. -/
theorem subset_of_mem_split {s field : Str} (piece : field ∈ split s) : field ⊆ s :=
  fun _ member => mem_of_mem_splitOnP (List.mem_filter.mp piece).1 member

theorem strip_subset (s : Str) : strip s ⊆ s := by
  intro n member
  have front := List.mem_reverse.mp ((List.dropWhile_suffix isWhitespace).mem
    (List.mem_reverse.mp member))
  exact (List.dropWhile_suffix isWhitespace).mem front

theorem partition_subset {separator s left right : Str}
    (found : partition separator s = some (left, right)) : left ⊆ s ∧ right ⊆ s := by
  induction s generalizing left with
  | nil => cases found
  | cons c s ih =>
    rw [partition] at found
    split at found
    · cases found
      exact ⟨List.nil_subset _, List.drop_subset _ _⟩
    · cases later : partition separator s with
      | none => simp [later] at found
      | some pair =>
        obtain ⟨front, back⟩ := pair
        simp only [later, Option.map_some, Option.some.injEq, Prod.mk.injEq] at found
        obtain ⟨rfl, rfl⟩ := found
        obtain ⟨frontInside, backInside⟩ := ih later
        exact ⟨List.cons_subset_cons c frontInside, List.subset_cons_of_subset c backInside⟩

end Pieces

end SimpleVM.Python
