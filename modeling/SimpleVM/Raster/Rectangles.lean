import Mathlib.Data.Set.Basic
/-!
# Rectangles of cells

Rectangles with an integer corner, as Core Graphics computes with them: the intersection of
two, which is null where they are apart, and the smallest rectangle around two. An empty
rectangle still has a place, so the smallest rectangle around it and another contains its corner.
-/
namespace SimpleVM.Raster

/-- A cell, by column and row. -/
abbrev Cell := Int × Int

/-- A rectangle: its corner and its size. -/
structure CGRect where
  x : Int
  y : Int
  width : Nat
  height : Nat
  deriving DecidableEq, Repr

namespace CGRect

/-- `CGRectZero`. -/
def zero : CGRect := ⟨0, 0, 0, 0⟩

/-- `CGRectIsEmpty`. -/
def isEmpty (r : CGRect) : Bool := r.width == 0 || r.height == 0

/-- The cells in the rectangle. -/
def cells (r : CGRect) : Set Cell :=
  {c | r.x ≤ c.1 ∧ c.1 < r.x + r.width ∧ r.y ≤ c.2 ∧ c.2 < r.y + r.height}

/-- `CGRectIntersection`; `none` is the null rectangle. -/
def intersection (a b : CGRect) : Option CGRect :=
  let left := max a.x b.x
  let right := min (a.x + a.width) (b.x + b.width)
  let top := max a.y b.y
  let bottom := min (a.y + a.height) (b.y + b.height)
  if left ≤ right ∧ top ≤ bottom then
    some ⟨left, top, (right - left).toNat, (bottom - top).toNat⟩
  else
    none

/-- `CGRectUnion`: the smallest rectangle around both, empty ones included. -/
def union (a b : CGRect) : CGRect :=
  let left := min a.x b.x
  let right := max (a.x + a.width) (b.x + b.width)
  let top := min a.y b.y
  let bottom := max (a.y + a.height) (b.y + b.height)
  ⟨left, top, (right - left).toNat, (bottom - top).toNat⟩

/-- `a` lies in `b`, corners included. -/
def Within (a b : CGRect) : Prop :=
  b.x ≤ a.x ∧ a.x + a.width ≤ b.x + b.width ∧ b.y ≤ a.y ∧ a.y + a.height ≤ b.y + b.height

variable {a b r : CGRect} {c : Cell}

@[simp] theorem mem_cells : c ∈ r.cells ↔
    r.x ≤ c.1 ∧ c.1 < r.x + r.width ∧ r.y ≤ c.2 ∧ c.2 < r.y + r.height := Iff.rfl

instance : Decidable (c ∈ r.cells) := decidable_of_iff _ mem_cells.symm

theorem isEmpty_iff : r.isEmpty = true ↔ r.width = 0 ∨ r.height = 0 := by
  simp [isEmpty]

@[simp] theorem isEmpty_zero : zero.isEmpty = true := by decide

theorem notMem_of_isEmpty (empty : r.isEmpty = true) : c ∉ r.cells := by
  intro ⟨left, right, top, bottom⟩
  rcases isEmpty_iff.mp empty with none | none
  · omega
  · omega

theorem mem_intersection (shared : a.intersection b = some r) :
    c ∈ r.cells ↔ c ∈ a.cells ∧ c ∈ b.cells := by
  simp only [intersection] at shared
  split at shared
  · cases shared
    simp only [mem_cells]
    omega
  · cases shared

theorem notMem_of_null (apart : a.intersection b = none) : ¬ (c ∈ a.cells ∧ c ∈ b.cells) := by
  simp only [intersection] at apart
  split at apart
  · cases apart
  · next outside =>
    simp only [mem_cells]
    omega

theorem within_intersection (shared : a.intersection b = some r) : r.Within a ∧ r.Within b := by
  simp only [intersection] at shared
  split at shared
  · cases shared
    simp only [Within]
    omega
  · cases shared

theorem mem_union_left (inside : c ∈ a.cells) : c ∈ (a.union b).cells := by
  simp only [union, mem_cells] at inside ⊢
  omega

theorem mem_union_right (inside : c ∈ b.cells) : c ∈ (a.union b).cells := by
  simp only [union, mem_cells] at inside ⊢
  omega

theorem Within.refl (r : CGRect) : r.Within r :=
  ⟨Int.le_refl _, Int.le_refl _, Int.le_refl _, Int.le_refl _⟩

theorem Within.union (left : a.Within r) (right : b.Within r) : (a.union b).Within r := by
  simp only [CGRect.union, Within] at left right ⊢
  omega

theorem Within.trans (first : a.Within b) (second : b.Within r) : a.Within r := by
  simp only [Within] at first second ⊢
  omega

theorem Within.subset (within : a.Within b) : a.cells ⊆ b.cells := by
  intro c inside
  simp only [Within, mem_cells] at within inside ⊢
  omega

/-- `CGRectZero` lies in every rectangle whose corner is the origin. -/
theorem zero_within (column : r.x = 0) (row : r.y = 0) : zero.Within r := by
  simp only [Within, zero]
  omega

end CGRect

end SimpleVM.Raster
