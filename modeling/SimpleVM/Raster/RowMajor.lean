/-!
# Row-major buffers

A two-dimensional buffer kept as one list, row after row. A buffer given cell by cell
(`ofFn`) is compared with what loops over rows make of it: reading a run of cells out of a
row, and writing a run of cells into a row.
-/
namespace SimpleVM.Raster

variable {α β : Type}

/-- The cells of a `w` by `h` buffer; `f` is given column and row. -/
def ofFn (w h : Nat) (f : Nat → Nat → α) : List α :=
  (List.range (w * h)).map fun i => f (i % w) (i / w)

/-- `n` cells from `start` on. -/
def slice (cells : List α) (start n : Nat) : List α := (cells.drop start).take n

/-- The cells from `start` up to `stop` give way to `new`. -/
def replace (cells : List α) (start stop : Nat) (new : List α) : List α :=
  cells.take start ++ new ++ cells.drop stop

@[simp] theorem length_ofFn (w h : Nat) (f : Nat → Nat → α) : (ofFn w h f).length = w * h := by
  simp [ofFn]

theorem getElem?_ofFn (w h : Nat) (f : Nat → Nat → α) (i : Nat) :
    (ofFn w h f)[i]? = if i < w * h then some (f (i % w) (i / w)) else none := by
  unfold ofFn
  rw [List.getElem?_map]
  split
  · next inside => simp [List.getElem?_range inside]
  · next outside => simp [Nat.not_lt.mp outside]

theorem div_lt_of_lt_mul {w h i : Nat} (inside : i < w * h) : i / w < h := by
  rw [Nat.mul_comm] at inside
  exact Nat.div_lt_of_lt_mul (by rwa [Nat.mul_comm] at inside)

theorem mod_lt_of_lt_mul {w h i : Nat} (inside : i < w * h) : i % w < w := by
  refine Nat.mod_lt i (Nat.pos_of_ne_zero ?_)
  rintro rfl
  simp at inside

/-- Buffers agree when their cells do. -/
theorem ofFn_congr {w h : Nat} {f g : Nat → Nat → α}
    (same : ∀ x < w, ∀ y < h, f x y = g x y) : ofFn w h f = ofFn w h g := by
  refine List.map_congr_left fun i member => ?_
  have inside := List.mem_range.mp member
  exact same _ (mod_lt_of_lt_mul inside) _ (div_lt_of_lt_mul inside)

theorem ofFn_const (w h : Nat) (a : α) : (ofFn w h fun _ _ => a) = List.replicate (w * h) a := by
  simp [ofFn, List.map_const']

/-- A cell at offset `y * w + x` is in column `x` of row `y`. -/
theorem cell_index {w x : Nat} (inside : x < w) (y : Nat) :
    (y * w + x) % w = x ∧ (y * w + x) / w = y := by
  constructor
  · rw [Nat.mul_comm, Nat.mul_add_mod, Nat.mod_eq_of_lt inside]
  · rw [Nat.mul_comm, Nat.mul_add_div (Nat.zero_lt_of_lt inside), Nat.div_eq_of_lt inside,
      Nat.add_zero]

/-- A run of cells in a row ends inside the buffer. -/
theorem run_le {w h x y n : Nat} (columns : x + n ≤ w) (row : y < h) : y * w + x + n ≤ w * h := by
  calc y * w + x + n ≤ y * w + w := by omega
    _ = (y + 1) * w := (Nat.succ_mul y w).symm
    _ ≤ h * w := Nat.mul_le_mul_right w row
    _ = w * h := Nat.mul_comm h w

theorem getElem?_ofFn_cell {w h x y : Nat} (f : Nat → Nat → α) (column : x < w) (row : y < h) :
    (ofFn w h f)[y * w + x]? = some (f x y) := by
  obtain ⟨mod, div⟩ := cell_index column y
  have inside : y * w + x + 1 ≤ w * h := run_le column row
  rw [getElem?_ofFn, if_pos (Nat.lt_of_succ_le inside), mod, div]

/-- A run of cells out of one row. -/
theorem slice_ofFn {w h x y n : Nat} (f : Nat → Nat → α) (columns : x + n ≤ w) (row : y < h) :
    slice (ofFn w h f) (y * w + x) n = (List.range n).map fun i => f (x + i) y := by
  refine List.ext_getElem? fun i => ?_
  unfold slice
  rw [List.getElem?_take, List.getElem?_map]
  split
  · next inside =>
    rw [List.getElem?_drop, Nat.add_assoc, getElem?_ofFn_cell f (by omega) row,
      List.getElem?_range inside]
    rfl
  · next outside => simp [Nat.not_lt.mp outside]

theorem getElem?_replace {cells new : List α} {start : Nat}
    (fits : start + new.length ≤ cells.length) (i : Nat) :
    (replace cells start (start + new.length) new)[i]? =
      if start ≤ i ∧ i < start + new.length then new[i - start]? else cells[i]? := by
  unfold replace
  have taken : (cells.take start).length = start := by
    rw [List.length_take]
    omega
  rw [List.append_assoc, List.getElem?_append, taken]
  split
  · next before => rw [if_neg (by omega), List.getElem?_take, if_pos before]
  · next after =>
    rw [List.getElem?_append]
    split
    · next inside => rw [if_pos (by omega)]
    · next beyond =>
      rw [if_neg (by omega), List.getElem?_drop]
      congr 1
      omega

theorem length_replace {cells new : List α} {start : Nat}
    (fits : start + new.length ≤ cells.length) :
    (replace cells start (start + new.length) new).length = cells.length := by
  simp only [replace, List.length_append, List.length_take, List.length_drop]
  omega

/-- A list of the right length is a buffer. -/
theorem eq_ofFn_getD {w h : Nat} {cells : List α} (length : cells.length = w * h) (default : α) :
    cells = ofFn w h fun x y => cells.getD (y * w + x) default := by
  refine List.ext_getElem? fun i => ?_
  rw [getElem?_ofFn]
  split
  · next inside =>
    rw [Nat.mul_comm, Nat.div_add_mod, List.getD_eq_getElem?_getD,
      List.getElem?_eq_getElem (by omega), Option.getD_some]
  · next outside => rw [List.getElem?_eq_none (by omega)]

/-- The offset of a cell lies in a run of row `y` exactly when its row and column do. -/
theorem run_iff {w x y n : Nat} (columns : x + n ≤ w) (i : Nat) :
    (y * w + x ≤ i ∧ i < y * w + x + n) ↔ (i / w = y ∧ x ≤ i % w ∧ i % w < x + n) := by
  have split := Nat.div_add_mod i w
  constructor
  · rintro ⟨from_, below⟩
    have row : i / w = y := by
      refine Nat.div_eq_of_lt_le (by omega) ?_
      rw [Nat.succ_mul]
      omega
    rw [row, Nat.mul_comm] at split
    omega
  · rintro ⟨rfl, from_, below⟩
    rw [Nat.mul_comm] at split
    omega

/-- A run of cells written into one row. -/
theorem replace_ofFn {w h x y n : Nat} (f : Nat → Nat → α) (g : Nat → α) (columns : x + n ≤ w)
    (row : y < h) :
    replace (ofFn w h f) (y * w + x) (y * w + x + n) ((List.range n).map g) =
      ofFn w h fun i j => if j = y ∧ x ≤ i ∧ i < x + n then g (i - x) else f i j := by
  have fits : y * w + x + n ≤ w * h := run_le columns row
  have length : ((List.range n).map g).length = n := by simp
  refine List.ext_getElem? fun i => ?_
  have room : y * w + x + ((List.range n).map g).length ≤ (ofFn w h f).length := by
    rw [length, length_ofFn]
    exact fits
  have read := getElem?_replace room i
  rw [length] at read
  rw [read, getElem?_ofFn, getElem?_ofFn]
  by_cases run : y * w + x ≤ i ∧ i < y * w + x + n
  · obtain ⟨here, from_, below⟩ := (run_iff columns i).mp run
    have split := Nat.div_add_mod i w
    rw [here, Nat.mul_comm] at split
    rw [if_pos run, if_pos (by omega), if_pos ⟨here, from_, below⟩, List.getElem?_map,
      List.getElem?_range (by omega), Option.map_some]
    congr 2
    omega
  · rw [if_neg run]
    rw [run_iff columns i] at run
    rw [if_neg run]

/-- Row after row, a block of `n` rows written at column `x` and row `y`. -/
theorem foldl_replace_ofFn {w h x y k n : Nat} (f : Nat → Nat → α) (g : Nat → Nat → α)
    (columns : x + k ≤ w) (rows : y + n ≤ h) :
    (List.range n).foldl (fun cells row => replace cells ((y + row) * w + x)
        ((y + row) * w + x + k) ((List.range k).map fun i => g i row)) (ofFn w h f) =
      ofFn w h fun i j =>
        if (x ≤ i ∧ i < x + k) ∧ y ≤ j ∧ j < y + n then g (i - x) (j - y) else f i j := by
  induction n with
  | zero =>
    refine ofFn_congr fun i _ j _ => ?_
    rw [if_neg (by omega)]
  | succ n ih =>
    rw [List.range_succ, List.foldl_append, ih (by omega)]
    simp only [List.foldl_cons, List.foldl_nil]
    rw [replace_ofFn _ _ columns (by omega)]
    refine ofFn_congr fun i _ j _ => ?_
    by_cases last : j = y + n ∧ x ≤ i ∧ i < x + k
    · rw [if_pos last, if_pos (by omega), last.1, Nat.add_sub_cancel_left]
    · rw [if_neg last]
      by_cases inside : (x ≤ i ∧ i < x + k) ∧ y ≤ j ∧ j < y + n
      · rw [if_pos inside, if_pos (by omega)]
      · rw [if_neg inside, if_neg (by omega)]

section Blocks

/-! Cells of several bytes: a list of cells written out in blocks of equal length. -/

variable {code : α → List β} {size : Nat}

theorem length_flatMap_blocks (sized : ∀ a, (code a).length = size) (cells : List α) :
    (cells.flatMap code).length = size * cells.length := by
  induction cells with
  | nil => simp
  | cons a cells ih => rw [List.flatMap_cons, List.length_append, sized, ih, List.length_cons,
      Nat.mul_succ, Nat.add_comm]

theorem drop_flatMap_blocks (sized : ∀ a, (code a).length = size) (cells : List α) (n : Nat) :
    (cells.flatMap code).drop (n * size) = (cells.drop n).flatMap code := by
  induction n generalizing cells with
  | zero => simp
  | succ n ih =>
    cases cells with
    | nil => simp
    | cons a cells =>
      rw [List.flatMap_cons, List.drop_succ_cons, ← ih cells, Nat.succ_mul, Nat.add_comm,
        ← List.drop_drop, List.drop_left' (sized a)]

theorem take_flatMap_blocks (sized : ∀ a, (code a).length = size) (cells : List α) (n : Nat) :
    (cells.flatMap code).take (n * size) = (cells.take n).flatMap code := by
  induction n generalizing cells with
  | zero => simp
  | succ n ih =>
    cases cells with
    | nil => simp
    | cons a cells =>
      rw [List.flatMap_cons, List.take_succ_cons, List.flatMap_cons, ← ih cells, Nat.succ_mul,
        Nat.add_comm, List.take_append, sized a, Nat.add_sub_cancel_left,
        List.take_of_length_le (by rw [sized a]; omega)]

theorem slice_flatMap_blocks (sized : ∀ a, (code a).length = size) (cells : List α)
    (start n : Nat) :
    slice (cells.flatMap code) (start * size) (n * size) = (slice cells start n).flatMap code := by
  unfold slice
  rw [drop_flatMap_blocks sized, take_flatMap_blocks sized]

theorem replace_flatMap_blocks (sized : ∀ a, (code a).length = size) (cells new : List α)
    (start stop : Nat) :
    replace (cells.flatMap code) (start * size) (stop * size) (new.flatMap code) =
      (replace cells start stop new).flatMap code := by
  unfold replace
  rw [drop_flatMap_blocks sized, take_flatMap_blocks sized, List.flatMap_append,
    List.flatMap_append]

/-- A buffer of equal cells, written out, when the cell is written as equal bytes. -/
theorem flatMap_ofFn_const (w h : Nat) {a : α} {b : β} (uniform : code a = List.replicate size b) :
    (ofFn w h fun _ _ => a).flatMap code = List.replicate (w * h * size) b := by
  rw [ofFn_const, List.flatMap_replicate, uniform, List.flatten_replicate_replicate]

end Blocks

end SimpleVM.Raster
