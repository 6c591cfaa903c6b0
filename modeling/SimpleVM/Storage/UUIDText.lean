import SimpleVM.Python.Json
import SimpleVM.Storage.Paths

/-!
# UUIDs out of texts

`UUID(uuidString:)`, which reads what `uuidString` writes.
-/
namespace SimpleVM.Storage

open Domain
open Python (hexDigit)

/-- One more digit. -/
def addDigit (n : Nat) (c : Char) : Option Nat := (hexDigit c).map fun digit => n * 16 + digit

/-- `UUID(uuidString:)`. -/
def uuidOfString (text : String) : Option UUID :=
  let characters := text.toList
  let digits := characters.filter (· ≠ '-')
  if characters.length = 36 ∧ digits.length = 32 ∧ characters[8]? = some '-' ∧
      characters[13]? = some '-' ∧ characters[18]? = some '-' ∧ characters[23]? = some '-' then
    (digits.foldlM addDigit 0).map fun n => ⟨BitVec.ofNat 128 n⟩
  else none

theorem hexDigit_hexCharacter {n : Nat} (small : n < 16) :
    hexDigit (hexCharacter n) = some n := by
  have all : ∀ n : Fin 16, hexDigit (hexCharacter n) = some n.val := by decide +kernel
  exact all ⟨n, small⟩

/-- The two digits of a byte add the byte. -/
theorem foldlM_byteDigits (id : UUID) (i n : Nat) :
    (byteDigits id i).foldlM addDigit n = some (n * 256 + byteOf id i) := by
  have small : byteOf id i < 256 := Nat.mod_lt _ (by decide)
  simp only [byteDigits, hexByte_toList, List.foldlM_cons, List.foldlM_nil, addDigit,
    hexDigit_hexCharacter (Nat.mod_lt _ (by decide : 0 < 16)), Option.map_some,
    Option.bind_eq_bind, Option.bind_some, Option.pure_def, Option.some.injEq]
  omega

/-- A byte more of the bits. -/
theorem shift_byte (id : UUID) {i : Nat} (within : i < 16) :
    (id.bits >>> (128 - 8 * i)).toNat * 256 + byteOf id i =
      (id.bits >>> (128 - 8 * (i + 1))).toNat := by
  have split : 128 - 8 * i = 120 - 8 * i + 8 := by omega
  have next : 128 - 8 * (i + 1) = 120 - 8 * i := by omega
  rw [split, next]
  unfold byteOf
  rw [BitVec.toNat_ushiftRight, BitVec.toNat_ushiftRight, Nat.shiftRight_add,
    Nat.shiftRight_eq_div_pow _ 8]
  omega

/-- The digits of the first bytes are the bits before the others. -/
theorem foldlM_digits (id : UUID) {count : Nat} (within : count ≤ 16) :
    ((List.range count).flatMap (byteDigits id)).foldlM addDigit 0 =
      some (id.bits >>> (128 - 8 * count)).toNat := by
  induction count with
  | zero =>
    have none_ : id.bits >>> 128 = 0 := BitVec.ushiftRight_eq_zero (Nat.le_refl _)
    rw [List.range_zero, List.flatMap_nil, List.foldlM_nil]
    rw [show 128 - 8 * 0 = 128 from rfl, none_]
    rfl
  | succ count ih =>
    rw [List.range_succ, List.flatMap_append, List.foldlM_append, ih (by omega)]
    rw [Option.bind_eq_bind, Option.bind_some, List.flatMap_singleton, foldlM_byteDigits,
      shift_byte id (by omega)]

theorem uuidOfString_uuidString (id : UUID) : uuidOfString (uuidString id) = some id := by
  have digits := digits_of_uuidString id
  have count : ((List.range 16).flatMap (byteDigits id)).length = 32 := by
    simp [byteDigits, hexByte_toList, List.range_succ]
  have shape : (uuidString id).toList.length = 36 ∧
      (uuidString id).toList[8]? = some '-' ∧ (uuidString id).toList[13]? = some '-' ∧
      (uuidString id).toList[18]? = some '-' ∧ (uuidString id).toList[23]? = some '-' := by
    rw [uuidString_toList]
    simp only [byteDigits, hexByte_toList, List.cons_append, List.nil_append]
    exact ⟨rfl, rfl, rfl, rfl, rfl⟩
  have bits : (id.bits >>> (128 - 8 * 16)).toNat = id.bits.toNat := by simp
  unfold uuidOfString
  simp only [digits, count]
  rw [if_pos ⟨shape.1, trivial, shape.2⟩, foldlM_digits id (Nat.le_refl _), bits, Option.map_some,
    BitVec.ofNat_toNat, BitVec.setWidth_eq]

end SimpleVM.Storage
