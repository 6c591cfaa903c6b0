import SimpleVM.Files.Tree
import SimpleVM.Storage.ManagedMachineStore

/-!
# Paths

A relative path as the names between its slashes, and the directories of machines as paths.
Different machines have directories that are apart.
-/
namespace SimpleVM.Storage

open Domain Files

abbrev Path := List String

def components (relativePath : String) : Path :=
  (pathComponents relativePath.toList).map String.ofList

/-- `StorageLayout.relativePath(for:)` of a URL below the root. -/
def relativePath (path : Path) : String := "/".intercalate path

/-- `machineURL(id:)`. -/
def machinePath (id : UUID) : Path := ["Machines", uuidString id]

/-- The name is one path component. -/
def IsName (name : String) : Prop := '/' ∉ name.toList

theorem pathComponents_of_name {chars : List Char} (name : '/' ∉ chars) :
    pathComponents chars = [chars] := by
  induction chars with
  | nil => rfl
  | cons c rest ih =>
    simp only [List.mem_cons, not_or] at name
    have apart : c ≠ '/' := fun same => name.1 same.symm
    simp [pathComponents, apart, ih name.2]

theorem pathComponents_append {chars : List Char} (name : '/' ∉ chars) (rest : List Char) :
    pathComponents (chars ++ '/' :: rest) = chars :: pathComponents rest := by
  induction chars with
  | nil => simp [pathComponents]
  | cons c others ih =>
    simp only [List.mem_cons, not_or] at name
    have apart : c ≠ '/' := fun same => name.1 same.symm
    simp [pathComponents, apart, ih name.2]

theorem components_append {name : String} (isName : IsName name) (rest : String) :
    components (name ++ "/" ++ rest) = name :: components rest := by
  have chars : (name ++ "/" ++ rest).toList = name.toList ++ '/' :: rest.toList := by
    simp [String.toList_append]
  simp [components, chars, pathComponents_append isName]

theorem components_of_name {name : String} (isName : IsName name) :
    components name = [name] := by
  simp [components, pathComponents_of_name isName]

theorem components_relativePath {path : Path} (nonempty : path ≠ [])
    (names : ∀ name ∈ path, IsName name) : components (relativePath path) = path := by
  induction path with
  | nil => exact absurd rfl nonempty
  | cons name rest ih =>
    have isName := names name (by simp)
    cases rest with
    | nil => exact components_of_name isName
    | cons next others =>
      have joined : relativePath (name :: next :: others) =
          name ++ "/" ++ relativePath (next :: others) := String.intercalate_cons_cons
      rw [joined, components_append isName]
      congr 1
      exact ih (by simp) fun other member => names other (by simp [member])

/-- One of the sixteen bytes of a UUID, the highest first. -/
def byteOf (id : UUID) (i : Nat) : Nat := (id.bits >>> (120 - 8 * i)).toNat % 256

theorem eq_of_bytes (n : Nat) {x y : Nat} (boundX : x < Nat.pow 256 n)
    (boundY : y < Nat.pow 256 n)
    (same : ∀ j, j < n → x / Nat.pow 256 j % 256 = y / Nat.pow 256 j % 256) : x = y := by
  simp only [Nat.pow_eq] at boundX boundY same
  induction n generalizing x y with
  | zero => simp at boundX boundY; omega
  | succ n ih =>
    have last : x % 256 = y % 256 := by simpa using same 0 (by omega)
    have rest : x / 256 = y / 256 := by
      refine ih ?_ ?_ fun j below => ?_
      · exact Nat.div_lt_of_lt_mul (by rwa [Nat.pow_succ, Nat.mul_comm] at boundX)
      · exact Nat.div_lt_of_lt_mul (by rwa [Nat.pow_succ, Nat.mul_comm] at boundY)
      · have next := same (j + 1) (by omega)
        rwa [Nat.pow_succ, Nat.mul_comm, ← Nat.div_div_eq_div_mul,
          ← Nat.div_div_eq_div_mul] at next
    omega

theorem uuid_of_bytes {a b : UUID} (same : ∀ i, i < 16 → byteOf a i = byteOf b i) : a = b := by
  obtain ⟨x⟩ := a
  obtain ⟨y⟩ := b
  congr 1
  apply BitVec.eq_of_toNat_eq
  refine eq_of_bytes 16 x.isLt y.isLt fun j below => ?_
  have here := same (15 - j) (by omega)
  have shift : 120 - 8 * (15 - j) = 8 * j := by omega
  simp only [byteOf, shift, BitVec.toNat_ushiftRight, Nat.shiftRight_eq_div_pow, Nat.pow_mul]
    at here
  exact here

/-- The digit `hexByte` writes. -/
def hexCharacter (n : Nat) : Char := ("0123456789ABCDEF".toList[n]?).getD '0'

theorem hexCharacter_injective {m n : Nat} (boundM : m < 16) (boundN : n < 16)
    (same : hexCharacter m = hexCharacter n) : m = n := by
  have all : ∀ m n : Fin 16, hexCharacter m = hexCharacter n → m = n := by decide +kernel
  exact congrArg Fin.val (all ⟨m, boundM⟩ ⟨n, boundN⟩ same)

/-- Neither a hyphen nor a slash. -/
theorem hexCharacter_plain {n : Nat} (bound : n < 16) :
    hexCharacter n ≠ '-' ∧ hexCharacter n ≠ '/' := by
  have all : ∀ n : Fin 16, hexCharacter n ≠ '-' ∧ hexCharacter n ≠ '/' := by decide +kernel
  exact all ⟨n, bound⟩

theorem hexByte_toList (byte : Nat) :
    (hexByte byte).toList = [hexCharacter (byte / 16 % 16), hexCharacter (byte % 16)] := by
  unfold hexByte hexCharacter
  exact String.toList_ofList

theorem hexByte_injective {x y : Nat} (boundX : x < 256) (boundY : y < 256)
    (same : (hexByte x).toList = (hexByte y).toList) : x = y := by
  simp only [hexByte_toList, List.cons.injEq, and_true] at same
  have high := hexCharacter_injective (by omega) (by omega) same.1
  have low := hexCharacter_injective (by omega) (by omega) same.2
  omega

/-- The two digits of a byte of a UUID. -/
def byteDigits (id : UUID) (i : Nat) : List Char := (hexByte (byteOf id i)).toList

theorem uuidString_toList (id : UUID) : (uuidString id).toList =
    byteDigits id 0 ++ byteDigits id 1 ++ byteDigits id 2 ++ byteDigits id 3 ++ ['-'] ++
    byteDigits id 4 ++ byteDigits id 5 ++ ['-'] ++ byteDigits id 6 ++ byteDigits id 7 ++ ['-'] ++
    byteDigits id 8 ++ byteDigits id 9 ++ ['-'] ++ byteDigits id 10 ++ byteDigits id 11 ++
    byteDigits id 12 ++ byteDigits id 13 ++ byteDigits id 14 ++ byteDigits id 15 := by
  simp [uuidString, byteDigits, byteOf, List.range'_succ]

theorem mem_byteDigits {id : UUID} {i : Nat} {c : Char} (member : c ∈ byteDigits id i) :
    c ≠ '-' ∧ c ≠ '/' := by
  simp only [byteDigits, hexByte_toList, List.mem_cons, List.not_mem_nil, or_false] at member
  rcases member with rfl | rfl
  · exact hexCharacter_plain (by omega)
  · exact hexCharacter_plain (by omega)

theorem isName_uuidString (id : UUID) : IsName (uuidString id) := by
  have plain (i : Nat) (slash : '/' ∈ byteDigits id i) : False := (mem_byteDigits slash).2 rfl
  intro slash
  simp only [uuidString_toList, List.mem_append, List.mem_singleton] at slash
  grind

theorem digits_of_uuidString (id : UUID) :
    (uuidString id).toList.filter (· ≠ '-') = (List.range 16).flatMap (byteDigits id) := by
  have plain (i : Nat) : (byteDigits id i).filter (· ≠ '-') = byteDigits id i := by
    apply List.filter_eq_self.mpr
    intro c member
    simpa using (mem_byteDigits member).1
  rw [uuidString_toList]
  simp only [List.filter_append, plain]
  simp [List.range_succ]

/-- Blocks of equal lengths are determined by their concatenation. -/
theorem eq_of_flatMap_eq {f g : Nat → List Char} (lengths : ∀ i, (f i).length = (g i).length)
    {l : List Nat} (same : l.flatMap f = l.flatMap g) : ∀ i ∈ l, f i = g i := by
  induction l with
  | nil => simp
  | cons first rest ih =>
    obtain ⟨here, later⟩ := List.append_inj same (lengths first)
    intro i member
    rcases List.mem_cons.mp member with rfl | deeper
    · exact here
    · exact ih later i deeper

theorem uuidString_injective {a b : UUID} (same : uuidString a = uuidString b) : a = b := by
  have digits : (List.range 16).flatMap (byteDigits a) = (List.range 16).flatMap (byteDigits b) := by
    rw [← digits_of_uuidString, ← digits_of_uuidString, same]
  apply uuid_of_bytes
  intro i below
  have here := eq_of_flatMap_eq (fun i => by simp [byteDigits, hexByte_toList]) digits i
    (List.mem_range.mpr below)
  exact hexByte_injective (Nat.mod_lt _ (by decide)) (Nat.mod_lt _ (by decide)) here

theorem machinePath_apart {a b : UUID} (differ : a ≠ b) : Apart (machinePath a) (machinePath b) :=
  (Apart.of_ne (fun same => differ (uuidString_injective same)) [] []).cons "Machines"

end SimpleVM.Storage
