/-!
# UTF-8 over lists

The encoding of characters as a list of bytes and its strict decoding, with what follows for
prefixes and for single bytes. The code itself is the one of the core library.
-/
namespace SimpleVM.Text

def utf8 (text : List Char) : List UInt8 := text.flatMap String.utf8EncodeChar

/-- `none` unless the bytes are well-formed UTF-8. -/
def decodeUTF8 (bytes : List UInt8) : Option (List Char) :=
  (bytes.toByteArray.utf8Decode?).map Array.toList

@[simp] theorem utf8_nil : utf8 [] = [] := rfl

@[simp] theorem utf8_cons (c : Char) (text : List Char) :
    utf8 (c :: text) = String.utf8EncodeChar c ++ utf8 text := List.flatMap_cons

@[simp] theorem utf8_append (text more : List Char) : utf8 (text ++ more) = utf8 text ++ utf8 more :=
  List.flatMap_append

theorem toByteArray_utf8 (text : List Char) : (utf8 text).toByteArray = text.utf8Encode := rfl

theorem toByteArray_injective {a b : List UInt8} (same : a.toByteArray = b.toByteArray) : a = b := by
  have lists := congrArg (fun bytes : ByteArray => bytes.data.toList) same
  simpa using lists

theorem decodeUTF8_utf8 (text : List Char) : decodeUTF8 (utf8 text) = some text := by
  rw [decodeUTF8, toByteArray_utf8, List.utf8Decode?_utf8Encode]
  rfl

/-- Decoding inverts encoding and nothing else. -/
theorem decodeUTF8_eq_some {bytes : List UInt8} {text : List Char} :
    decodeUTF8 bytes = some text ↔ bytes = utf8 text := by
  constructor
  · intro decoded
    unfold decodeUTF8 at decoded
    cases found : bytes.toByteArray.utf8Decode? with
    | none =>
      rw [found] at decoded
      cases decoded
    | some chars =>
      rw [found] at decoded
      cases decoded
      have valid : bytes.toByteArray.utf8Decode?.isSome = true := by simp [found]
      have encoded := ByteArray.utf8Encode_get_utf8Decode? (h := valid)
      simp only [found, Option.get_some] at encoded
      exact toByteArray_injective (encoded.symm.trans (toByteArray_utf8 _).symm)
  · rintro rfl
    exact decodeUTF8_utf8 text

/-- Encoded texts are prefixes of one another only when the texts are. -/
theorem starts_of_utf8_starts {a b : List Char} {more : List UInt8}
    (starts : utf8 a ++ more = utf8 b) : a <+: b := by
  refine List.isPrefix_of_utf8Encode_append_eq_utf8Encode more.toByteArray ?_
  rw [← toByteArray_utf8, ← toByteArray_utf8, ← starts]
  simp

/-- The size of the core library counts the bytes. -/
theorem length_utf8 (text : List Char) : (utf8 text).length = (String.ofList text).utf8ByteSize := by
  rw [String.utf8ByteSize, String.toByteArray_ofList, ← toByteArray_utf8, List.size_toByteArray]

theorem length_utf8_toList (text : String) : (utf8 text.toList).length = text.utf8ByteSize := by
  rw [length_utf8, String.ofList_toList]

section Bytes

/-- An ASCII character is its own byte. -/
theorem utf8EncodeChar_ascii {c : Char} (ascii : c.val ≤ 127) :
    String.utf8EncodeChar c = [c.val.toUInt8] :=
  String.utf8EncodeChar_eq_singleton (Char.utf8Size_eq_one_iff.mpr ascii)

/-- The bytes of any other character have their top bit set. -/
theorem le_of_mem_utf8EncodeChar {c : Char} (wide : ¬ c.val ≤ 127) {b : UInt8}
    (member : b ∈ String.utf8EncodeChar c) : 128 ≤ b := by
  have wide : ¬ c.val.toNat ≤ 127 := fun small => wide (UInt32.le_iff_toNat_le.mpr small)
  have low (n : Nat) : 128 ≤ UInt8.ofNat (n % 64 + 128) := by
    rw [UInt8.le_iff_toNat_le, UInt8.toNat_ofNat']
    simp only [UInt8.reduceToNat, Nat.reducePow]
    omega
  have high (n m k : Nat) (small : m ≤ k) (marks : 128 ≤ k) (fits : k + m ≤ 256) (some : 0 < m) :
      128 ≤ UInt8.ofNat (n % m + k) := by
    have below := Nat.mod_lt n some
    rw [UInt8.le_iff_toNat_le, UInt8.toNat_ofNat']
    simp only [UInt8.reduceToNat, Nat.reducePow]
    omega
  unfold String.utf8EncodeChar at member
  simp only [wide, if_false] at member
  split at member
  · simp only [List.mem_cons, List.not_mem_nil, or_false] at member
    rcases member with rfl | rfl
    · exact high _ 32 192 (by decide) (by decide) (by decide) (by decide)
    · exact low _
  · split at member
    · simp only [List.mem_cons, List.not_mem_nil, or_false] at member
      rcases member with rfl | rfl | rfl
      · exact high _ 16 224 (by decide) (by decide) (by decide) (by decide)
      · exact low _
      · exact low _
    · simp only [List.mem_cons, List.not_mem_nil, or_false] at member
      rcases member with rfl | rfl | rfl | rfl
      · exact high _ 8 240 (by decide) (by decide) (by decide) (by decide)
      · exact low _
      · exact low _
      · exact low _

/-- A byte below 128 encodes the character with that number and no other. -/
theorem exists_of_mem_utf8 {text : List Char} {b : UInt8} (member : b ∈ utf8 text) (ascii : b < 128) :
    ∃ c ∈ text, c.toNat = b.toNat := by
  obtain ⟨c, inside, here⟩ := List.mem_flatMap.mp member
  refine ⟨c, inside, ?_⟩
  by_cases small : c.val ≤ 127
  · rw [utf8EncodeChar_ascii small, List.mem_singleton] at here
    have bound := UInt32.le_iff_toNat_le.mp small
    simp only [UInt32.reduceToNat] at bound
    rw [here, UInt32.toNat_toUInt8]
    show c.val.toNat = c.val.toNat % 256
    omega
  · exact absurd ascii (UInt8.not_lt.mpr (le_of_mem_utf8EncodeChar small here))

end Bytes

end SimpleVM.Text
