import SimpleVM.QEMU.OptionText
import SimpleVM.Storage.Paths
import SimpleVM.Swift.Characters
import SimpleVM.Text.SpacedParts

/-!
# Addresses of network cards

An address should be six octets of two hexadecimal digits with a colon between each two of them.
The check also takes a sign for a digit, and any number of colons where it should take one or
none. What it accepts has no comma, so it stays one value of the device option.
-/
namespace SimpleVM.QEMU

open Domain Storage Text

def IsOctet (part : List Char) : Prop :=
  ∃ first second, part = [first, second] ∧ isHexDigit first = true ∧ isHexDigit second = true

/-- Six octets with one colon between each two. -/
def IsMACAddress (value : String) : Prop :=
  ∃ octets, octets.length = 6 ∧ (∀ octet ∈ octets, IsOctet octet) ∧
    value.toList = List.intercalate [':'] octets

/-- A sign and a digit that make up a byte. -/
def IsSigned (part : List Char) : Prop :=
  (∃ digit, part = ['+', digit] ∧ isHexDigit digit = true) ∨ part = ['-', '0']

/-- Six octets or signed digits, with any number of colons before and behind, and at least one
between each two. -/
def IsSpelled (value : String) : Prop :=
  ∃ front items, value.toList = List.replicate front ':' ++ spaced ':' items ∧
    items.length = 6 ∧ (∀ item ∈ items, IsOctet item.1 ∨ IsSigned item.1) ∧
    ∀ item ∈ items.dropLast, 0 < item.2

/-- Something like an address that has a sign, or more colons than five. -/
def IsLoose (value : String) : Prop :=
  IsSpelled value ∧ ('+' ∈ value.toList ∨ '-' ∈ value.toList ∨ 5 < value.toList.count ':')

/-- `0` to `15`. -/
def digitValue (c : Char) : Nat :=
  if c.isDigit then c.toNat - 48 else if 'a' ≤ c ∧ c ≤ 'f' then c.toNat - 87 else c.toNat - 55

def octetValue (octet : List Char) : Nat := octet.foldl (fun n c => 16 * n + digitValue c) 0

/-- The octets of an address. -/
def octetsOf (value : String) : List Nat := (parts ':' value.toList).map octetValue

/-- The two lowest bits of the first octet tell local addresses from universal ones, and groups
from single cards. -/
def IsLocalUnicast (value : String) : Prop :=
  ∃ first rest, octetsOf value = first :: rest ∧ first.testBit 1 = true ∧ first.testBit 0 = false

variable {value : String} {part : List Char} {octets : List (List Char)}

section Parts

theorem parts_eq (separator : Char) (text : List Char) :
    parts separator text = nonemptyPieces separator text := by
  unfold parts nonemptyPieces
  congr 1
  induction text with
  | nil => rfl
  | cons c text ih =>
    rw [List.foldr_cons, ih, pieces]
    split
    · rfl
    · cases pieces separator text <;> rfl

theorem isHexByte_iff : isHexByte part = true ↔ IsOctet part ∨ IsSigned part := by
  rcases part with _ | ⟨first, _ | ⟨second, _ | ⟨third, rest⟩⟩⟩
  · simp [isHexByte, IsOctet, IsSigned]
  · simp [isHexByte, IsOctet, IsSigned]
  · simp only [isHexByte, IsOctet, IsSigned, Bool.or_eq_true, Bool.and_eq_true, decide_eq_true_eq,
      List.cons.injEq, and_true, or_assoc]
    constructor
    · rintro (⟨high, low⟩ | ⟨plus, low⟩ | ⟨minus, zero⟩)
      · exact .inl ⟨first, second, ⟨rfl, rfl⟩, high, low⟩
      · exact .inr (.inl ⟨second, ⟨plus, rfl⟩, low⟩)
      · exact .inr (.inr ⟨minus, zero⟩)
    · rintro (⟨_, _, ⟨rfl, rfl⟩, high, low⟩ | ⟨_, ⟨plus, rfl⟩, low⟩ | ⟨minus, zero⟩)
      · exact .inl ⟨high, low⟩
      · exact .inr (.inl ⟨plus, low⟩)
      · exact .inr (.inr ⟨minus, zero⟩)
  · simp [isHexByte, IsOctet, IsSigned]

/-- What is no digit. -/
theorem hexDigit_plain {c : Char} (digit : isHexDigit c = true) :
    c ≠ ':' ∧ c ≠ ',' ∧ c ≠ '+' ∧ c ≠ '-' := by
  refine ⟨?_, ?_, ?_, ?_⟩
  all_goals
    rintro rfl
    revert digit
    decide

/-- A part that is accepted has neither a colon nor a comma. -/
theorem part_plain (accepted : IsOctet part ∨ IsSigned part) :
    part ≠ [] ∧ ':' ∉ part ∧ ',' ∉ part := by
  rcases accepted with ⟨first, second, rfl, high, low⟩ | ⟨digit, rfl, low⟩ | rfl
  · obtain ⟨colon, comma, -, -⟩ := hexDigit_plain high
    obtain ⟨colon', comma', -, -⟩ := hexDigit_plain low
    simp [colon.symm, comma.symm, colon'.symm, comma'.symm]
  · obtain ⟨colon, comma, -, -⟩ := hexDigit_plain low
    simp [colon.symm, comma.symm]
  · decide

/-- Signed parts are those with a sign. -/
theorem octet_iff (accepted : IsOctet part ∨ IsSigned part) :
    IsOctet part ↔ '+' ∉ part ∧ '-' ∉ part := by
  constructor
  · rintro ⟨first, second, rfl, high, low⟩
    obtain ⟨-, -, plus, minus⟩ := hexDigit_plain high
    obtain ⟨-, -, plus', minus'⟩ := hexDigit_plain low
    simp [plus.symm, minus.symm, plus'.symm, minus'.symm]
  · rintro ⟨plus, minus⟩
    rcases accepted with octet | ⟨digit, rfl, -⟩ | rfl
    · exact octet
    · exact absurd List.mem_cons_self plus
    · exact absurd List.mem_cons_self minus

/-- The check accepts exactly what is spelled like an address. -/
theorem isValidMACAddress_iff : isValidMACAddress value = true ↔ IsSpelled value := by
  simp only [isValidMACAddress, parts_eq, Bool.and_eq_true, decide_eq_true_eq, List.all_eq_true,
    isHexByte_iff]
  constructor
  · rintro ⟨six, accepted⟩
    obtain ⟨front, items, text, spaces⟩ := exists_spaced ':' value.toList
    rw [text, nonemptyPieces_spaced spaces] at six accepted
    rw [List.length_map] at six
    exact ⟨front, items, text, six,
      fun item member => accepted item.1 (List.mem_map_of_mem member), spaces.between⟩
  · rintro ⟨front, items, text, six, accepted, between⟩
    have spaces : Spaces ':' items := by
      refine ⟨fun item member => ?_, between⟩
      obtain ⟨nonempty, plain, -⟩ := part_plain (accepted item member)
      exact ⟨nonempty, plain⟩
    rw [text, nonemptyPieces_spaced spaces, List.length_map]
    refine ⟨six, fun part member => ?_⟩
    obtain ⟨item, listed, rfl⟩ := List.mem_map.mp member
    exact accepted item listed

end Parts

section Shape

variable {items : List (List Char × Nat)} {front : Nat}

/-- Accepted parts are parts, whatever stands between them. -/
theorem spaces_of_accepted (accepted : ∀ item ∈ items, IsOctet item.1 ∨ IsSigned item.1)
    (between : ∀ item ∈ items.dropLast, 0 < item.2) : Spaces ':' items := by
  refine ⟨fun item member => ?_, between⟩
  obtain ⟨nonempty, plain, -⟩ := part_plain (accepted item member)
  exact ⟨nonempty, plain⟩

/-- A character other than a colon stands in one of the parts. -/
theorem mem_spelled {c : Char} (other : c ≠ ':') :
    c ∈ List.replicate front ':' ++ spaced ':' items ↔ ∃ item ∈ items, c ∈ item.1 := by
  simp [spaced, List.mem_replicate, other]

/-- An address is spelled like one, without signs and with five colons. -/
theorem IsMACAddress.spelled (address : IsMACAddress value) :
    IsSpelled value ∧ '+' ∉ value.toList ∧ '-' ∉ value.toList ∧ value.toList.count ':' ≤ 5 := by
  obtain ⟨octets, six, each, text⟩ := address
  have plain : ∀ octet ∈ octets, octet ≠ [] ∧ ':' ∉ octet := by
    intro octet member
    obtain ⟨nonempty, colon, -⟩ := part_plain (.inl (each octet member))
    exact ⟨nonempty, colon⟩
  have octet (item : List Char × Nat) (listed : item ∈ spacedByOne octets) : IsOctet item.1 := by
    apply each
    rw [← spacedByOne_fst octets]
    exact List.mem_map_of_mem listed
  have shape : value.toList = List.replicate 0 ':' ++ spaced ':' (spacedByOne octets) := by
    rw [text, spaced_byOne]
    rfl
  have length : (spacedByOne octets).length = 6 := by
    rw [← List.length_map (f := Prod.fst), spacedByOne_fst, six]
  refine ⟨⟨0, spacedByOne octets, shape, length, fun item listed => .inl (octet item listed),
    (spaces_byOne plain).between⟩, ?_, ?_, ?_⟩
  · rw [shape, mem_spelled (by decide)]
    rintro ⟨item, listed, inside⟩
    exact ((octet_iff (.inl (octet item listed))).mp (octet item listed)).1 inside
  · rw [shape, mem_spelled (by decide)]
    rintro ⟨item, listed, inside⟩
    exact ((octet_iff (.inl (octet item listed))).mp (octet item listed)).2 inside
  · have five : (spaced ':' (spacedByOne octets)).count ':' = octets.length - 1 :=
      count_byOne fun octet member => (plain octet member).2
    rw [shape, List.replicate_zero, List.nil_append]
    omega

/-- Nothing else is an address. -/
theorem IsSpelled.address (spelled : IsSpelled value) (plus : '+' ∉ value.toList)
    (minus : '-' ∉ value.toList) (colons : value.toList.count ':' ≤ 5) : IsMACAddress value := by
  obtain ⟨front, items, text, six, accepted, between⟩ := spelled
  have spaces := spaces_of_accepted accepted between
  obtain ⟨least, exactly⟩ := count_spaced spaces
  rw [text, mem_spelled (by decide)] at plus minus
  rw [text, List.count_append, List.count_replicate_self] at colons
  have noFront : front = 0 := by omega
  refine ⟨items.map Prod.fst, by simpa using six, ?_, ?_⟩
  · intro octet member
    obtain ⟨item, listed, rfl⟩ := List.mem_map.mp member
    refine (octet_iff (accepted item listed)).mpr ⟨fun inside => ?_, fun inside => ?_⟩
    · exact plus ⟨item, listed, inside⟩
    · exact minus ⟨item, listed, inside⟩
  · rw [text, noFront, exactly (by omega)]
    rfl

end Shape

/-- The check is right about everything but the loose spellings. -/
theorem isValid_address_iff (value : String) :
    (isValidMACAddress value = true ↔ IsMACAddress value) ↔ ¬ IsLoose value := by
  rw [isValidMACAddress_iff]
  constructor
  · rintro same ⟨spelled, special⟩
    obtain ⟨-, plus, minus, colons⟩ := (same.mp spelled).spelled
    rcases special with sign | sign | many
    · exact plus sign
    · exact minus sign
    · omega
  · intro strict
    refine ⟨fun spelled => ?_, fun address => address.spelled.1⟩
    apply spelled.address
    · exact fun sign => strict ⟨spelled, .inl sign⟩
    · exact fun sign => strict ⟨spelled, .inr (.inl sign)⟩
    · exact Nat.le_of_not_lt fun many => strict ⟨spelled, .inr (.inr many)⟩

/-- The device option of the network card. -/
def networkDevice (macAddress : String) : String := "virtio-net-pci,netdev=net0,mac=" ++ macAddress

/-- An accepted value is one field of the option and brings no other with it. -/
theorem networkDevice_parsed (accepted : isValidMACAddress value = true) :
    parseOptions (some "driver") (networkDevice value).toList =
      [("driver", "virtio-net-pci"), ("netdev", "net0"), ("mac", value)] := by
  obtain ⟨front, items, spelled, -, each, -⟩ := isValidMACAddress_iff.mp accepted
  have noComma : ',' ∉ value.toList := by
    rw [spelled, mem_spelled (by decide)]
    rintro ⟨item, listed, inside⟩
    exact (part_plain (each item listed)).2.2 inside
  have text : (networkDevice value).toList =
      "virtio-net-pci".toList ++ ',' :: 'n' :: ("etdev=net0,mac=".toList ++ value.toList) := by
    unfold networkDevice
    simp
  have behind : 'n' :: ("etdev=net0,mac=".toList ++ value.toList) =
      leading [("netdev", "net0")] ++ ("mac".toList ++ '=' :: (value.toList ++ trailing [])) := by
    simp [leading, trailing, fieldText]
  rw [text, parseOptions_first (by decide) _ (by decide), behind,
    keyed_string "driver" "virtio-net-pci" (by decide), List.cons.injEq]
  refine ⟨rfl, ?_⟩
  refine (parse_raw_iff [("netdev", "net0")] "mac" value [] ?_ ?_ ?_ ?_).mpr noComma
  all_goals decide

section Generated

open QEMUHardwareProfile

/-- What is written of a byte is an octet, and is read as the byte. -/
theorem hexByte_octet {byte : Nat} (bound : byte < 256) :
    IsOctet (hexByte byte).toList ∧ octetValue (hexByte byte).toList = byte := by
  have digit (n : Nat) (small : n < 16) :
      isHexDigit (hexCharacter n) = true ∧ digitValue (hexCharacter n) = n := by
    have all : ∀ n : Fin 16, isHexDigit (hexCharacter n) = true ∧
        digitValue (hexCharacter n) = n := by decide +kernel
    exact all ⟨n, small⟩
  obtain ⟨isHigh, high⟩ := digit (byte / 16 % 16) (by omega)
  obtain ⟨isLow, low⟩ := digit (byte % 16) (by omega)
  rw [hexByte_toList]
  refine ⟨⟨_, _, rfl, isHigh, isLow⟩, ?_⟩
  simp only [octetValue, List.foldl_cons, List.foldl_nil, high, low]
  omega

/-- Masking keeps the first byte a byte, with the bit of local addresses and without that of
groups. -/
theorem addressBytes_spec (hardwareUUID : UUID) :
    ∃ first rest, addressBytes hardwareUUID = first :: rest ∧ rest.length = 5 ∧
      (∀ byte ∈ first :: rest, byte < 256) ∧ first.testBit 1 = true ∧ first.testBit 0 = false := by
  refine ⟨_, _, rfl, rfl, ?_, ?_, ?_⟩
  · intro byte member
    rcases List.mem_cons.mp member with rfl | later
    · exact Nat.or_lt_two_pow (n := 8) (Nat.and_lt_two_pow _ (by decide)) (by decide)
    · obtain ⟨i, -, rfl⟩ := List.mem_map.mp (show byte ∈ List.map _ [1, 2, 3, 4, 5] from later)
      exact Nat.mod_lt _ (by decide)
  · rw [Nat.testBit_or]
    simp [Nat.testBit]
  · rw [Nat.testBit_or, Nat.testBit_and]
    simp [Nat.testBit]

theorem macAddressFor_toList (hardwareUUID : UUID) : (macAddressFor hardwareUUID).toList =
    List.intercalate [':'] ((addressBytes hardwareUUID).map fun byte => (hexByte byte).toList) := by
  rw [macAddressFor, String.toList_intercalate, List.map_map]
  rfl

/-- The address of a UUID is an address, with the bytes it is made of. -/
theorem macAddressFor_spec (hardwareUUID : UUID) :
    IsMACAddress (macAddressFor hardwareUUID) ∧
      octetsOf (macAddressFor hardwareUUID) = addressBytes hardwareUUID := by
  obtain ⟨first, rest, bytes, five, bounds, -⟩ := addressBytes_spec hardwareUUID
  rw [← bytes] at bounds
  have six : (addressBytes hardwareUUID).length = 6 := by rw [bytes, List.length_cons, five]
  have each : ∀ octet ∈ (addressBytes hardwareUUID).map fun byte => (hexByte byte).toList,
      IsOctet octet := by
    intro octet member
    obtain ⟨byte, listed, rfl⟩ := List.mem_map.mp member
    exact (hexByte_octet (bounds byte listed)).1
  have plain : ∀ octet ∈ (addressBytes hardwareUUID).map fun byte => (hexByte byte).toList,
      octet ≠ [] ∧ ':' ∉ octet := by
    intro octet member
    obtain ⟨nonempty, colon, -⟩ := part_plain (.inl (each octet member))
    exact ⟨nonempty, colon⟩
  refine ⟨⟨_, by simpa using six, each, macAddressFor_toList hardwareUUID⟩, ?_⟩
  rw [octetsOf, parts_eq, macAddressFor_toList, ← spaced_byOne]
  have found := nonemptyPieces_spaced (spaces_byOne plain) 0
  rw [List.replicate_zero, List.nil_append, spacedByOne_fst] at found
  rw [found, List.map_map]
  refine (List.map_congr_left fun byte listed => ?_).trans (List.map_id _)
  exact (hexByte_octet (bounds byte listed)).2

end Generated

section Characters

open Swift

/-- `UInt8(text, radix: 16) != nil` -/
def isByteText : List Char → Bool
  | [] => false
  | '+' :: digits => !digits.isEmpty && digits.all isHexDigit && decide (octetValue digits < 256)
  | '-' :: digits => !digits.isEmpty && digits.all fun c => decide (c = '0')
  | digits => digits.all isHexDigit && decide (octetValue digits < 256)

/-- The parts as Swift sees them, each a list of its characters. -/
def characterParts (u : Unicode) (value : String) : List (List (List Char)) :=
  ((u.characters value.toList).splitOnP fun character => isCharacter character ':').filter
    fun part => !part.isEmpty

/-- `isValidMACAddress` on characters. -/
def acceptsCharacters (u : Unicode) (value : String) : Bool :=
  decide ((characterParts u value).length = 6) &&
    (characterParts u value).all fun part => decide (part.length = 2) && isByteText part.flatten

/-- What stands in an accepted value. -/
def IsAddressScalar (c : Char) : Prop := isHexDigit c = true ∨ c = '+' ∨ c = '-' ∨ c = ':'

theorem isHexDigit_bounds {c : Char} (digit : isHexDigit c = true) :
    48 ≤ c.toNat ∧ c.toNat ≤ 102 := by
  have order (a b : Char) (below : a ≤ b) : a.toNat ≤ b.toNat := below
  simp only [isHexDigit, Char.isDigit, Bool.or_eq_true, Bool.and_eq_true, decide_eq_true_eq]
    at digit
  rcases digit with (⟨low, high⟩ | ⟨low, high⟩) | ⟨low, high⟩
  · have first := order '0' c low
    have last := order c '9' high
    exact ⟨first, Nat.le_trans last (by decide)⟩
  · have first := order 'a' c low
    have last := order c 'f' high
    exact ⟨Nat.le_trans (by decide) first, last⟩
  · have first := order 'A' c low
    have last := order c 'F' high
    exact ⟨Nat.le_trans (by decide) first, Nat.le_trans last (by decide)⟩

/-- Scalars below the first one that is equivalent to one of ASCII are themselves. -/
theorem canonical_ascii {c : Char} (ascii : IsASCII c) : canonical c = c := by
  have other (d : Char) (wide : ¬ IsASCII d) : c ≠ d := by
    rintro rfl
    exact wide ascii
  unfold canonical
  rw [if_neg (other _ (by decide)), if_neg (other _ (by decide)), if_neg (other _ (by decide))]

theorem IsAddressScalar.ascii {c : Char} (scalar : IsAddressScalar c) :
    IsASCII c ∧ c ≠ '\r' := by
  rcases scalar with digit | rfl | rfl | rfl
  · obtain ⟨low, high⟩ := isHexDigit_bounds digit
    refine ⟨Nat.lt_of_le_of_lt high (by decide), ?_⟩
    rintro rfl
    exact absurd low (by decide)
  all_goals decide

/-- A character that is a colon is the scalar. -/
theorem eq_of_isCharacter {character : List Char} (colon : isCharacter character ':' = true) :
    character = [':'] := by
  rw [isCharacter, decide_eq_true_eq] at colon
  obtain ⟨c, rfl⟩ : ∃ c, character = [c] := by
    rw [← List.length_eq_one_iff]
    simpa using congrArg List.length colon
  simp only [List.map_cons, List.map_nil, List.cons.injEq, and_true] at colon
  unfold canonical at colon
  split at colon
  · exact absurd colon (by decide)
  · split at colon
    · exact absurd colon (by decide)
    · split at colon
      · exact absurd colon (by decide)
      · rw [colon]

theorem digitValue_lt {c : Char} (digit : isHexDigit c = true) : digitValue c < 16 := by
  have order (a b : Char) (below : a ≤ b) : a.toNat ≤ b.toNat := below
  simp only [isHexDigit, Bool.or_eq_true, decide_eq_true_eq] at digit
  unfold digitValue
  split
  · rename_i decimal
    simp only [Char.isDigit, Bool.and_eq_true, decide_eq_true_eq] at decimal
    have last : c.toNat ≤ 57 := order c '9' decimal.2
    omega
  · rename_i noDecimal
    split
    · rename_i lower
      have last : c.toNat ≤ 102 := order c 'f' lower.2
      omega
    · rename_i noLower
      rcases digit with (decimal | lower) | upper
      · exact absurd decimal noDecimal
      · exact absurd lower noLower
      · have last : c.toNat ≤ 70 := order c 'F' upper.2
        omega

/-- Of two scalars the text of a byte is what the check takes for one. -/
theorem isByteText_pair (first second : Char) :
    isByteText [first, second] = isHexByte [first, second] := by
  have small {c : Char} (digit : isHexDigit c = true) := digitValue_lt digit
  have noDigit : isHexDigit '+' = false ∧ isHexDigit '-' = false := by decide
  rw [Bool.eq_iff_iff]
  by_cases plus : first = '+'
  · subst plus
    simp only [isByteText, isHexByte, noDigit.1]
    simp [octetValue]
    intro digit
    have := small digit
    omega
  · by_cases minus : first = '-'
    · subst minus
      simp [isByteText, isHexByte, noDigit.2]
    · have shape : isByteText [first, second] = ([first, second].all isHexDigit &&
          decide (octetValue [first, second] < 256)) := by
        unfold isByteText
        split <;> simp_all
      rw [shape]
      simp [isHexByte, plus, minus, octetValue]
      intro high low
      have := small high
      have := small low
      omega

theorem isByteText_scalars {text : List Char} (byte : isByteText text = true) :
    ∀ c ∈ text, IsAddressScalar c := by
  have digits {text : List Char} (all : text.all isHexDigit = true) :
      ∀ c ∈ text, IsAddressScalar c :=
    fun c member => .inl (List.all_eq_true.mp all c member)
  unfold isByteText at byte
  split at byte
  · simp
  · simp only [Bool.and_eq_true] at byte
    intro c member
    rcases List.mem_cons.mp member with rfl | later
    · exact .inr (.inl rfl)
    · exact digits byte.1.2 c later
  · rename_i rest
    simp only [Bool.and_eq_true, List.all_eq_true, decide_eq_true_eq] at byte
    intro c member
    rcases List.mem_cons.mp member with rfl | later
    · exact .inr (.inr (.inl rfl))
    · rw [byte.2 c later]
      exact .inl (by decide)
  · rw [Bool.and_eq_true] at byte
    exact digits byte.1

/-- Characters of one scalar each are cut like the scalars. -/
theorem splitOnP_singles (text : List Char) :
    (text.map fun c => [c]).splitOnP (fun character => isCharacter character ':') =
      (pieces ':' text).map fun piece => piece.map fun c => [c] := by
  induction text with
  | nil => rfl
  | cons c text ih =>
    have colon : isCharacter [c] ':' = decide (c = ':') := by
      rw [Bool.eq_iff_iff, decide_eq_true_eq]
      refine ⟨fun same => List.singleton_inj.mp (eq_of_isCharacter same), ?_⟩
      rintro rfl
      decide
    rw [List.map_cons, List.splitOnP_cons_eq_if_modifyHead, ih, pieces, colon]
    by_cases here : c = ':'
    · simp [here]
    · cases found : pieces ':' text with
      | nil => exact absurd found (pieces_ne_nil text)
      | cons first others => simp [here]

/-- On texts of such scalars nothing depends on the characters. -/
theorem acceptsCharacters_of_scalars (u : Unicode)
    (scalars : ∀ c ∈ value.toList, IsAddressScalar c) :
    acceptsCharacters u value = isValidMACAddress value := by
  have singles : u.characters value.toList = value.toList.map fun c => [c] := by
    apply u.characters_single
    intro character listed
    have ascii : ∀ c ∈ value.toList, IsASCII (canonical c) := by
      intro c member
      obtain ⟨plain, -⟩ := (scalars c member).ascii
      rwa [canonical_ascii plain]
    rcases u.apart value.toList ascii character listed with rfl | one
    · have inside : '\r' ∈ value.toList := u.mem_text.mpr ⟨_, listed, List.mem_cons_self⟩
      exact absurd rfl (scalars _ inside).ascii.2
    · exact one
  have parts : characterParts u value =
      (nonemptyPieces ':' value.toList).map fun piece => piece.map fun c => [c] := by
    rw [characterParts, singles, splitOnP_singles, List.filter_map]
    congr 1
    apply List.filter_congr
    simp
  have flat (piece : List Char) : (piece.map fun c => [c]).flatten = piece := by
    induction piece with
    | nil => rfl
    | cons c rest ih => rw [List.map_cons, List.flatten_cons, ih]; rfl
  have byte (piece : List Char) :
      (decide (piece.length = 2) && isByteText piece) = isHexByte piece := by
    rcases piece with _ | ⟨first, _ | ⟨second, _ | ⟨third, rest⟩⟩⟩
    · rfl
    · rfl
    · exact isByteText_pair first second
    · simp [isHexByte]
  rw [acceptsCharacters, isValidMACAddress, parts_eq, parts, List.length_map, List.all_map]
  congr 1
  apply congrArg fun test => (nonemptyPieces ':' value.toList).all test
  funext piece
  simp only [Function.comp_apply, List.length_map, flat]
  exact byte piece

/-- What is cut away is a separator, and the rest is in a piece. -/
theorem mem_splitOnP {α : Type} {p : α → Bool} {text : List α} {c : α} (member : c ∈ text) :
    p c = true ∨ ∃ piece ∈ text.splitOnP p, c ∈ piece := by
  induction text with
  | nil => cases member
  | cons d text ih =>
    rw [List.splitOnP_cons_eq_if_modifyHead]
    cases here : p d with
    | true =>
      rcases List.mem_cons.mp member with rfl | later
      · exact .inl here
      · refine (ih later).imp_right fun ⟨piece, listed, inside⟩ => ?_
        exact ⟨piece, List.mem_cons_of_mem _ listed, inside⟩
    | false =>
      cases found : text.splitOnP p with
      | nil => exact absurd found (List.splitOnP_ne_nil p text)
      | cons first others =>
        rcases List.mem_cons.mp member with rfl | later
        · exact .inr ⟨c :: first, by simp, List.mem_cons_self⟩
        · refine (ih later).imp_right fun ⟨piece, listed, inside⟩ => ?_
          rw [found] at listed
          rcases List.mem_cons.mp listed with rfl | behind
          · exact ⟨d :: piece, by simp, List.mem_cons_of_mem _ inside⟩
          · exact ⟨piece, by simp [behind], inside⟩

/-- The check accepts the same values whatever Unicode makes of other characters. -/
theorem acceptsCharacters_eq (u : Unicode) (value : String) :
    acceptsCharacters u value = isValidMACAddress value := by
  rw [Bool.eq_iff_iff]
  constructor
  · intro accepted
    have scalars : ∀ c ∈ value.toList, IsAddressScalar c := by
      intro c member
      obtain ⟨character, listed, inside⟩ := u.mem_text.mp member
      rcases mem_splitOnP (p := fun character => isCharacter character ':') listed with
        colon | ⟨part, cut, within⟩
      · rw [eq_of_isCharacter colon] at inside
        exact .inr (.inr (.inr (List.mem_singleton.mp inside)))
      · have nonempty : part ≠ [] := List.ne_nil_of_mem within
        have isPart : part ∈ characterParts u value :=
          List.mem_filter.mpr ⟨cut, by simpa using nonempty⟩
        simp only [acceptsCharacters, Bool.and_eq_true, List.all_eq_true] at accepted
        exact isByteText_scalars (accepted.2 part isPart).2 c
          (List.mem_flatten.mpr ⟨character, within, inside⟩)
    rwa [← acceptsCharacters_of_scalars u scalars]
  · intro accepted
    have scalars : ∀ c ∈ value.toList, IsAddressScalar c := by
      obtain ⟨front, items, spelled, -, each, -⟩ := isValidMACAddress_iff.mp accepted
      intro c member
      by_cases colon : c = ':'
      · exact .inr (.inr (.inr colon))
      · rw [spelled, mem_spelled colon] at member
        obtain ⟨item, listed, inside⟩ := member
        have byte := isHexByte_iff.mpr (each item listed)
        apply isByteText_scalars _ c inside
        rcases each item listed with ⟨first, second, pair, -⟩ | ⟨second, pair, -⟩ | pair
        all_goals
          rw [pair] at byte ⊢
          rw [isByteText_pair, byte]
    rwa [acceptsCharacters_of_scalars u scalars]

end Characters

/-- What the check accepts is an address, or a loose spelling of one. It stays one value of the
device option, and the generated addresses are accepted. -/
theorem address_check_iff (value : String) (env : BuilderEnvironment)
    (machine : Machine) (profile : QEMUHardwareProfile) (diskURL : String) (paths : RuntimePaths)
    (hardwareUUID : UUID) :
    ((isValidMACAddress value = true ↔ IsMACAddress value) ↔ ¬ IsLoose value) ∧
      (isValidMACAddress profile.macAddress = true →
        networkDevice profile.macAddress ∈ windowsArguments env machine profile diskURL paths ∧
          parseOptions (some "driver") (networkDevice profile.macAddress).toList =
            [("driver", "virtio-net-pci"), ("netdev", "net0"), ("mac", profile.macAddress)]) ∧
      isValidMACAddress (QEMUHardwareProfile.macAddressFor hardwareUUID) = true ∧
        IsLocalUnicast (QEMUHardwareProfile.macAddressFor hardwareUUID) := by
  refine ⟨isValid_address_iff value, fun accepted => ?_, ?_⟩
  · have argument : (windowsArguments env machine profile diskURL paths)[40]? =
        some (networkDevice profile.macAddress) := rfl
    exact ⟨List.mem_of_getElem? argument, networkDevice_parsed accepted⟩
  · obtain ⟨address, octets⟩ := macAddressFor_spec hardwareUUID
    obtain ⟨first, rest, bytes, -, -, isLocal, isUnicast⟩ := addressBytes_spec hardwareUUID
    refine ⟨isValidMACAddress_iff.mpr address.spelled.1, first, rest, ?_, isLocal, isUnicast⟩
    rw [octets, bytes]

/-- A colon at the end and signs are accepted. -/
theorem loose_address_accepted :
    ¬ ∀ value, isValidMACAddress value = true ↔ IsMACAddress value := by
  intro exact
  have accepted : isValidMACAddress "+2::54:00:12:34:56:" = true := by decide +kernel
  obtain ⟨-, unsigned, -⟩ := ((exact _).mp accepted).spelled
  exact unsigned (by decide +kernel)

end SimpleVM.QEMU
