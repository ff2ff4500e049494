import Mathlib.Data.Nat.Digits.Lemmas

namespace Encoding

/-!
# Hexadecimal text and big-endian bytes

Encoding writes two lower-case digits for each byte.  Reading accepts both
cases, so two texts may denote the same bytes while only one of them is
written.  Big integers are read from big-endian bytes and written back without
leading zero bytes, zero itself as one byte.
-/

/-- The lower-case digit of a value below sixteen. -/
def hexDigit (value : Nat) : Char :=
  if value < 10 then Char.ofNat (48 + value) else Char.ofNat (87 + value)

/-- The value of a digit of either case. -/
def hexValue (digit : Char) : Option Nat :=
  let code := digit.toNat
  if 48 ≤ code ∧ code ≤ 57 then some (code - 48)
  else if 97 ≤ code ∧ code ≤ 102 then some (code - 87)
  else if 65 ≤ code ∧ code ≤ 70 then some (code - 55)
  else none

theorem hexValue_hexDigit {value : Nat} (small : value < 16) :
    hexValue (hexDigit value) = some value := by
  have each : forall digit : Fin 16,
    hexValue (hexDigit digit.val) = some digit.val := by decide
  exact each ⟨value, small⟩

/-- Two digits for each byte. -/
def hexEncode : List UInt8 -> List Char
  | [] => []
  | byte :: rest =>
      hexDigit (byte.toNat / 16) :: hexDigit (byte.toNat % 16) :: hexEncode rest

/-- Read digits in pairs.  An odd number of digits is an error. -/
def hexDecode : List Char -> Option (List UInt8)
  | [] => some []
  | [_] => none
  | high :: low :: rest =>
      match hexValue high, hexValue low, hexDecode rest with
      | some highValue, some lowValue, some bytes =>
          some (UInt8.ofNat (16 * highValue + lowValue) :: bytes)
      | _, _, _ => none

theorem hexEncode_length (bytes : List UInt8) :
    (hexEncode bytes).length = 2 * bytes.length := by
  induction bytes with
  | nil => rfl
  | cons byte rest ih =>
      simp only [hexEncode, List.length_cons, ih]
      omega

/-- Every character written is a digit. -/
theorem hexEncode_digit {bytes : List UInt8} {digit : Char}
    (member : digit ∈ hexEncode bytes) :
    Exists fun value => value < 16 ∧ digit = hexDigit value := by
  induction bytes with
  | nil => cases member
  | cons byte rest ih =>
      have range : byte.toNat < 256 := byte.toNat_lt
      simp only [hexEncode, List.mem_cons] at member
      rcases member with high | low | later
      · exact ⟨byte.toNat / 16, by omega, high⟩
      · exact ⟨byte.toNat % 16, by omega, low⟩
      · exact ih later

/-- An even number of digits always decodes. -/
theorem hexDecode_isSome {count : Nat} {digits : List Char}
    (even : digits.length = 2 * count)
    (readable : forall digit, digit ∈ digits -> Exists fun value => value < 16 ∧
      digit = hexDigit value) :
    (hexDecode digits).isSome = true := by
  induction count generalizing digits with
  | zero =>
      rw [List.eq_nil_of_length_eq_zero even]
      rfl
  | succ count ih =>
      match digits, even, readable with
      | high :: low :: rest, even, readable =>
          rcases readable high List.mem_cons_self with ⟨highValue, highSmall, rfl⟩
          rcases readable low (List.mem_cons_of_mem _ List.mem_cons_self) with
            ⟨lowValue, lowSmall, rfl⟩
          have tail := ih
            (by simp only [List.length_cons] at even; omega)
            (fun digit member =>
              readable digit
                (List.mem_cons_of_mem _ (List.mem_cons_of_mem _ member)))
          rcases Option.isSome_iff_exists.mp tail with ⟨bytes, decoded⟩
          simp only [hexDecode, hexValue_hexDigit highSmall,
            hexValue_hexDigit lowSmall, decoded, Option.isSome_some]

/-- What is written reads back as the bytes. -/
theorem hexDecode_hexEncode (bytes : List UInt8) :
    hexDecode (hexEncode bytes) = some bytes := by
  induction bytes with
  | nil => rfl
  | cons byte rest ih =>
      have range : byte.toNat < 256 := byte.toNat_lt
      have high :=
        hexValue_hexDigit (Nat.div_lt_of_lt_mul range : byte.toNat / 16 < 16)
      have low :=
        hexValue_hexDigit
          (Nat.mod_lt byte.toNat (by decide) : byte.toNat % 16 < 16)
      simp only [hexEncode, hexDecode, high, low, ih, Nat.div_add_mod,
        UInt8.ofNat_toNat]

/-! ## Numbers of a fixed width -/

/-- The digits of a number, padded with zeros on the left. -/
def hexFixed (width number : Nat) : List Char :=
  (Nat.digitsAppend 16 width number).reverse.map hexDigit

/-- Read a whole list of digits as one number. -/
def hexRead (digits : List Char) : Option Nat :=
  (digits.mapM hexValue).map fun values => Nat.ofDigits 16 values.reverse

theorem hexFixed_length {width number : Nat} (fits : number < 16 ^ width) :
    (hexFixed width number).length = width := by
  rw [hexFixed, List.length_map, List.length_reverse,
    Nat.length_digitsAppend (by decide) width fits]

private theorem mapM_hexDigit (values : List Nat)
    (small : forall value, value ∈ values -> value < 16) :
    (values.map hexDigit).mapM hexValue = some values := by
  induction values with
  | nil => rfl
  | cons value rest ih =>
      have head := hexValue_hexDigit (small value List.mem_cons_self)
      have tail :=
        ih fun other member => small other (List.mem_cons_of_mem value member)
      rw [List.map_cons, List.mapM_cons, head, tail]
      rfl

theorem hexFixed_digit {width number : Nat} {digit : Char}
    (member : digit ∈ hexFixed width number) :
    Exists fun value => value < 16 ∧ digit = hexDigit value := by
  rcases List.mem_map.mp member with ⟨value, valueMember, rfl⟩
  exact ⟨value,
    Nat.lt_of_mem_digitsAppend (by decide) width value
    (List.mem_reverse.mp valueMember), rfl⟩

theorem hexRead_hexFixed (width number : Nat) :
    hexRead (hexFixed width number) = some number := by
  have small : forall value, value ∈ (Nat.digitsAppend 16 width number).reverse ->
      value < 16 := by
    intro value member
    exact Nat.lt_of_mem_digitsAppend (by decide) width value
      (List.mem_reverse.mp member)
  rw [hexRead, hexFixed, mapM_hexDigit _ small, Option.map_some,
    List.reverse_reverse, Nat.digitsAppend, Nat.ofDigits_append_replicate_zero,
      Nat.ofDigits_digits]

/-! ## Big-endian bytes -/

/-- The number a list of bytes denotes, most significant byte first. -/
def natOfBytes (bytes : List UInt8) : Nat :=
  Nat.ofDigits 256 (bytes.reverse.map UInt8.toNat)

/-- The shortest nonempty list of bytes denoting a number. -/
def bytesOfNat (number : Nat) : List UInt8 :=
  if number = 0 then [0] else (Nat.digits 256 number).reverse.map UInt8.ofNat

theorem natOfBytes_lt (bytes : List UInt8) :
    natOfBytes bytes < 256 ^ bytes.length := by
  have small : forall value, value ∈ bytes.reverse.map UInt8.toNat ->
      value < 256 := by
    intro value member
    rcases List.mem_map.mp member with ⟨byte, _, rfl⟩
    exact byte.toNat_lt
  have bound := Nat.ofDigits_lt_base_pow_length (by decide : 1 < 256) small
  rw [List.length_map, List.length_reverse] at bound
  exact bound

theorem bytesOfNat_length {number width : Nat} (positive : 0 < width)
    (fits : number < 256 ^ width) :
    (bytesOfNat number).length ≤ width := by
  unfold bytesOfNat
  split
  · exact positive
  · rw [List.length_map, List.length_reverse]
    exact (Nat.digits_length_le_iff (by decide) number).mpr fits

/-- Decoding and re-encoding never lengthens a nonempty list of bytes. -/
theorem bytesOfNat_natOfBytes_length {bytes : List UInt8} {width : Nat}
    (positive : 0 < width) (short : bytes.length ≤ width) :
    (bytesOfNat (natOfBytes bytes)).length ≤ width := by
  apply bytesOfNat_length positive
  exact Nat.lt_of_lt_of_le (natOfBytes_lt bytes)
    (Nat.pow_le_pow_right (by decide) short)

end Encoding
