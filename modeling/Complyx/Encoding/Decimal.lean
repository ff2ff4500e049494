import Mathlib.Data.Int.Notation

namespace Encoding

/-!
# Decimal integers

Reading a decimal integer with an optional sign, and writing one.  What is
written is read back.
-/

/-- The number of which these are the digits. -/
def readDigits (digits : List Char) : Option Nat :=
  if !digits.isEmpty &&
    digits.all Char.isDigit then some (Nat.ofDigitChars 10 digits 0) else none

/-- One sign may stand before the digits. -/
def readInt : List Char -> Option Int
  | '+' :: digits => (readDigits digits).map Int.ofNat
  | '-' :: digits => (readDigits digits).map fun value => -(value : Int)
  | digits => (readDigits digits).map Int.ofNat

def writeInt : Int -> List Char
  | .ofNat value => Nat.toDigits 10 value
  | .negSucc value => '-' :: Nat.toDigits 10 (value + 1)

theorem isDigit_of_mem_toDigits {value : Nat} {digit : Char}
    (member : digit ∈ Nat.toDigits 10 value) : digit.isDigit = true :=
  Nat.isDigit_of_mem_toDigits (by decide) (by decide) member

theorem readDigits_toDigits (value : Nat) :
    readDigits (Nat.toDigits 10 value) = some value := by
  have some : (Nat.toDigits 10 value).isEmpty = false := by
    rw [List.isEmpty_eq_false_iff]
    exact Nat.toDigits_ne_nil
  have digits : (Nat.toDigits 10 value).all Char.isDigit = true := by
    rw [List.all_eq_true]
    exact fun digit => isDigit_of_mem_toDigits
  rw [readDigits, some, digits, Nat.ofDigitChars_ten_toDigits]
  rfl

/-- A digit is not a sign. -/
theorem readInt_unsigned {digits : List Char}
    (each : forall digit, digit ∈ digits -> digit.isDigit = true) :
    readInt digits = (readDigits digits).map Int.ofNat := by
  unfold readInt
  split
  · exact absurd (each '+' List.mem_cons_self) (by decide)
  · exact absurd (each '-' List.mem_cons_self) (by decide)
  · rfl

theorem readInt_writeInt (value : Int) :
    readInt (writeInt value) = some value := by
  cases value with
  | ofNat value =>
      rw [writeInt, readInt_unsigned fun digit => isDigit_of_mem_toDigits,
        readDigits_toDigits]
      rfl
  | negSucc value =>
      rw [writeInt, readInt, readDigits_toDigits]
      rfl

end Encoding
