import IotstackDriver.Libc.Strings
import Mathlib.Algebra.Order.Group.Unbundled.Int

/-! What `atol` reads of a text, and of the text `%u` prints. -/

namespace IotstackDriver.Libc

/-- The integer a text begins with: after white space and a sign, the digits up to the
first other byte. -/
def leadingInteger (text : Bytes) : Int :=
  let rest := text.dropWhile isSpace
  if rest.head? = some 45 then -(readDigits rest.tail : Int)
  else if rest.head? = some 43 then readDigits rest.tail
  else readDigits rest

/-- The nearest value of a `long` of the given width. -/
def saturated (longBits : Nat) (value : Int) : Int :=
  max (-(2 ^ (longBits - 1))) (min (2 ^ (longBits - 1) - 1) value)

def InLong (longBits : Nat) (value : Int) : Prop :=
  -(2 ^ (longBits - 1)) ≤ value ∧ value < 2 ^ (longBits - 1)

theorem atol_eq (longBits : Nat) (text : Bytes) :
    atol longBits text = saturated longBits (leadingInteger text) := rfl

theorem saturated_of_inLong {longBits : Nat} {value : Int} (inside : InLong longBits value) :
    saturated longBits value = value := by
  obtain ⟨low, high⟩ := inside
  rw [saturated]
  omega

private theorem digit_byte {char : Char} (digit : char.isDigit = true) :
    isDigit (UInt8.ofNat char.toNat) = true ∧
      (UInt8.ofNat char.toNat).toNat - 48 = char.toNat - '0'.toNat := by
  obtain ⟨low, high⟩ := Char.isDigit_iff_toNat.mp digit
  simp only [Char.reduceToNat] at low high
  have whole : (UInt8.ofNat char.toNat).toNat = char.toNat :=
    UInt8.toNat_ofNat_of_lt' (Nat.lt_of_le_of_lt high (by decide))
  refine ⟨?_, by rw [whole]; rfl⟩
  simp [isDigit, UInt8.le_iff_toNat_le, whole, low, high]

private theorem foldl_digits (chars : List Char) (digits : ∀ char ∈ chars, char.isDigit = true)
    (total : Nat) :
    (chars.map fun char => UInt8.ofNat char.toNat).foldl
      (fun total digit => total * 10 + (digit.toNat - 48)) total = Nat.ofDigitChars 10 chars total := by
  induction chars generalizing total with
  | nil => simp
  | cons char rest ih =>
    rw [List.map_cons, List.foldl_cons, Nat.ofDigitChars_cons, (digit_byte (digits char (by simp))).2,
      Nat.mul_comm total 10]
    exact ih (fun other member => digits other (by simp [member])) _

theorem decimal_isDigit {value : Nat} {byte : UInt8} (member : byte ∈ decimal value) :
    isDigit byte = true := by
  obtain ⟨char, inside, rfl⟩ := List.mem_map.mp member
  exact (digit_byte (Nat.isDigit_of_mem_toDigits (by decide) (by decide) inside)).1

theorem decimal_bounds {value : Nat} {byte : UInt8} (member : byte ∈ decimal value) :
    48 ≤ byte.toNat ∧ byte.toNat ≤ 57 := by
  have digit := decimal_isDigit member
  simpa only [isDigit, Bool.and_eq_true, decide_eq_true_eq, UInt8.le_iff_toNat_le,
    UInt8.reduceToNat] using digit

/-- A positive number has no leading zero. -/
theorem decimal_first {value : Nat} (positive : 0 < value) :
    ∃ first rest, decimal value = first :: rest ∧ first ≠ 48 := by
  induction value using Nat.strong_induction_on with
  | _ value ih =>
    by_cases single : value < 10
    · have digits : ∀ value < 10, 0 < value → UInt8.ofNat value.digitChar.toNat ≠ 48 := by decide
      refine ⟨_, [], ?_, digits value single positive⟩
      rw [decimal, Nat.toDigits_of_lt_base single]
      rfl
    · obtain ⟨first, rest, same, nonzero⟩ := ih (value / 10) (by omega) (by omega)
      refine ⟨first, rest ++ [UInt8.ofNat (value % 10).digitChar.toNat], ?_, nonzero⟩
      rw [decimal, Nat.toDigits_of_base_le (by decide) (Nat.le_of_not_lt single), List.map_append,
        ← decimal, same]
      rfl

/-- The digits of a number are read back as the number. -/
theorem readDigits_decimal (value : Nat) : readDigits (decimal value) = value := by
  have whole : (decimal value).takeWhile isDigit = decimal value :=
    List.takeWhile_eq_self_iff.mpr fun byte member => decimal_isDigit member
  rw [readDigits, whole, decimal, foldl_digits, Nat.ofDigitChars_ten_toDigits]
  exact fun char inside => Nat.isDigit_of_mem_toDigits (by decide) (by decide) inside

/-- `%u` prints neither white space nor a sign. -/
theorem leadingInteger_decimal (value : Nat) : leadingInteger (decimal value) = value := by
  cases digits : decimal value with
  | nil => exact absurd (List.map_eq_nil_iff.mp digits) Nat.toDigits_ne_nil
  | cons first rest =>
    have leads : first ∈ decimal value := by simp [digits]
    have digit := decimal_bounds leads
    have noSpace : isSpace first = false := by
      simp [isSpace, UInt8.le_iff_toNat_le, ← UInt8.toNat_inj]
      omega
    have noMinus : first ≠ 45 := by
      intro same
      rw [same] at digit
      exact absurd digit.1 (by decide)
    have noPlus : first ≠ 43 := by
      intro same
      rw [same] at digit
      exact absurd digit.1 (by decide)
    rw [leadingInteger, List.dropWhile_cons_of_neg (by simp [noSpace])]
    have read : readDigits (first :: rest) = value := by rw [← digits, readDigits_decimal]
    simp [noMinus, noPlus, read]

/-- A value cut to 32 bits is the id it is congruent to. -/
theorem ofInt_eq_iff (value : Int) (id : UInt32) :
    UInt32.ofInt value = id ↔ value % 2 ^ 32 = id.toNat := by
  have bound : (value % 2 ^ 32).toNat < 2 ^ 32 := by omega
  rw [← UInt32.toNat_inj, UInt32.ofInt, UInt32.toNat_ofNat_of_lt' bound]
  omega

end IotstackDriver.Libc
