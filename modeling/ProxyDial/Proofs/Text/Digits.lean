import Mathlib.Algebra.Group.Nat.Defs
import ProxyDial.Text.Number

set_option autoImplicit false

/-! Numbers that are written in decimal digits read back. -/

namespace ProxyDial.Text

/-- The decimal digits of a number, as they are written. -/
def decimalDigits (number : Nat) : List Char := Nat.toDigits 10 number

theorem decimalDigits_ne_nil (number : Nat) : decimalDigits number ≠ [] := Nat.toDigits_ne_nil

theorem isDigit_eq (c : Char) : isDigit c = c.isDigit := by
  unfold isDigit Char.isDigit
  simp [Char.le_def, UInt32.le_iff_toNat_le]

/-- There are ten digits. -/
theorem exists_of_isDigit {c : Char} (digit : c.isDigit = true) :
    ∃ number : Fin 10, c = Char.ofNat (48 + number.val) := by
  unfold Char.isDigit at digit
  simp only [Bool.and_eq_true, decide_eq_true_eq, UInt32.le_iff_toNat_le, ge_iff_le,
    Char.reduceVal, UInt32.reduceToNat] at digit
  have number : 48 + (c.toNat - 48) = c.toNat := by
    unfold Char.toNat
    omega
  refine ⟨⟨c.toNat - 48, by unfold Char.toNat; omega⟩, ?_⟩
  rw [number, Char.ofNat_toNat]

theorem isDigit_of_mem_decimalDigits {number : Nat} {c : Char} (digit : c ∈ decimalDigits number) :
    isDigit c = true := by
  rw [isDigit_eq]
  exact Nat.isDigit_of_mem_toDigits (by decide) (by decide) digit

theorem decimalValue_decimalDigits (number : Nat) :
    decimalValue (decimalDigits number) = number := by
  have value := Nat.ofDigitChars_toDigits (b := 10) (n := number) (by decide) (by decide)
  rw [Nat.ofDigitChars_eq_foldl] at value
  exact value

theorem digitValue_lt {c : Char} (digit : isDigit c = true) : digitValue c < 10 := by
  rw [isDigit_eq] at digit
  obtain ⟨number, rfl⟩ := exists_of_isDigit digit
  exact (by decide : ∀ number : Fin 10, digitValue (Char.ofNat (48 + number)) < 10) number

/-- A number is below the power of ten that has as many zeros as the number has digits. -/
theorem decimalValue_lt {digits : List Char} (allDigits : ∀ c ∈ digits, isDigit c = true) :
    decimalValue digits < 10 ^ digits.length := by
  have behind (value : Nat) :
      digits.foldl (fun value digit => 10 * value + digitValue digit) value <
        (value + 1) * 10 ^ digits.length := by
    induction digits generalizing value with
    | nil => simp
    | cons c rest ih =>
        have small := digitValue_lt (allDigits c (.head _))
        have later := ih (fun d member => allDigits d (.tail _ member)) (10 * value + digitValue c)
        have room : 10 * value + digitValue c + 1 ≤ (value + 1) * 10 := by omega
        calc
          rest.foldl _ (10 * value + digitValue c) < _ := later
          _ ≤ (value + 1) * 10 * 10 ^ rest.length := Nat.mul_le_mul_right _ room
          _ = (value + 1) * 10 ^ (rest.length + 1) := by rw [Nat.pow_succ', Nat.mul_assoc]
  have fromStart := behind 0
  rw [Nat.zero_add, Nat.one_mul] at fromStart
  exact fromStart

theorem readDigits?_of_digits {bound : Nat} {digits : List Char} (filled : digits ≠ [])
    (allDigits : ∀ c ∈ digits, isDigit c = true) (small : decimalValue digits < bound) :
    readDigits? bound digits = some (decimalValue digits) := by
  unfold readDigits?
  rw [List.all_eq_true.mpr allDigits]
  simp [filled, small]

/-- Where there are digits only, there is no sign to pass over. -/
theorem readUnsigned?_of_digits {digits : List Char}
    (allDigits : ∀ c ∈ digits, isDigit c = true) (bound : Nat) :
    readUnsigned? bound digits = readDigits? bound digits := by
  unfold readUnsigned?
  split
  next rest =>
    have sign : isDigit '+' = true := allDigits '+' (.head _)
    exact absurd sign (by decide)
  next => rfl

theorem readUInt16?_of_digits {digits : List Char} (filled : digits ≠ [])
    (allDigits : ∀ c ∈ digits, isDigit c = true) (small : decimalValue digits < 65536) :
    readUInt16? digits = some (UInt16.ofNat (decimalValue digits)) := by
  unfold readUInt16?
  rw [readUnsigned?_of_digits allDigits, readDigits?_of_digits filled allDigits small]
  rfl

theorem readDigits?_decimalDigits {bound number : Nat} (small : number < bound) :
    readDigits? bound (decimalDigits number) = some number := by
  have value := decimalValue_decimalDigits number
  rw [readDigits?_of_digits (decimalDigits_ne_nil number)
    (fun _ digit => isDigit_of_mem_decimalDigits digit) (value.symm ▸ small), value]

/-- The digits of a number of sixteen bits are read as that number. -/
theorem readUInt16?_decimalDigits (number : UInt16) :
    readUInt16? (decimalDigits number.toNat) = some number := by
  have value := decimalValue_decimalDigits number.toNat
  rw [readUInt16?_of_digits (decimalDigits_ne_nil _)
    (fun _ digit => isDigit_of_mem_decimalDigits digit) (value.symm ▸ number.toNat_lt), value]
  exact congrArg some number.ofNat_toNat

end ProxyDial.Text
