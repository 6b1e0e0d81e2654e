import ProxyDial.Text.Number

set_option autoImplicit false

/-! Numbers that are written in hexadecimal digits read back. -/

namespace ProxyDial.Text

/-- The number that hexadecimal digits write, without a bound. -/
def hexValue (digits : List Char) : Nat :=
  digits.foldl (fun value c => 16 * value + (hexDigitValue? c).getD 0) 0

theorem hexDigitValue?_digitChar {value : Nat} (digit : value < 16) :
    hexDigitValue? (Nat.digitChar value) = some value := by
  have all : ∀ number : Fin 16, hexDigitValue? (Nat.digitChar number.val) = some number.val := by
    decide
  exact all ⟨value, digit⟩

theorem hexValue_append_digit (digits : List Char) (c : Char) :
    hexValue (digits ++ [c]) = 16 * hexValue digits + (hexDigitValue? c).getD 0 := by
  unfold hexValue
  rw [List.foldl_append]
  rfl

theorem hexValue_toDigits (number : Nat) : hexValue (Nat.toDigits 16 number) = number := by
  induction number using Nat.strongRecOn with
  | ind number ih =>
      rw [Nat.toDigits_eq_if (by decide)]
      by_cases single : number < 16
      · rw [if_pos single]
        simp [hexValue, hexDigitValue?_digitChar single]
      · have digit : number % 16 < 16 := Nat.mod_lt _ (by decide)
        rw [if_neg single, hexValue_append_digit, ih (number / 16) (by omega),
          hexDigitValue?_digitChar digit, Option.getD_some]
        omega

theorem exists_value_of_mem_toDigits {number : Nat} {c : Char}
    (member : c ∈ Nat.toDigits 16 number) : ∃ value, hexDigitValue? c = some value := by
  induction number using Nat.strongRecOn with
  | ind number ih =>
      rw [Nat.toDigits_eq_if (by decide)] at member
      by_cases single : number < 16
      · rw [if_pos single, List.mem_singleton] at member
        subst member
        exact ⟨number, hexDigitValue?_digitChar single⟩
      · rw [if_neg single, List.mem_append, List.mem_singleton] at member
        rcases member with early | last
        · exact ih (number / 16) (by omega) early
        · subst last
          exact ⟨_, hexDigitValue?_digitChar (Nat.mod_lt _ (by decide))⟩

end ProxyDial.Text
