import BiometricSession.Text.Decimal
import BiometricSession.Toml.Character
import Mathlib.Tactic.IntervalCases

/-!
# Digits and their value

The digits of a number are decimal digits, start with a zero only if the number
is zero, and have the number as their value.
-/

namespace BiometricSession.Decimal

theorem digitValue_digitCharacter {digit : Nat} (small : digit < 10) :
    digitValue (digitCharacter digit) = digit := by
  interval_cases digit <;> rfl

theorem isDigit_digitCharacter {digit : Nat} (small : digit < 10) :
    Toml.isDigit (digitCharacter digit) = true := by
  interval_cases digit <;> rfl

theorem digitCharacter_ne_zero {digit : Nat} (positive : 0 < digit) (small : digit < 10) :
    digitCharacter digit ≠ '0' := by
  interval_cases digit <;> decide

theorem value_append (front : List Char) (character : Char) :
    value (front ++ [character]) = value front * 10 + digitValue character := by
  simp [value, valueIn]

theorem digits_ne_nil (number : Nat) : digits number ≠ [] := by
  rw [digits]
  split <;> simp

theorem isDigit_of_mem_digits (number : Nat) :
    ∀ character ∈ digits number, Toml.isDigit character = true := by
  induction number using Nat.strong_induction_on with
  | _ number ih =>
      intro character isMember
      rw [digits] at isMember
      split at isMember
      · next small =>
          rw [List.mem_singleton] at isMember
          rw [isMember]
          exact isDigit_digitCharacter small
      · next large =>
          rcases List.mem_append.mp isMember with inFront | isLast
          · exact ih (number / 10) (by omega) character inFront
          · rw [List.mem_singleton] at isLast
            rw [isLast]
            exact isDigit_digitCharacter (Nat.mod_lt number (by decide))

/-- Reading the digits of a number back gives the number. -/
theorem value_digits (number : Nat) : value (digits number) = number := by
  induction number using Nat.strong_induction_on with
  | _ number ih =>
      rw [digits]
      split
      · next small =>
          simpa [value, valueIn] using digitValue_digitCharacter small
      · next large =>
          rw [value_append, ih (number / 10) (by omega),
            digitValue_digitCharacter (Nat.mod_lt number (by decide))]
          omega

/-- Only zero is written with a leading zero. -/
theorem digits_head_ne_zero {number : Nat} (positive : 0 < number) :
    ∃ first others, digits number = first :: others ∧ first ≠ '0' := by
  induction number using Nat.strong_induction_on with
  | _ number ih =>
      rw [digits]
      split
      · next small =>
          exact ⟨digitCharacter number, [], rfl, digitCharacter_ne_zero positive small⟩
      · next large =>
          obtain ⟨first, others, front, nonzero⟩ := ih (number / 10) (by omega) (by omega)
          exact ⟨first, others ++ [digitCharacter (number % 10)], by rw [front]; rfl, nonzero⟩

end BiometricSession.Decimal
