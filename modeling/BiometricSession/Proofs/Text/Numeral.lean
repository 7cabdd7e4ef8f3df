import BiometricSession.Inspect
import BiometricSession.Proofs.Text.Decimal
import Mathlib.Data.List.TakeDrop

/-!
# Where words and numerals end

A block of characters of one class ends at the first character outside of the
class, so two texts that begin with such blocks are the same only if the blocks
are and what follows them is.  A numeral is a block of digits and signs, and
tells the number that it stands for.
-/

namespace BiometricSession

namespace Text

/-- A text does not go on with a character of a class. -/
def Leaves (test : Char → Bool) (rest : List Char) : Prop :=
  ∀ character ∈ rest.head?, test character = false

theorem leaves_nil (test : Char → Bool) : Leaves test [] :=
  nofun

theorem leaves_cons {test : Char → Bool} {character : Char} (outside : test character = false)
    (rest : List Char) : Leaves test (character :: rest) := by
  intro first isFirst
  obtain rfl := Option.some.inj isFirst
  exact outside

/-- A word in a class of its own leaves the class at once. -/
theorem leaves_word {test : Char → Bool} {word : String}
    (outside : (word.toList.head?.any fun character => !test character) = true)
    (rest : List Char) : Leaves test (word.toList ++ rest) := by
  cases letters : word.toList with
  | nil => simp [letters] at outside
  | cons first others =>
      rw [letters] at outside
      exact leaves_cons (by simpa using outside) (others ++ rest)

theorem leaves_lastWord {test : Char → Bool} {word : String}
    (outside : (word.toList.head?.any fun character => !test character) = true) :
    Leaves test word.toList := by
  have leaves := leaves_word outside []
  rwa [List.append_nil] at leaves

variable {test : Char → Bool} {block other rest last : List Char}

theorem takeWhile_block (inside : ∀ character ∈ block, test character = true)
    (leaves : Leaves test rest) : (block ++ rest).takeWhile test = block := by
  have stops : rest.takeWhile test = [] := by
    cases rest with
    | nil => rfl
    | cons first others => simp [leaves first rfl]
  rw [List.takeWhile_append_of_pos inside, stops, List.append_nil]

/-- Texts that begin with blocks of a class are the same part by part. -/
theorem block_append_inj (inside : ∀ character ∈ block, test character = true)
    (insideOther : ∀ character ∈ other, test character = true) (leaves : Leaves test rest)
    (leavesOther : Leaves test last) (same : block ++ rest = other ++ last) :
    block = other ∧ rest = last := by
  have blocks : block = other := by
    rw [← takeWhile_block inside leaves, same, takeWhile_block insideOther leavesOther]
  rw [blocks] at same
  exact ⟨blocks, List.append_cancel_left same⟩

end Text

namespace Decimal

/-- Whether a character may stand in a numeral. -/
def isNumeral (character : Char) : Bool :=
  Toml.isDigit character || character = '-'

theorem isNumeral_of_mem_signedDigits (number : Int) :
    ∀ character ∈ signedDigits number, isNumeral character = true := by
  have digit : ∀ amount, ∀ character ∈ digits amount, isNumeral character = true := by
    intro amount character isMember
    simp [isNumeral, isDigit_of_mem_digits amount character isMember]
  cases number with
  | ofNat amount => exact digit amount
  | negSucc amount =>
      intro character isMember
      rcases List.mem_cons.mp isMember with rfl | isDigit
      · decide
      · exact digit (amount + 1) character isDigit

theorem digits_injective : Function.Injective digits :=
  Function.LeftInverse.injective value_digits

theorem signedDigits_injective : Function.Injective signedDigits := by
  have unsigned : ∀ amount other, digits amount ≠ '-' :: digits other := by
    intro amount other same
    have sign := isDigit_of_mem_digits amount '-' (by simp [same])
    exact absurd sign (by decide)
  intro number other same
  cases number with
  | ofNat amount =>
      cases other with
      | ofNat amount' => rw [digits_injective same]
      | negSucc amount' => exact absurd same (unsigned amount (amount' + 1))
  | negSucc amount =>
      cases other with
      | ofNat amount' => exact absurd same.symm (unsigned amount' (amount + 1))
      | negSucc amount' =>
          have next := digits_injective (List.cons.inj same).2
          rw [Nat.succ.inj next]

/-- A numeral that is followed by something else tells its number. -/
theorem signedDigits_append_inj {number other : Int} {rest last : List Char}
    (leaves : Text.Leaves isNumeral rest) (leavesOther : Text.Leaves isNumeral last)
    (same : signedDigits number ++ rest = signedDigits other ++ last) :
    number = other ∧ rest = last := by
  obtain ⟨numerals, rests⟩ := Text.block_append_inj (isNumeral_of_mem_signedDigits number)
    (isNumeral_of_mem_signedDigits other) leaves leavesOther same
  exact ⟨signedDigits_injective numerals, rests⟩

theorem toList_text (number : Int) : (text number).toList = signedDigits number :=
  String.toList_ofList

theorem text_injective : Function.Injective text :=
  fun _ _ same => signedDigits_injective (String.ofList_injective same)

/-- Behind the same words, a numeral that is followed by something else tells its
number. -/
theorem text_between_inj {number other : Int} {front rest last : List Char}
    (leaves : Text.Leaves isNumeral rest) (leavesOther : Text.Leaves isNumeral last)
    (same : front ++ ((text number).toList ++ rest) = front ++ ((text other).toList ++ last)) :
    number = other ∧ rest = last := by
  rw [List.append_cancel_left_eq, toList_text, toList_text] at same
  exact signedDigits_append_inj leaves leavesOther same

end Decimal

end BiometricSession
