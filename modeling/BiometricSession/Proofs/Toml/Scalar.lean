import BiometricSession.Proofs.Text.Decimal
import BiometricSession.Proofs.Text.Reader
import BiometricSession.Toml.Printer
import BiometricSession.Toml.Scalar

/-!
# Printed scalars are read back

Integers, truth values and plain strings are read as what was printed.  An
integer is tried as a string, a date, a time, a number in another base and a
number that is written as a word before it is read as a decimal number, so the
other readers are shown to refuse it.
-/

namespace BiometricSession.Toml

open Reader

/-- A character that stands after a printed number: after an item of a list,
after the last item, or after an entry. -/
def EndsNumber (character : Char) : Prop :=
  character = ',' ∨ character = ']' ∨ character = '\n'

/-! ## Numbers -/

section Numbers

variable {text rest : List Char} {stop : Char}

theorem EndsNumber.not_isDigit (ends : EndsNumber stop) : isDigit stop = false := by
  rcases ends with rfl | rfl | rfl <;> rfl

/-- Where some digits are followed by the end of a number, no other character is
found. -/
theorem character_refuses_number (ends : EndsNumber stop)
    (stops : text.dropWhile isDigit = stop :: rest) {expected : Char}
    (noDigit : isDigit expected = false) (noEnd : ¬ EndsNumber expected) :
    character expected text = none := by
  refine character_refuses stops noDigit ?_
  rintro rfl
  exact noEnd ends

theorem string_refuses (noMark : character '"' text = none)
    (noApostrophe : character '\'' text = none) :
    string text = none := by
  simp [string, multilineBasicString, multilineLiteralString, multilineString, basicString,
    literalString, noMark, noApostrophe]

theorem date_refuses (ends : EndsNumber stop)
    (stops : text.dropWhile isDigit = stop :: rest) : date text = none := by
  cases reads : exactly isDigit 4 text with
  | none => simp [date, reads]
  | some result =>
      have noDash : character '-' result.2 = none :=
        character_refuses_number ends ((dropWhile_of_exactly reads).trans stops) rfl
          (by simp [EndsNumber])
      simp [date, reads, noDash]

theorem dropWhile_of_twoDigits {least greatest number : Nat} {left : List Char}
    (reads : twoDigits least greatest text = some (number, left)) :
    left.dropWhile isDigit = text.dropWhile isDigit := by
  cases taken : exactly isDigit 2 text with
  | none => simp [twoDigits, taken] at reads
  | some result =>
      have same : result.2 = left := by
        simp only [twoDigits, bind_apply, taken, Option.bind_some] at reads
        split at reads
        · exact congrArg Prod.snd (Option.some.inj reads)
        · exact nomatch reads
      rw [← same]
      exact dropWhile_of_exactly taken

theorem timeOfDay_refuses (ends : EndsNumber stop)
    (stops : text.dropWhile isDigit = stop :: rest) : timeOfDay text = none := by
  cases reads : twoDigits 0 23 text with
  | none => simp [timeOfDay, reads]
  | some result =>
      have noColon : character ':' result.2 = none :=
        character_refuses_number ends ((dropWhile_of_twoDigits reads).trans stops) rfl
          (by simp [EndsNumber])
      simp [timeOfDay, reads, noColon]

theorem moment_refuses (noDate : date text = none) (noTime : timeOfDay text = none) :
    moment text = none := by
  simp [moment, noDate, noTime]

theorem integerInBase_refuses (ends : EndsNumber stop)
    (stops : text.dropWhile isDigit = stop :: rest) {letter : Char} (base : Nat)
    (isValid : Char → Bool) (noDigit : isDigit letter = false)
    (noEnd : ¬ EndsNumber letter) :
    integerInBase letter base isValid text = none := by
  cases text with
  | nil => simp [integerInBase]
  | cons first others =>
      by_cases zero : first = '0'
      · subst zero
        rw [List.dropWhile_cons_of_pos rfl] at stops
        have noLetter : character letter others = none :=
          character_refuses_number ends stops noDigit noEnd
        simp [integerInBase, noLetter]
      · simp [integerInBase, zero]

theorem sign_of_digits (ends : EndsNumber stop)
    (stops : text.dropWhile isDigit = stop :: rest) :
    sign text = some (false, text) := by
  have noPlus : character '+' text = none :=
    character_refuses_number ends stops rfl (by simp [EndsNumber])
  have noMinus : character '-' text = none :=
    character_refuses_number ends stops rfl (by simp [EndsNumber])
  cases text with
  | nil => simp [sign]
  | cons first others =>
      simp only [character_cons, ite_eq_right_iff, reduceCtorEq, imp_false] at noPlus noMinus
      simp [sign, noPlus, noMinus]

theorem specialNumber_refuses {negative : Bool} {number : List Char}
    (signed : sign text = some (negative, number)) (noInfinity : character 'i' number = none)
    (noNotANumber : character 'n' number = none) :
    specialNumber text = none := by
  simp [specialNumber, signed, noInfinity, noNotANumber]

/-- The digits of a number up to its end. -/
theorem dropWhile_digits (ends : EndsNumber stop) (number : Nat) (rest : List Char) :
    (Decimal.digits number ++ stop :: rest).dropWhile isDigit = stop :: rest := by
  simp [List.dropWhile_append_of_pos (Decimal.isDigit_of_mem_digits number), ends.not_isDigit]

theorem digits_block {block : List Char} (someDigit : block ≠ [])
    (areDigits : ∀ character ∈ block, isDigit character = true) (ends : EndsNumber stop)
    (rest : List Char) :
    digits isDigit (block ++ stop :: rest) = some (block, stop :: rest) := by
  have noUnderscore : stop ≠ '_' := by
    rcases ends with rfl | rfl | rfl <;> decide
  simp [digits, takeWhile1_block someDigit areDigits ends.not_isDigit, noUnderscore]

theorem wholeDigits_digits (ends : EndsNumber stop) (number : Nat) :
    wholeDigits (Decimal.digits number ++ stop :: rest) =
      some (Decimal.digits number, stop :: rest) := by
  rcases Nat.eq_zero_or_pos number with rfl | positive
  · have zero : Decimal.digits 0 = ['0'] := by
      rw [Decimal.digits]
      rfl
    rw [zero]
    rfl
  · have block := digits_block (Decimal.digits_ne_nil number)
      (Decimal.isDigit_of_mem_digits number) ends rest
    obtain ⟨first, others, split, nonzero⟩ := Decimal.digits_head_ne_zero positive
    rw [split] at block ⊢
    rw [← block]
    unfold wholeDigits
    split
    · next zero => exact absurd (List.cons.inj zero).1 nonzero
    · rfl

/-- Digits after an optional sign are a decimal number if nothing but the end of
a number follows. -/
theorem decimalNumber_digits (ends : EndsNumber stop) {negative : Bool} {number : Nat}
    {value : Int} (signed : sign text = some (negative, Decimal.digits number ++ stop :: rest))
    (signedValue : value = if negative then -(number : Int) else number)
    (fits : Int64.minValue.toInt ≤ value ∧ value ≤ Int64.maxValue.toInt) :
    decimalNumber text = some (.integer value, stop :: rest) := by
  have noFraction : fraction (stop :: rest) = none := by
    rcases ends with rfl | rfl | rfl <;> rfl
  have noExponent : exponent (stop :: rest) = none := by
    rcases ends with rfl | rfl | rfl <;> rfl
  have inRange : integerInRange value = Reader.pure (.integer value) := if_pos (by simpa using fits)
  simp only [decimalNumber, bind_apply, signed, Option.bind_some, wholeDigits_digits ends,
    optional_apply, noFraction, noExponent, Option.elim_none, Decimal.value_digits, ← signedValue,
    inRange]
  rfl

/-- A text that is neither a string nor a moment nor a number in another
notation is read as a decimal number. -/
theorem scalar_of_decimalNumber {data : Data} (noString : string text = none)
    (noMoment : moment text = none)
    (noBase : ∀ letter base isValid, isDigit letter = false → ¬ EndsNumber letter →
      integerInBase letter base isValid text = none)
    (noWord : specialNumber text = none)
    (reads : decimalNumber text = some (data, rest)) :
    scalar text = some (data, rest) := by
  have noHexadecimal := noBase 'x' 16 isHexadecimal rfl (by simp [EndsNumber])
  have noOctal := noBase 'o' 8 isOctal rfl (by simp [EndsNumber])
  have noBinary := noBase 'b' 2 isBinary rfl (by simp [EndsNumber])
  simp [scalar, noString, noMoment, noHexadecimal, noOctal, noBinary, noWord, reads]

theorem scalar_digits (ends : EndsNumber stop) {number : Nat}
    (fits : (number : Int) ≤ Int64.maxValue.toInt) :
    scalar (Decimal.digits number ++ stop :: rest) = some (.integer number, stop :: rest) := by
  have stops := dropWhile_digits ends number rest
  have refuses : ∀ {expected : Char}, isDigit expected = false → ¬ EndsNumber expected →
      character expected (Decimal.digits number ++ stop :: rest) = none :=
    fun noDigit noEnd => character_refuses_number ends stops noDigit noEnd
  have signed := sign_of_digits ends stops
  apply scalar_of_decimalNumber
  · exact string_refuses (refuses rfl (by simp [EndsNumber])) (refuses rfl (by simp [EndsNumber]))
  · exact moment_refuses (date_refuses ends stops) (timeOfDay_refuses ends stops)
  · intro letter base isValid
    exact integerInBase_refuses ends stops base isValid
  · exact specialNumber_refuses signed (refuses rfl (by simp [EndsNumber]))
      (refuses rfl (by simp [EndsNumber]))
  · exact decimalNumber_digits ends signed rfl
      ⟨(by decide : Int64.minValue.toInt ≤ 0).trans (Int.natCast_nonneg number), fits⟩

theorem scalar_minus_digits (ends : EndsNumber stop) {number : Nat}
    (fits : Int64.minValue.toInt ≤ -(number : Int)) :
    scalar ('-' :: Decimal.digits number ++ stop :: rest) =
      some (.integer (-number), stop :: rest) := by
  have refuses : ∀ {expected : Char}, isDigit expected = false → ¬ EndsNumber expected →
      character expected (Decimal.digits number ++ stop :: rest) = none :=
    fun noDigit noEnd =>
      character_refuses_number ends (dropWhile_digits ends number rest) noDigit noEnd
  have signed : sign ('-' :: Decimal.digits number ++ stop :: rest) =
      some (true, Decimal.digits number ++ stop :: rest) := by
    simp [sign]
  have noDigit : isDigit '-' = false := rfl
  apply scalar_of_decimalNumber
  · exact string_refuses rfl rfl
  · exact moment_refuses (by simp [date, exactly, noDigit])
      (by simp [timeOfDay, twoDigits, exactly, noDigit])
  · intro letter base isValid _ _
    simp [integerInBase]
  · exact specialNumber_refuses signed (refuses rfl (by simp [EndsNumber]))
      (refuses rfl (by simp [EndsNumber]))
  · refine decimalNumber_digits ends signed rfl ⟨fits, le_trans ?_
      (by decide : 0 ≤ Int64.maxValue.toInt)⟩
    simp

/-- Every integer of 64 bits is read back. -/
theorem scalar_signedDigits (ends : EndsNumber stop) {value : Int}
    (fits : Int64.minValue.toInt ≤ value ∧ value ≤ Int64.maxValue.toInt) :
    scalar (Decimal.signedDigits value ++ stop :: rest) = some (.integer value, stop :: rest) := by
  cases value with
  | ofNat number => exact scalar_digits ends fits.2
  | negSucc number => exact scalar_minus_digits ends fits.1

end Numbers

/-! ## Truth values and strings -/

theorem scalar_printBool (value : Bool) (rest : List Char) :
    scalar (printBool value ++ rest) = some (.bool value, rest) := by
  cases value <;> rfl

theorem repeats_plain {characters rest : List Char}
    (plain : characters.all isBasic = true) :
    Repeats (orElse (satisfy isBasic) escape) (characters ++ '"' :: rest) characters
      ('"' :: rest) := by
  induction characters with
  | nil => exact .stop rfl
  | cons first others ih =>
      rw [List.all_cons, Bool.and_eq_true] at plain
      exact .next (by simp [plain.1]) (by simp) (ih plain.2)

theorem scalar_printPlain {text : String} (someCharacter : text ≠ "")
    (plain : text.toList.all isBasic = true) (rest : List Char) :
    scalar (printPlain text ++ rest) = some (.text text, rest) := by
  obtain ⟨first, others, split⟩ : ∃ first others, text.toList = first :: others :=
    List.exists_cons_of_ne_nil (by simpa using someCharacter)
  have noMark : first ≠ '"' := by
    rintro rfl
    rw [split] at plain
    exact nomatch plain
  have noLines : multilineBasicString (printPlain text ++ rest) = none := by
    simp [multilineBasicString, multilineString, printPlain, split, noMark]
  have reads : basicString (printPlain text ++ rest) = some (text, rest) := by
    simp [basicString, printPlain, (repeats_plain plain).many]
  have noLiteral : multilineLiteralString (printPlain text ++ rest) = none := by
    simp [multilineLiteralString, multilineString, printPlain]
  simp [scalar, string, noLines, noLiteral, reads]

end BiometricSession.Toml
