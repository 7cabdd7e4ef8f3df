import BiometricSession.Json.Printer
import BiometricSession.Json.Reader
import BiometricSession.Proofs.Text.Numeral
import BiometricSession.Proofs.Text.Reader
import Mathlib.Tactic.IntervalCases

/-!
# What compact JSON tells

Every string is read back from its quoted form, whatever stands behind it.  So
the text of a value made of objects, strings, whole numbers and truth values
tells the value, and where it ends.  It has no line end inside.
-/

namespace BiometricSession.Json

/-! ## Strings -/

/-- An escaped character is read back as it was. -/
theorem stringCharacter_escapeCharacter (character : Char) (rest : List Char) :
    stringCharacter (escapeCharacter character ++ rest) = some (character, rest) := by
  unfold escapeCharacter
  split
  case h_8 quote backslash _ _ _ _ _ =>
    split
    · next control =>
        have code : character.toNat < 32 := control
        obtain ⟨number, small, rfl⟩ : ∃ number, number < 32 ∧ Char.ofNat number = character :=
          ⟨character.toNat, code, Char.ofNat_toNat character⟩
        clear quote backslash control code
        interval_cases number <;> rfl
    · next visible =>
        have passes : (character ≠ '"' && 0x20 ≤ character.toNat) = true := by
          simp only [Bool.and_eq_true, decide_eq_true_eq]
          exact ⟨quote, Nat.le_of_not_lt visible⟩
        have plain : character ≠ '\\' := backslash
        simp only [stringCharacter, List.cons_append, List.nil_append, Reader.bind_apply,
          Reader.satisfy_cons, passes, if_pos, Option.bind_some, plain, if_neg, not_false_iff,
          Reader.pure_apply]
  all_goals rfl

theorem escapeCharacter_ne_nil (character : Char) : escapeCharacter character ≠ [] := by
  intro empty
  have reads := stringCharacter_escapeCharacter character []
  rw [empty] at reads
  cases reads

theorem repeats_escaped (content rest : List Char) :
    Reader.Repeats stringCharacter (content.flatMap escapeCharacter ++ '"' :: rest) content
      ('"' :: rest) := by
  induction content with
  | nil => exact .stop rfl
  | cons character content ih =>
      rw [List.flatMap_cons, List.append_assoc]
      refine .next (stringCharacter_escapeCharacter character _) ?_ ih
      have taken := List.length_pos_iff.mpr (escapeCharacter_ne_nil character)
      simp only [List.length_append, List.length_cons]
      omega

/-- A quoted string is read back as it was. -/
theorem string_quoted (content : String) (rest : List Char) :
    string (quoted content ++ rest) = some (content, rest) := by
  have opened : quoted content ++ rest =
      '"' :: (content.toList.flatMap escapeCharacter ++ '"' :: rest) := by
    simp [quoted]
  rw [opened]
  simp [string, (repeats_escaped content.toList rest).many]

theorem quoted_append_inj {content other : String} {rest last : List Char}
    (same : quoted content ++ rest = quoted other ++ last) : content = other ∧ rest = last := by
  have reads := congrArg string same
  rw [string_quoted, string_quoted] at reads
  exact Prod.mk.inj (Option.some.inj reads)

/-! ## Values -/

/-- Values without lists and fractions, and without those that have no notation
of their own. -/
inductive Plain : Data → Prop
  | bool (value : Bool) : Plain (.bool value)
  | integer (value : Int) : Plain (.integer value)
  | text (content : String) : Plain (.text content)
  | table {entries : List (String × Data)} (plain : ∀ entry ∈ entries, Plain entry.2) :
      Plain (.table entries)

/-- Which sort of value a text begins with, told by its first character. -/
def sortOfText : List Char → Nat
  | 't' :: _ | 'f' :: _ => 1
  | '"' :: _ => 4
  | '\x7b' :: _ => 8
  | _ => 2

theorem sortOfText_signedDigits (number : Int) (rest : List Char) :
    sortOfText (Decimal.signedDigits number ++ rest) = 2 := by
  obtain ⟨first, others, numeral⟩ : ∃ first others,
      Decimal.signedDigits number = first :: others := by
    cases number with
    | ofNat amount => exact List.exists_cons_of_ne_nil (Decimal.digits_ne_nil amount)
    | negSucc amount => exact ⟨_, _, rfl⟩
  have isNumeral : Decimal.isNumeral first = true :=
    Decimal.isNumeral_of_mem_signedDigits number first (by simp [numeral])
  rw [numeral, List.cons_append]
  unfold sortOfText
  split
  case h_5 => rfl
  all_goals
    next same =>
      obtain ⟨rfl, -⟩ := List.cons.inj same
      exact absurd isNumeral (by decide)

theorem sortOfText_characters {value : Data} (plain : Plain value) (rest : List Char) :
    sortOfText (characters value ++ rest) = value.ctorIdx := by
  cases plain with
  | bool value => cases value <;> rfl
  | integer value =>
      rw [characters]
      exact sortOfText_signedDigits value rest
  | text content =>
      rw [characters]
      rfl
  | table plain =>
      rw [characters]
      rfl

/-- What follows the first entry of an object. -/
def laterCharacters (entries : List (String × Data)) : List Char :=
  if entries.isEmpty then [] else ',' :: entryCharacters entries

theorem entryCharacters_cons (name : String) (value : Data) (entries : List (String × Data)) :
    entryCharacters ((name, value) :: entries) =
      quoted name ++ ':' :: (characters value ++ laterCharacters entries) := by
  cases entries with
  | nil => simp [entryCharacters, laterCharacters]
  | cons entry entries => simp [entryCharacters, laterCharacters]

theorem leaves_laterCharacters (entries : List (String × Data)) (rest : List Char) :
    Text.Leaves Decimal.isNumeral (laterCharacters entries ++ '\x7d' :: rest) := by
  cases entries with
  | nil => exact Text.leaves_cons (by decide) rest
  | cons entry entries => exact Text.leaves_cons (by decide) _

/-- A text tells a value, given what follows it. -/
def Tells (value : Data) : Prop :=
  ∀ {other : Data} {rest last : List Char}, Plain other →
    Text.Leaves Decimal.isNumeral rest → Text.Leaves Decimal.isNumeral last →
      characters value ++ rest = characters other ++ last → value = other ∧ rest = last

/-- The entries of an object are told by its text if their values are. -/
theorem entries_append_inj {entries others : List (String × Data)} {rest last : List Char}
    (tells : ∀ entry ∈ entries, Tells entry.2) (plain : ∀ entry ∈ others, Plain entry.2)
    (same : entryCharacters entries ++ '\x7d' :: rest =
      entryCharacters others ++ '\x7d' :: last) : entries = others ∧ rest = last := by
  induction entries generalizing others with
  | nil =>
      cases others with
      | nil => exact ⟨rfl, (List.cons.inj same).2⟩
      | cons entry others =>
          rw [entryCharacters_cons] at same
          exact absurd (List.cons.inj same).1 (by decide)
  | cons entry entries ih =>
      obtain ⟨name, value⟩ := entry
      cases others with
      | nil =>
          rw [entryCharacters_cons] at same
          exact absurd (List.cons.inj same).1 (by decide)
      | cons entry' others =>
          obtain ⟨name', value'⟩ := entry'
          rw [entryCharacters_cons, entryCharacters_cons, List.append_assoc, List.append_assoc]
            at same
          obtain ⟨sameName, afterName⟩ := quoted_append_inj same
          simp only [List.cons_append, List.append_assoc, List.cons.injEq, true_and] at afterName
          obtain ⟨valueTells, tells⟩ := List.forall_mem_cons.mp tells
          obtain ⟨valuePlain, plain⟩ := List.forall_mem_cons.mp plain
          obtain ⟨sameValue, afterValue⟩ := valueTells valuePlain
            (leaves_laterCharacters entries rest) (leaves_laterCharacters others last) afterName
          have sameEntry : (name, value) = (name', value') := Prod.ext sameName sameValue
          rw [sameEntry]
          -- either both objects end here or both go on
          cases entries with
          | nil =>
              cases others with
              | nil => exact ⟨rfl, (List.cons.inj afterValue).2⟩
              | cons => exact absurd (List.cons.inj afterValue).1 (by decide)
          | cons =>
              cases others with
              | nil => exact absurd (List.cons.inj afterValue).1 (by decide)
              | cons =>
                  obtain ⟨sameEntries, rests⟩ := ih tells plain (List.cons.inj afterValue).2
                  exact ⟨by rw [sameEntries], rests⟩

/-- The text of a plain value tells the value. -/
theorem Plain.tells {value : Data} (plain : Plain value) : Tells value := by
  induction plain with
  | bool value =>
      intro other rest last plain leaves leavesOther same
      have sorts := congrArg sortOfText same
      rw [sortOfText_characters (.bool value), sortOfText_characters plain] at sorts
      cases plain with
      | bool other => cases value <;> cases other <;> simp_all [characters]
      | _ => cases sorts
  | integer number =>
      intro other rest last plain leaves leavesOther same
      have sorts := congrArg sortOfText same
      rw [sortOfText_characters (.integer number), sortOfText_characters plain] at sorts
      cases plain with
      | integer other =>
          rw [characters, characters] at same
          obtain ⟨rfl, rests⟩ := Decimal.signedDigits_append_inj leaves leavesOther same
          exact ⟨rfl, rests⟩
      | _ => cases sorts
  | text content =>
      intro other rest last plain leaves leavesOther same
      have sorts := congrArg sortOfText same
      rw [sortOfText_characters (.text content), sortOfText_characters plain] at sorts
      cases plain with
      | text other =>
          rw [characters, characters] at same
          obtain ⟨rfl, rests⟩ := quoted_append_inj same
          exact ⟨rfl, rests⟩
      | _ => cases sorts
  | @table entries plainEntries tells =>
      intro other rest last plain leaves leavesOther same
      have sorts := congrArg sortOfText same
      rw [sortOfText_characters (.table plainEntries), sortOfText_characters plain] at sorts
      cases plain with
      | @table others plain =>
          simp only [characters, List.cons_append, List.append_assoc, List.nil_append,
            List.cons.injEq, true_and] at same
          obtain ⟨rfl, rests⟩ := entries_append_inj tells plain same
          exact ⟨rfl, rests⟩
      | _ => cases sorts

/-- No two plain values have the same text. -/
theorem print_inj {value other : Data} (plain : Plain value) (plainOther : Plain other)
    (same : print value = print other) : value = other := by
  have texts : characters value ++ [] = characters other ++ [] := by
    simpa using String.ofList_injective same
  exact (plain.tells plainOther (Text.leaves_nil _) (Text.leaves_nil _) texts).1

/-! ## Lines -/

theorem newline_not_mem_escapeCharacter (character : Char) :
    '\n' ∉ escapeCharacter character := by
  unfold escapeCharacter
  split
  case h_8 _ _ _ _ other _ _ =>
    split
    · next control =>
        have code : character.toNat < 32 := control
        generalize character.toNat = number at code
        interval_cases number <;> decide
    · simpa using fun same => other same.symm
  all_goals decide

theorem newline_not_mem_quoted (content : String) : '\n' ∉ quoted content := by
  intro isMember
  simp only [quoted, List.cons_append, List.mem_cons, List.mem_append, List.mem_flatMap] at isMember
  rcases isMember with quote | ⟨character, _, escaped⟩ | quote | nothing
  · exact absurd quote (by decide)
  · exact newline_not_mem_escapeCharacter character escaped
  · exact absurd quote (by decide)
  · cases nothing

theorem newline_not_mem_entryCharacters {entries : List (String × Data)}
    (unbroken : ∀ entry ∈ entries, '\n' ∉ characters entry.2) :
    '\n' ∉ entryCharacters entries := by
  induction entries with
  | nil => simp [entryCharacters]
  | cons entry entries ih =>
      obtain ⟨name, value⟩ := entry
      obtain ⟨unbrokenValue, unbroken⟩ := List.forall_mem_cons.mp unbroken
      have later : '\n' ∉ laterCharacters entries := by
        unfold laterCharacters
        split
        · exact List.not_mem_nil
        · simpa using ih unbroken
      rw [entryCharacters_cons]
      simp [newline_not_mem_quoted, unbrokenValue, later]

theorem Plain.newline_not_mem {value : Data} (plain : Plain value) : '\n' ∉ characters value := by
  induction plain with
  | bool value => cases value <;> simp [characters]
  | integer number =>
      rw [characters]
      intro isMember
      exact absurd (Decimal.isNumeral_of_mem_signedDigits number _ isMember) (by decide)
  | text content =>
      rw [characters]
      exact newline_not_mem_quoted content
  | table plain unbroken =>
      simp [characters, newline_not_mem_entryCharacters unbroken]

end BiometricSession.Json
