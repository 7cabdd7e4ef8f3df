import BiometricSession.Text.Reader
import Mathlib.Data.List.TakeDrop

/-!
# What readers read

Equations for the ways in which readers are combined.  A repetition reads what
its reader reads one after the other up to a text that the reader refuses; a
block of characters of one class is read up to the first character outside of
the class.
-/

namespace BiometricSession.Reader

variable {α β : Type}

@[simp]
theorem pure_apply (value : α) (text : List Char) :
    (pure value : Reader α) text = some (value, text) :=
  rfl

@[simp]
theorem protectedPure_apply (value : α) (text : List Char) :
    Reader.pure value text = some (value, text) :=
  rfl

@[simp]
theorem bind_apply (first : Reader α) (next : α → Reader β) (text : List Char) :
    (first >>= next) text = (first text).bind fun (value, rest) => next value rest := by
  change Reader.bind first next text = _
  unfold Reader.bind
  cases first text <;> rfl

@[simp]
theorem fail_apply (text : List Char) : (fail : Reader α) text = none :=
  rfl

@[simp]
theorem orElse_apply (first second : Reader α) (text : List Char) :
    orElse first second text = (first text).or (second text) := by
  unfold orElse
  cases first text <;> rfl

@[simp]
theorem optional_apply (reader : Reader α) (text : List Char) :
    optional reader text =
      (reader text).elim (some (none, text)) fun (value, rest) => some (some value, rest) := by
  unfold optional
  cases reader text <;> rfl

@[simp]
theorem satisfy_nil (test : Char → Bool) : satisfy test [] = none :=
  rfl

@[simp]
theorem satisfy_cons (test : Char → Bool) (found : Char) (rest : List Char) :
    satisfy test (found :: rest) = if test found then some (found, rest) else none :=
  rfl

@[simp]
theorem character_nil (expected : Char) : character expected [] = none :=
  rfl

@[simp]
theorem character_cons (expected found : Char) (rest : List Char) :
    character expected (found :: rest) = if found = expected then some ((), rest) else none :=
  rfl

@[simp]
theorem literal_nil (text : List Char) : literal [] text = some ((), text) := by
  cases text <;> rfl

@[simp]
theorem literal_cons (expected : Char) (others text : List Char) :
    literal (expected :: others) text =
      (character expected text).bind fun (_, rest) => literal others rest := by
  cases text with
  | nil => rfl
  | cons found rest =>
      by_cases same : found = expected <;> simp [literal, same]

/-! ## Blocks of characters -/

section Blocks

variable {test : Char → Bool} {block rest : List Char} {stop : Char}

theorem takeWhile1_block (someCharacter : block ≠ [])
    (inside : ∀ character ∈ block, test character = true) (outside : test stop = false) :
    takeWhile1 test (block ++ stop :: rest) = some (block, stop :: rest) := by
  have taken : (block ++ stop :: rest).takeWhile test = block := by
    simp [List.takeWhile_append_of_pos inside, outside]
  have dropped : (block ++ stop :: rest).dropWhile test = stop :: rest := by
    simp [List.dropWhile_append_of_pos inside, outside]
  unfold takeWhile1
  rw [taken, dropped]
  cases block with
  | nil => exact absurd rfl someCharacter
  | cons first others => rfl

theorem takeWhile1_refuses (outside : test stop = false) :
    takeWhile1 test (stop :: rest) = none := by
  simp [takeWhile1, outside]

/-- Reading some characters of a class leaves the end of their block alone. -/
theorem dropWhile_of_exactly {count : Nat} {text taken left : List Char}
    (reads : exactly test count text = some (taken, left)) :
    left.dropWhile test = text.dropWhile test := by
  induction count generalizing text taken with
  | zero =>
      obtain ⟨rfl, rfl⟩ : [] = taken ∧ text = left := by
        simpa [exactly] using reads
      rfl
  | succ count ih =>
      cases text with
      | nil => simp [exactly] at reads
      | cons first others =>
          by_cases passes : test first = true
          · cases read : exactly test count others with
            | none => simp [exactly, passes, read] at reads
            | some result =>
                obtain ⟨-, rfl⟩ : first :: result.1 = taken ∧ result.2 = left := by
                  simpa [exactly, passes, read] using reads
                rw [ih read, List.dropWhile_cons_of_pos passes]
          · simp [exactly, passes] at reads

/-- At a block, a character is refused that neither belongs to the class nor
ends the block. -/
theorem character_refuses {expected : Char} {text : List Char}
    (stops : text.dropWhile test = stop :: rest) (outside : test expected = false)
    (other : stop ≠ expected) :
    character expected text = none := by
  cases text with
  | nil => rfl
  | cons first others =>
      by_cases same : first = expected
      · subst same
        rw [List.dropWhile_cons_of_neg (by simp [outside])] at stops
        exact absurd (List.cons.inj stops).1.symm other
      · simp [same]

end Blocks

/-! ## Repetition -/

/-- Values that a reader reads one after the other, up to a text that it
refuses. -/
inductive Repeats (reader : Reader α) : List Char → List α → List Char → Prop
  | stop {text : List Char} (refuses : reader text = none) : Repeats reader text [] text
  | next {text rest last : List Char} {value : α} {values : List α}
      (reads : reader text = some (value, rest)) (shorter : rest.length < text.length)
      (others : Repeats reader rest values last) :
      Repeats reader text (value :: values) last

namespace Repeats

variable {reader : Reader α} {text last : List Char} {values : List α}

theorem manyWithin (repeats : Repeats reader text values last) {bound : List Char}
    (enough : values.length ≤ bound.length) :
    manyWithin reader bound text = some (values, last) := by
  induction repeats generalizing bound with
  | stop refuses => cases bound <;> simp [Reader.manyWithin, refuses]
  | next reads _ _ ih =>
      cases bound with
      | nil => simp at enough
      | cons _ bound =>
          simp [Reader.manyWithin, reads, ih (Nat.le_of_succ_le_succ enough)]

theorem length_le (repeats : Repeats reader text values last) :
    values.length ≤ text.length := by
  induction repeats with
  | stop => simp
  | next _ shorter _ ih =>
      rw [List.length_cons]
      omega

theorem many (repeats : Repeats reader text values last) :
    many reader text = some (values, last) :=
  repeats.manyWithin repeats.length_le

end Repeats

@[simp]
theorem many_of_refuses {reader : Reader α} {text : List Char} (refuses : reader text = none) :
    many reader text = some ([], text) :=
  (Repeats.stop refuses).many

end BiometricSession.Reader
