import BiometricSession.Proofs.Toml.Scalar
import BiometricSession.Toml.Statement

/-!
# Printed statements are read back

Lists of integers over one line or several, entries and headers are read as what
was printed.  A list of several items ends with a comma, which the reader first
takes for the comma before a further item and then gives back.
-/

namespace BiometricSession.Toml

open Reader

/-! ## Gaps -/

/-- A character that no gap begins with. -/
def isSolid (character : Char) : Bool :=
  !isBlank character && character ≠ '\n' && character ≠ '\r' && character ≠ '#'

/-- The characters of a class without any with which a gap begins are solid. -/
theorem isSolid_of_class (test : Char → Bool)
    (apart : [' ', '\t', '\n', '\r', '#'].any test = false) {character : Char}
    (belongs : test character = true) : isSolid character = true := by
  have other : ∀ opening ∈ [' ', '\t', '\n', '\r', '#'], character ≠ opening := by
    rintro opening isMember rfl
    exact List.any_eq_false.mp apart character isMember belongs
  simp only [List.forall_mem_cons] at other
  obtain ⟨noSpace, noTab, noLineFeed, noReturn, noHash, -⟩ := other
  simp [isSolid, isBlank, noSpace, noTab, noLineFeed, noReturn, noHash]

section Gaps

variable {first : Char} {others : List Char}

theorem isBlank_of_solid (solid : isSolid first = true) : isBlank first = false := by
  simp only [isSolid, Bool.and_eq_true, Bool.not_eq_true'] at solid
  exact solid.1.1.1

theorem blanks_of_solid (solid : isSolid first = true) :
    blanks (first :: others) = some ((), first :: others) := by
  simp [blanks, Reader.takeWhile, isBlank_of_solid solid]

theorem newline_refuses (solid : isSolid first = true) :
    newline (first :: others) = none := by
  simp only [isSolid, Bool.and_eq_true, decide_eq_true_eq] at solid
  simp [newline, solid.1.1.2, solid.1.2]

theorem comment_refuses (solid : isSolid first = true) :
    comment (first :: others) = none := by
  simp only [isSolid, Bool.and_eq_true, decide_eq_true_eq] at solid
  simp [comment, solid.2]

theorem gap_refuses (solid : isSolid first = true) : gap (first :: others) = none := by
  simp [gap, takeWhile1_refuses (isBlank_of_solid solid), newline_refuses solid,
    comment_refuses solid]

theorem gaps_of_solid (solid : isSolid first = true) :
    gaps (first :: others) = some ((), first :: others) := by
  simp [gaps, gap_refuses solid]

/-- A line end before a line that is not indented. -/
theorem gaps_line (solid : isSolid first = true) :
    gaps ('\n' :: first :: others) = some ((), first :: others) := by
  have repeats : Repeats gap ('\n' :: first :: others) [()] (first :: others) :=
    .next rfl (by simp) (.stop (gap_refuses solid))
  simp [gaps, repeats.many]

/-- A line end before an indented line. -/
theorem gaps_indented (solid : isSolid first = true) :
    gaps ('\n' :: ' ' :: ' ' :: ' ' :: ' ' :: first :: others) =
      some ((), first :: others) := by
  have indentation :
      takeWhile1 isBlank (' ' :: ' ' :: ' ' :: ' ' :: first :: others) =
        some ([' ', ' ', ' ', ' '], first :: others) :=
    takeWhile1_block (List.cons_ne_nil ' ' [' ', ' ', ' ']) (by simp [isBlank])
      (isBlank_of_solid solid)
  have repeats : Repeats gap ('\n' :: ' ' :: ' ' :: ' ' :: ' ' :: first :: others) [(), ()]
      (first :: others) :=
    .next rfl (by simp) <|
      .next (by simp [gap, indentation]) (by simp) (.stop (gap_refuses solid))
  simp [gaps, repeats.many]

end Gaps

/-! ## Lists of integers -/

section Lists

variable {depth : Nat} {rest : List Char}

theorem value_of_scalar {text : List Char} {data : Data}
    (reads : scalar text = some (data, rest)) :
    value depth text = some (.scalar data, rest) := by
  cases depth <;> simp [value, reads]

theorem value_refuses : value depth (']' :: rest) = none := by
  cases depth <;> rfl

theorem signedDigits_solid (number : Int) :
    ∃ first others, Decimal.signedDigits number = first :: others ∧ isSolid first = true := by
  cases number with
  | ofNat number =>
      obtain ⟨first, others, split⟩ := List.exists_cons_of_ne_nil (Decimal.digits_ne_nil number)
      exact ⟨first, others, split, isSolid_of_class isDigit rfl
        (Decimal.isDigit_of_mem_digits number first (by simp [split]))⟩
  | negSucc number => exact ⟨'-', Decimal.digits (number + 1), rfl, rfl⟩

/-- The comma after an item and what may follow it in a list over several
lines. -/
def furtherItems (values : List Int) (rest : List Char) : List Char :=
  ',' :: '\n' :: values.flatMap printItem ++ ']' :: rest

theorem printItem_furtherItems (number : Int) (values : List Int) (rest : List Char) :
    (number :: values).flatMap printItem ++ ']' :: rest =
      ' ' :: ' ' :: ' ' :: ' ' ::
        (Decimal.signedDigits number ++ furtherItems values rest) := by
  simp [printItem, furtherItems]

theorem listComma_next (number : Int) (values : List Int) :
    listComma (furtherItems (number :: values) rest) =
      some ((), Decimal.signedDigits number ++ furtherItems values rest) := by
  obtain ⟨first, others, split, solid⟩ := signedDigits_solid number
  have comma : gaps (furtherItems (number :: values) rest) =
      some ((), furtherItems (number :: values) rest) :=
    gaps_of_solid rfl
  have item : gaps ('\n' :: ((number :: values).flatMap printItem ++ ']' :: rest)) =
      some ((), Decimal.signedDigits number ++ furtherItems values rest) := by
    rw [printItem_furtherItems, split]
    exact gaps_indented solid
  simp only [listComma, bind_apply, comma, Option.bind_some]
  simpa [furtherItems] using item

theorem listComma_last :
    listComma (furtherItems [] rest) = some ((), ']' :: rest) := by
  have comma : gaps (furtherItems [] rest) = some ((), furtherItems [] rest) :=
    gaps_of_solid rfl
  have bracket : gaps ('\n' :: ']' :: rest) = some ((), ']' :: rest) := gaps_line rfl
  simp only [listComma, bind_apply, comma, Option.bind_some]
  simp [furtherItems, bracket]

/-- The value that an integer of a list is read as. -/
def integerValue (number : Int) : Value :=
  .scalar (.integer number)

/-- Whether 64 bits with a sign can hold an integer. -/
def FitsInteger (number : Int) : Prop :=
  Int64.minValue.toInt ≤ number ∧ number ≤ Int64.maxValue.toInt

theorem fitsInteger_of_bounds {number : Int} (lower : -2 ^ 63 ≤ number)
    (upper : number < 2 ^ 63) : FitsInteger number :=
  ⟨lower, Int.lt_add_one_iff.mp upper⟩

theorem value_furtherItems {number : Int} (fits : FitsInteger number) (values : List Int) :
    value depth (Decimal.signedDigits number ++ furtherItems values rest) =
      some (integerValue number, furtherItems values rest) :=
  value_of_scalar (scalar_signedDigits (.inl rfl) fits)

theorem repeats_furtherItems {values : List Int} (fit : ∀ number ∈ values, FitsInteger number) :
    Repeats (do listComma; value depth) (furtherItems values rest) (values.map integerValue)
      (furtherItems [] rest) := by
  induction values with
  | nil => exact .stop (by simp [listComma_last, value_refuses])
  | cons number values ih =>
      rw [List.forall_mem_cons] at fit
      have reads : (do listComma; value depth) (furtherItems (number :: values) rest) =
          some (integerValue number, furtherItems values rest) := by
        simp [listComma_next, value_furtherItems fit.1]
      refine .next reads ?_ (ih fit.2)
      simp [furtherItems, printItem]
      omega

theorem list_nil (depth : Nat) (rest : List Char) :
    list (value depth) ('[' :: ']' :: rest) = some (.list [], rest) := by
  have bracket : gaps (']' :: rest) = some ((), ']' :: rest) := gaps_of_solid rfl
  simp [list, bracket, separated, separated1, value_refuses]

theorem list_singleton (depth : Nat) (rest : List Char) {number : Int}
    (fits : FitsInteger number) :
    list (value depth) ('[' :: Decimal.signedDigits number ++ ']' :: rest) =
      some (.list [integerValue number], rest) := by
  obtain ⟨first, others, split, solid⟩ := signedDigits_solid number
  have opening : gaps (Decimal.signedDigits number ++ ']' :: rest) =
      some ((), Decimal.signedDigits number ++ ']' :: rest) := by
    rw [split]
    exact gaps_of_solid solid
  have item : value depth (Decimal.signedDigits number ++ ']' :: rest) =
      some (integerValue number, ']' :: rest) :=
    value_of_scalar (scalar_signedDigits (.inr (.inl rfl)) fits)
  have bracket : gaps (']' :: rest) = some ((), ']' :: rest) := gaps_of_solid rfl
  simp [list, opening, separated, separated1, item, listComma, bracket]

theorem list_several (depth : Nat) (rest : List Char) {number : Int} {values : List Int}
    (fit : ∀ item ∈ number :: values, FitsInteger item) :
    list (value depth)
        ('[' :: '\n' :: ((number :: values).flatMap printItem ++ ']' :: rest)) =
      some (.list ((number :: values).map integerValue), rest) := by
  rw [List.forall_mem_cons] at fit
  obtain ⟨first, others, split, solid⟩ := signedDigits_solid number
  have opening : gaps ('\n' :: ((number :: values).flatMap printItem ++ ']' :: rest)) =
      some ((), Decimal.signedDigits number ++ furtherItems values rest) := by
    rw [printItem_furtherItems, split]
    exact gaps_indented solid
  have items : separated (value depth) listComma
      (Decimal.signedDigits number ++ furtherItems values rest) =
        some ((number :: values).map integerValue, furtherItems [] rest) := by
    simp [separated, separated1, value_furtherItems fit.1, (repeats_furtherItems fit.2).many]
  have comma : gaps (furtherItems [] rest) = some ((), furtherItems [] rest) :=
    gaps_of_solid rfl
  have closing : gaps ('\n' :: ']' :: rest) = some ((), ']' :: rest) := gaps_line rfl
  simp only [list, bind_apply, character_cons, if_true, Option.bind_some, opening, items, comma]
  simp [furtherItems, closing]

/-- A printed list of integers is read back, however long it is. -/
theorem value_printIntegers {values : List Int} (fit : ∀ number ∈ values, FitsInteger number)
    (depth : Nat) (rest : List Char) :
    value (depth + 1) (printIntegers values ++ rest) =
      some (.list (values.map integerValue), rest) := by
  have noScalar : ∀ text, scalar ('[' :: text) = none := fun _ => rfl
  have reads : list (value depth) (printIntegers values ++ rest) =
      some (.list (values.map integerValue), rest) := by
    match values, fit with
    | [], _ => exact list_nil depth rest
    | [number], fit =>
        have item := list_singleton depth rest (fit number (by simp))
        simpa [printIntegers] using item
    | number :: next :: values, fit =>
        have items := list_several depth rest fit
        simpa [printIntegers] using items
  obtain ⟨text, bracket⟩ : ∃ text, printIntegers values = '[' :: text := by
    match values with
    | [] => exact ⟨_, rfl⟩
    | [number] => exact ⟨_, rfl⟩
    | number :: next :: values => exact ⟨_, rfl⟩
  rw [bracket, List.cons_append] at reads ⊢
  simp [value, noScalar, reads]

end Lists

/-! ## Entries and headers -/

/-- A name that needs no marks around it as a key. -/
def IsBareName (name : String) : Prop :=
  name ≠ "" ∧ name.toList.all isBareKey = true

instance (name : String) : Decidable (IsBareName name) :=
  inferInstanceAs (Decidable (name ≠ "" ∧ name.toList.all isBareKey = true))

/-- A text that is read as a value if it stands in an entry up to the end of a
line. -/
structure Denotes (text : List Char) (content : Value) : Prop where
  solid : ∃ first others, text = first :: others ∧ isSolid first = true
  reads : ∀ rest, value deepestNesting (text ++ '\n' :: rest) = some (content, '\n' :: rest)

theorem denotes_printIntegers {values : List Int}
    (fit : ∀ number ∈ values, FitsInteger number) :
    Denotes (printIntegers values) (.list (values.map integerValue)) where
  solid := by
    match values with
    | [] => exact ⟨_, _, rfl, rfl⟩
    | [number] => exact ⟨_, _, rfl, rfl⟩
    | number :: next :: values => exact ⟨_, _, rfl, rfl⟩
  reads _ := value_printIntegers fit _ _

theorem denotes_digits {number : Nat} (fits : FitsInteger number) :
    Denotes (Decimal.digits number) (integerValue number) where
  solid := signedDigits_solid number
  reads _ := value_of_scalar (scalar_digits (.inr (.inr rfl)) fits.2)

theorem denotes_printBool (value : Bool) :
    Denotes (printBool value) (.scalar (.bool value)) where
  solid := by cases value <;> exact ⟨_, _, rfl, rfl⟩
  reads _ := value_of_scalar (scalar_printBool value _)

theorem denotes_printPlain {text : String} (someCharacter : text ≠ "")
    (plain : text.toList.all isBasic = true) :
    Denotes (printPlain text) (.scalar (.text text)) where
  solid := ⟨_, _, rfl, rfl⟩
  reads _ := value_of_scalar (scalar_printPlain someCharacter plain _)

section Lines

variable {name : String} {rest : List Char}

theorem IsBareName.split (bare : IsBareName name) :
    ∃ first others, name.toList = first :: others ∧ isBareKey first = true := by
  obtain ⟨first, others, split⟩ : ∃ first others, name.toList = first :: others :=
    List.exists_cons_of_ne_nil (by simpa using bare.1)
  exact ⟨first, others, split, List.all_eq_true.mp bare.2 first (by simp [split])⟩

theorem ne_of_bareKey {first special : Char} (bare : isBareKey first = true)
    (notBare : isBareKey special = false) : first ≠ special := by
  rintro rfl
  rw [bare] at notBare
  exact nomatch notBare

theorem simpleKey_bareName (bare : IsBareName name) {stop : Char}
    (ends : isBareKey stop = false) :
    simpleKey (name.toList ++ stop :: rest) = some (name, stop :: rest) := by
  have block : Reader.takeWhile1 isBareKey (name.toList ++ stop :: rest) =
      some (name.toList, stop :: rest) :=
    takeWhile1_block (by simpa using bare.1) (List.all_eq_true.mp bare.2) ends
  obtain ⟨first, others, split, isBare⟩ := bare.split
  have noMark : first ≠ '"' := ne_of_bareKey isBare rfl
  have noApostrophe : first ≠ '\'' := ne_of_bareKey isBare rfl
  have noBasic : basicString (name.toList ++ stop :: rest) = none := by
    simp [basicString, split, noMark]
  have noLiteral : literalString (name.toList ++ stop :: rest) = none := by
    simp [literalString, split, noApostrophe]
  simp [simpleKey, noBasic, noLiteral, block]

/-- A bare name is read as a key if nothing but blanks stands between it and a
character that neither belongs to a name nor joins two names. -/
theorem key_bareName (bare : IsBareName name) {stop next : Char} {others : List Char}
    (ends : isBareKey stop = false)
    (skips : blanks (stop :: rest) = some ((), next :: others)) (noDot : next ≠ '.') :
    key (name.toList ++ stop :: rest) = some (⟨[], name⟩, next :: others) := by
  obtain ⟨first, letters, split, isBare⟩ := bare.split
  have start : blanks (name.toList ++ stop :: rest) =
      some ((), name.toList ++ stop :: rest) := by
    rw [split]
    exact blanks_of_solid (isSolid_of_class isBareKey rfl isBare)
  simp [key, separated1, start, simpleKey_bareName bare ends, skips, noDot, longestKey, keyOfNames]

theorem lineRest_newline : lineRest ('\n' :: rest) = some ((), rest) := by
  simp [lineRest, lineEnd, newline, blanks, Reader.takeWhile, isBlank, comment]

theorem entryStatement_printEntry (bare : IsBareName name) {text : List Char}
    {content : Value} (denotes : Denotes text content) (rest : List Char) :
    entryStatement (printEntry name text ++ rest) =
      some (.entry ⟨[], name⟩ content, rest) := by
  obtain ⟨first, others, split, solid⟩ := denotes.solid
  have named : key (printEntry name text ++ rest) =
      some (⟨[], name⟩, '=' :: ' ' :: (text ++ '\n' :: rest)) := by
    have read : key (name.toList ++ ' ' :: '=' :: ' ' :: (text ++ '\n' :: rest)) =
        some (⟨[], name⟩, '=' :: ' ' :: (text ++ '\n' :: rest)) :=
      key_bareName bare rfl rfl (by decide)
    simpa [printEntry] using read
  have gap : blanks (' ' :: (text ++ '\n' :: rest)) = some ((), text ++ '\n' :: rest) := by
    simp [blanks, Reader.takeWhile, split, isBlank_of_solid solid, show isBlank ' ' = true from rfl]
  have ending : blanks ('\n' :: rest) = some ((), '\n' :: rest) := rfl
  simp [entryStatement, entry, named, gap, denotes.reads, ending, lineRest_newline]

theorem line_printEntry (bare : IsBareName name) {text : List Char} {content : Value}
    (denotes : Denotes text content) :
    line (printEntry name text ++ rest) = some (some (.entry ⟨[], name⟩ content), rest) := by
  have reads := entryStatement_printEntry bare denotes rest
  obtain ⟨first, others, split⟩ : ∃ first others,
      printEntry name text ++ rest = first :: others ∧ isBareKey first = true := by
    obtain ⟨first, others, split, isBare⟩ := bare.split
    exact ⟨first, _, by rw [printEntry, split]; rfl, isBare⟩
  have solid : isSolid first = true := isSolid_of_class isBareKey rfl split.2
  have noBracket : first ≠ '[' := ne_of_bareKey split.2 rfl
  rw [split.1] at reads ⊢
  simp [line, blanks_of_solid solid, newline_refuses solid, comment_refuses solid, itemHeader,
    header, noBracket, reads]

theorem line_newline : line ('\n' :: rest) = some (none, rest) := by
  simp [line, newline, blanks, Reader.takeWhile, isBlank]

theorem line_header (bare : IsBareName name) :
    line ('[' :: (name.toList ++ ']' :: '\n' :: rest)) =
      some (some (.header ⟨[], name⟩), rest) := by
  have named : key (name.toList ++ ']' :: '\n' :: rest) =
      some (⟨[], name⟩, ']' :: '\n' :: rest) :=
    key_bareName bare rfl rfl (by decide)
  have noItem : itemHeader ('[' :: (name.toList ++ ']' :: '\n' :: rest)) = none := by
    obtain ⟨first, others, split, isBare⟩ := bare.split
    have noBracket : first ≠ '[' := ne_of_bareKey isBare rfl
    simp [itemHeader, split, noBracket]
  have solid : isSolid '[' = true := rfl
  simp [line, blanks_of_solid solid, newline_refuses solid, comment_refuses solid, noItem, header,
    named, lineRest_newline]

end Lines

/-! ## Whole texts -/

/-- A text that is read as some lines, whatever lines follow. -/
def ReadsLines (text : List Char) (lines : List (Option Statement)) : Prop :=
  ∀ rest values last, Repeats line rest values last →
    Repeats line (text ++ rest) (lines ++ values) last

theorem ReadsLines.append {front back : List Char} {first second : List (Option Statement)}
    (reads : ReadsLines front first) (others : ReadsLines back second) :
    ReadsLines (front ++ back) (first ++ second) := by
  intro rest values last repeats
  rw [List.append_assoc, List.append_assoc]
  exact reads _ _ _ (others _ _ _ repeats)

theorem readsLines_newline : ReadsLines ['\n'] [none] := by
  intro rest values last repeats
  exact .next line_newline (by simp) repeats

theorem readsLines_printEntry {name : String} (bare : IsBareName name) {text : List Char}
    {content : Value} (denotes : Denotes text content) :
    ReadsLines (printEntry name text) [some (.entry ⟨[], name⟩ content)] := by
  intro rest values last repeats
  refine .next (line_printEntry bare denotes) ?_ repeats
  simp only [printEntry, List.length_append, List.length_cons]
  omega

theorem readsLines_printHeader {name : String} (bare : IsBareName name) :
    ReadsLines (printHeader name) [none, some (.header ⟨[], name⟩)] := by
  intro rest values last repeats
  have split : printHeader name ++ rest =
      '\n' :: '[' :: (name.toList ++ ']' :: '\n' :: rest) := by
    simp [printHeader]
  rw [split]
  refine .next line_newline (by simp) (.next (line_header bare) ?_ repeats)
  simp only [List.length_append, List.length_cons]
  omega

/-- The statements of a text are those of its lines. -/
theorem statements_of_readsLines {text : List Char} {lines : List (Option Statement)}
    (reads : ReadsLines text lines) (noMark : character '\ufeff' text = none) :
    statements (String.ofList text) = some (lines.filterMap id) := by
  have finished : Repeats line [] [] [] := .stop rfl
  have whole := (reads [] [] [] finished).many
  rw [List.append_nil, List.append_nil] at whole
  have ending : blanks [] = some ((), []) := rfl
  simp [statements, Reader.all, noMark, whole, ending]

end BiometricSession.Toml
