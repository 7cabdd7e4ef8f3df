import BiometricSession.Data.DecodeError
import BiometricSession.Proofs.Data.Lookup

/-!
# Well-formed data

What the two notations can write: some kinds of values belong to one notation
only, and no table names an entry twice.  Both are said of all parts of a value,
however deep they lie.
-/

namespace BiometricSession.Data

/-- A value is, or lies somewhere in, another one. -/
inductive Within : Data → Data → Prop where
  | self (data : Data) : Within data data
  | item {part item : Data} {items : List Data} :
      Within part item → item ∈ items → Within part (list items)
  | table {part item : Data} {items : List Data} :
      Within part item → item ∈ items → Within part (tables items)
  | entry {part data : Data} {name : String} {entries : List (String × Data)} :
      Within part data → (name, data) ∈ entries → Within part (table entries)

theorem Within.trans {part whole outer : Data} (inner : part.Within whole)
    (within : whole.Within outer) : part.Within outer := by
  induction within with
  | self => exact inner
  | item _ isMember ih => exact .item ih isMember
  | table _ isMember ih => exact .table ih isMember
  | entry _ isMember ih => exact .entry ih isMember

/-- Whether other values can lie in a value. -/
def isComposite : Data → Bool
  | list _ | tables _ | table _ => true
  | _ => false

/-- Whether a notation has values of that kind.  Nothing is written for null in
TOML; dates and tables under headers of their own are not known to JSON, and
there is a header for each table. -/
def Known (source : Notation) : Data → Prop
  | null => source = .json
  | moment => source = .toml
  | tables items =>
      source = .toml ∧ items ≠ [] ∧ ∀ item ∈ items, ∃ entries, item = table entries
  | _ => True

/-- All parts of a value are known to the notation. -/
def IsWritten (source : Notation) (data : Data) : Prop :=
  ∀ part : Data, part.Within data → part.Known source

/-- No table in a value names an entry twice. -/
def HasDistinctNames (data : Data) : Prop :=
  ∀ entries, (table entries).Within data → (entries.map Prod.fst).Nodup

variable {source : Notation} {part data : Data} {items : List Data}
  {entries : List (String × Data)}

theorem within_simple_iff (simple : data.isComposite = false) :
    part.Within data ↔ part = data := by
  constructor
  · rintro (_ | _ | _ | _)
    · rfl
    all_goals cases simple
  · rintro rfl
    exact .self part

theorem within_list_iff :
    part.Within (list items) ↔ part = list items ∨ ∃ item ∈ items, part.Within item := by
  constructor
  · rintro (_ | ⟨inside, isMember⟩)
    · exact .inl rfl
    · exact .inr ⟨_, isMember, inside⟩
  · rintro (rfl | ⟨item, isMember, inside⟩)
    · exact .self _
    · exact .item inside isMember

theorem within_tables_iff :
    part.Within (tables items) ↔ part = tables items ∨ ∃ item ∈ items, part.Within item := by
  constructor
  · rintro (_ | _ | ⟨inside, isMember⟩)
    · exact .inl rfl
    · exact .inr ⟨_, isMember, inside⟩
  · rintro (rfl | ⟨item, isMember, inside⟩)
    · exact .self _
    · exact .table inside isMember

theorem within_table_iff :
    part.Within (table entries) ↔
      part = table entries ∨ ∃ entry ∈ entries, part.Within entry.2 := by
  constructor
  · rintro (_ | _ | _ | ⟨inside, isMember⟩)
    · exact .inl rfl
    · exact .inr ⟨_, isMember, inside⟩
  · rintro (rfl | ⟨⟨name, data⟩, isMember, inside⟩)
    · exact .self _
    · exact .entry inside isMember

theorem within_of_lookup {name : String} (given : entries.lookup name = some data) :
    data.Within (table entries) :=
  .entry (.self data) (Entries.mem_of_lookup given)

/-! ## Parts of well-formed values -/

theorem IsWritten.known (written : data.IsWritten source) : data.Known source :=
  written data (.self data)

theorem IsWritten.within (written : data.IsWritten source) (inside : part.Within data) :
    part.IsWritten source :=
  fun inner isInner => written inner (isInner.trans inside)

theorem IsWritten.known_of_lookup (written : (table entries).IsWritten source) {name : String}
    (given : entries.lookup name = some data) : data.Known source :=
  (written.within (within_of_lookup given)).known

theorem HasDistinctNames.within (distinct : data.HasDistinctNames) (inside : part.Within data) :
    part.HasDistinctNames :=
  fun entries isInner => distinct entries (isInner.trans inside)

theorem HasDistinctNames.names (distinct : (table entries).HasDistinctNames) :
    (entries.map Prod.fst).Nodup :=
  distinct entries (.self _)

theorem isWritten_simple_iff (simple : data.isComposite = false) :
    data.IsWritten source ↔ data.Known source := by
  simp [IsWritten, within_simple_iff simple]

@[simp]
theorem isWritten_null_iff : null.IsWritten source ↔ source = .json :=
  isWritten_simple_iff rfl

@[simp]
theorem isWritten_bool (value : Bool) : (bool value).IsWritten source :=
  (isWritten_simple_iff rfl).mpr trivial

@[simp]
theorem isWritten_integer (value : Int) : (integer value).IsWritten source :=
  (isWritten_simple_iff rfl).mpr trivial

@[simp]
theorem isWritten_text (value : String) : (text value).IsWritten source :=
  (isWritten_simple_iff rfl).mpr trivial

@[simp]
theorem isWritten_list_iff :
    (list items).IsWritten source ↔ ∀ item ∈ items, item.IsWritten source := by
  simp only [IsWritten, within_list_iff]
  constructor
  · intro written item isMember part inside
    exact written part (.inr ⟨item, isMember, inside⟩)
  · rintro each part (rfl | ⟨item, isMember, inside⟩)
    · trivial
    · exact each item isMember part inside

@[simp]
theorem isWritten_tables_iff :
    (tables items).IsWritten source ↔
      (tables items).Known source ∧ ∀ item ∈ items, item.IsWritten source := by
  simp only [IsWritten, within_tables_iff]
  constructor
  · intro written
    exact ⟨written _ (.inl rfl), fun item isMember part inside =>
      written part (.inr ⟨item, isMember, inside⟩)⟩
  · rintro ⟨known, each⟩ part (rfl | ⟨item, isMember, inside⟩)
    · exact known
    · exact each item isMember part inside

@[simp]
theorem isWritten_table_iff :
    (table entries).IsWritten source ↔ ∀ entry ∈ entries, entry.2.IsWritten source := by
  simp only [IsWritten, within_table_iff]
  constructor
  · intro written entry isMember part inside
    exact written part (.inr ⟨entry, isMember, inside⟩)
  · rintro each part (rfl | ⟨entry, isMember, inside⟩)
    · trivial
    · exact each entry isMember part inside

theorem hasDistinctNames_of_simple (simple : data.isComposite = false) :
    data.HasDistinctNames := by
  intro entries inside
  rw [← (within_simple_iff simple).mp inside] at simple
  cases simple

@[simp]
theorem hasDistinctNames_bool (value : Bool) : (bool value).HasDistinctNames :=
  hasDistinctNames_of_simple rfl

@[simp]
theorem hasDistinctNames_integer (value : Int) : (integer value).HasDistinctNames :=
  hasDistinctNames_of_simple rfl

@[simp]
theorem hasDistinctNames_text (value : String) : (text value).HasDistinctNames :=
  hasDistinctNames_of_simple rfl

@[simp]
theorem hasDistinctNames_tables_iff :
    (tables items).HasDistinctNames ↔ ∀ item ∈ items, item.HasDistinctNames := by
  simp only [HasDistinctNames, within_tables_iff]
  constructor
  · intro distinct item isMember entries inside
    exact distinct entries (.inr ⟨item, isMember, inside⟩)
  · rintro each entries (same | ⟨item, isMember, inside⟩)
    · cases same
    · exact each item isMember entries inside

@[simp]
theorem hasDistinctNames_table_iff :
    (table entries).HasDistinctNames ↔
      (entries.map Prod.fst).Nodup ∧ ∀ entry ∈ entries, entry.2.HasDistinctNames := by
  constructor
  · intro distinct
    exact ⟨distinct.names, fun entry isMember => distinct.within (.entry (.self _) isMember)⟩
  · rintro ⟨names, each⟩ inner inside
    rcases within_table_iff.mp inside with same | ⟨entry, isMember, inside⟩
    · exact Data.table.inj same ▸ names
    · exact each entry isMember inner inside

end BiometricSession.Data
