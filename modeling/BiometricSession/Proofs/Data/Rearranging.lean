import BiometricSession.Proofs.Data.Tree
import Mathlib.Logic.Relation

/-!
# Data that is read alike

A table may be written in any order, and with entries that nobody asks for.  An
outline says which names are declared where; one step of rearranging then
permutes a table, or puts in one entry of an undeclared name, anywhere in a value
where the outline allows it.  Decoders that go by an outline read the same from
whatever values such steps link, in either direction.
-/

namespace BiometricSession

/-- Which names are declared where in a value. -/
inductive Outline where
  /-- A value that is taken as it is. -/
  | value
  /-- A table with the declared names. -/
  | record (fields : List (String × Outline))
  /-- A list whose items have an outline. -/
  | list (item : Outline)
  /-- A table that names its kind under a tag, and has the names that are declared
  for that kind. -/
  | tagged (tag : String) (kinds : List (String × List String))

namespace Outline

/-- A table whose declared values are taken as they are. -/
def plain (names : List String) : Outline :=
  record (names.map (·, value))

/-- The outline of the value under a name. -/
def under (name : String) : Outline → Outline
  | record fields => (fields.lookup name).getD value
  | _ => value

/-- The outline of each item of a list.  A record that is written as a list of
its fields has no names, and so nothing in it is moved. -/
def item? : Outline → Option Outline
  | value => some value
  | list item => some item
  | record _ | tagged _ _ => none

/-- The name is not declared, so that a table may have an entry of that name or
not.  What is declared can depend on the kind that the table names. -/
def Ignores (entries : List (String × Data)) (name : String) : Outline → Prop
  | record fields => fields.lookup name = none
  | tagged tag kinds =>
      name ≠ tag ∧ ∀ kind names, entries.lookup tag = some (.text kind) →
        kinds.lookup kind = some names → name ∉ names
  | value | list _ => False

end Outline

namespace Data

/-- One step of rearranging a value of some outline. -/
inductive Rearranges : Outline → Data → Data → Prop where
  | order {outline : Outline} {entries others : List (String × Data)} :
      entries.Perm others → Rearranges outline (table entries) (table others)
  | addition {outline : Outline} (front back : List (String × Data)) {name : String}
      (data : Data) : outline.Ignores (front ++ back) name →
        Rearranges outline (table (front ++ back)) (table (front ++ (name, data) :: back))
  | entry {outline : Outline} (front back : List (String × Data)) {name : String}
      {data other : Data} : Rearranges (outline.under name) data other →
        Rearranges outline (table (front ++ (name, data) :: back))
          (table (front ++ (name, other) :: back))
  | item {outline part : Outline} (front back : List Data) {data other : Data} :
      outline.item? = some part → Rearranges part data other →
        Rearranges outline (list (front ++ data :: back)) (list (front ++ other :: back))
  | tableItem {outline part : Outline} (front back : List Data) {data other : Data} :
      outline.item? = some part → Rearranges part data other →
        Rearranges outline (tables (front ++ data :: back)) (tables (front ++ other :: back))

/-- A step between values in which no table names an entry twice. -/
structure Links (outline : Outline) (data other : Data) : Prop where
  step : Rearranges outline data other
  distinct : data.HasDistinctNames
  distinct_other : other.HasDistinctNames

/-- Values that are linked by steps of rearranging, each taken forwards or
backwards. -/
def ReadsAlike (outline : Outline) : Data → Data → Prop :=
  Relation.EqvGen (Links outline)

/-- Only what has parts can be rearranged, and has parts again. -/
theorem Rearranges.isComposite {outline : Outline} {data other : Data}
    (step : Rearranges outline data other) :
    data.isComposite = true ∧ other.isComposite = true := by
  cases step <;> exact ⟨rfl, rfl⟩

/-! ## What is found under a name -/

/-- What is found is the same, or is one step away. -/
def Kept (outline : Outline) (found other : Option Data) : Prop :=
  found = other ∨ ∃ data changed, found = some data ∧ other = some changed ∧
    Links outline data changed

/-- A value without parts is found before a step if and only if after it. -/
theorem Kept.eq_some_iff {outline : Outline} {found other : Option Data}
    (kept : Kept outline found other) {data : Data} (simple : data.isComposite = false) :
    found = some data ↔ other = some data := by
  rcases kept with rfl | ⟨given, changed, rfl, rfl, link⟩
  · exact Iff.rfl
  · obtain ⟨before, after⟩ := link.step.isComposite
    apply iff_of_false
    · intro same
      rw [Option.some.inj same, simple] at before
      cases before
    · intro same
      rw [Option.some.inj same, simple] at after
      cases after

/-- A step in a table leaves what is found under each declared name, or takes a
step there. -/
theorem Links.lookup {outline : Outline} {entries others : List (String × Data)}
    (link : Links outline (table entries) (table others)) {name : String}
    (declared : ¬ outline.Ignores entries name) :
    Kept (outline.under name) (entries.lookup name) (others.lookup name) := by
  obtain ⟨step, distinct, distinctOther⟩ := link
  cases step with
  | order permuted => exact .inl (Entries.lookup_perm permuted distinct.names name)
  | addition front back data ignored =>
      refine .inl (Entries.lookup_append_cons_ne ?_ data).symm
      rintro rfl
      exact declared ignored
  | @entry _ front back changed data other step =>
      by_cases same : name = changed
      · subst same
        have found : (name, data) ∈ front ++ (name, data) :: back := by simp
        have foundOther : (name, other) ∈ front ++ (name, other) :: back := by simp
        exact .inr ⟨data, other, Entries.lookup_of_mem distinct.names found,
          Entries.lookup_of_mem distinctOther.names foundOther, step,
          distinct.within (.entry (.self data) found),
          distinctOther.within (.entry (.self other) foundOther)⟩
      · left
        rw [Entries.lookup_append_cons_ne same, Entries.lookup_append_cons_ne same]

end Data

end BiometricSession
