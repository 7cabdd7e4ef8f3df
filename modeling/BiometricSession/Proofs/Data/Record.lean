import BiometricSession.Proofs.Data.Decoder
import BiometricSession.Proofs.Data.Lookup

/-!
# Decoding records

What the entries of a table must be so that a record is decoded from them.  The
facts are put together as the record decoder is: from those of its fields.  The
table may hold its entries in any order and other entries besides.
-/

namespace BiometricSession.RecordDecoder

variable {α β : Type} {source : Notation} {entries : List (String × Data)}

/-- All entries of declared fields are good, and the record made of them is
known, whether they were given by name or by position. -/
structure Accepts (record : RecordDecoder α) (source : Notation)
    (entries : List (String × Data)) (value : α) : Prop where
  passes : ∀ name test, (name, test) ∈ record.declared →
    ∀ data, entries.lookup name = some data → test source data = .ok ()
  builds : ∀ fields : Fields, fields.entries = entries → record.build source fields = .ok value

theorem accepts_pure (value : α) :
    Accepts (pure value : RecordDecoder α) source entries value where
  passes _ _ isMember := by
    exact nomatch isMember
  builds _ _ := rfl

theorem Accepts.seq {first : RecordDecoder (α → β)} {second : RecordDecoder α}
    {convert : α → β} {value : α} (function : Accepts first source entries convert)
    (argument : Accepts second source entries value) :
    Accepts (first <*> second) source entries (convert value) where
  passes name test isMember := by
    rcases List.mem_append.mp isMember with inFirst | inSecond
    · exact function.passes name test inFirst
    · exact argument.passes name test inSecond
  builds fields same := by
    change (first.build source fields >>= fun convert =>
      second.build source fields >>= fun value => pure (convert value)) = _
    rw [function.builds fields same, argument.builds fields same]
    rfl

theorem Accepts.map {record : RecordDecoder α} {value : α}
    (accepts : Accepts record source entries value) (convert : α → β) :
    Accepts (convert <$> record) source entries (convert value) :=
  (accepts_pure convert).seq accepts

theorem accepts_required {name : String} {decoder : Decoder α} {data : Data} {value : α}
    (given : entries.lookup name = some data) (decodes : decoder source data = .ok value) :
    Accepts (.required name decoder) source entries value where
  passes found test isMember other isGiven := by
    obtain ⟨rfl, rfl⟩ := Prod.mk.inj (List.mem_singleton.mp isMember)
    obtain rfl := Option.some.inj (given.symm.trans isGiven)
    simp [decodes, Except.map]
  builds fields same := by
    simp [required, same, given, decodes]

theorem accepts_withDefault {name : String} {decoder : Decoder α} {data : Data} {value : α}
    (given : entries.lookup name = some data) (decodes : decoder source data = .ok value)
    (default : α) :
    Accepts (.withDefault name decoder default) source entries value where
  passes found test isMember other isGiven := by
    obtain ⟨rfl, rfl⟩ := Prod.mk.inj (List.mem_singleton.mp isMember)
    obtain rfl := Option.some.inj (given.symm.trans isGiven)
    simp [decodes, Except.map]
  builds fields same := by
    simp [withDefault, same, given, decodes]

/-- Entries without repeated names pass the tests of a record if each declared
value passes its own. -/
theorem test_ok {record : RecordDecoder α}
    (passes : ∀ name test, (name, test) ∈ record.declared →
      ∀ data, entries.lookup name = some data → test source data = .ok ())
    (written : List (String × Data))
    (found : ∀ name data, (name, data) ∈ written → entries.lookup name = some data) :
    record.test source written = .ok () := by
  induction written with
  | nil => rfl
  | cons entry written ih =>
      obtain ⟨name, data⟩ := entry
      have others := ih fun name data isMember => found name data (List.mem_cons_of_mem _ isMember)
      cases declared : record.declared.lookup name with
      | none => simp [test, declared, others]
      | some check =>
          have passed := passes name check (Entries.mem_of_lookup declared) data
            (found name data (by simp))
          simp only [test, declared, passed, others]
          rfl

/-- A table without repeated names is decoded as the record that its entries
make. -/
theorem Accepts.decoder_table {record : RecordDecoder α} {value : α}
    (accepts : Accepts record source entries value) (distinct : (entries.map Prod.fst).Nodup)
    (title : String) :
    record.decoder title source (.table entries) = .ok value := by
  have passed := test_ok accepts.passes entries fun _ _ => Entries.lookup_of_mem distinct
  change (record.test source entries >>= fun _ =>
    record.build source (namedFields entries)) = _
  rw [passed, accepts.builds (namedFields entries) rfl]
  rfl

/-! ## Decoding is building

A record looks at its entries twice: once in the order in which they were
written, to report the first bad value, and once by name, to put the record
together.  For whether there is a record, and which, the second look is enough.
-/

section Build

variable {fields : Fields} {name : String} {decoder : Decoder α} {value : α}

theorem build_seq_ok_iff {first : RecordDecoder (α → β)} {second : RecordDecoder α} {value : β} :
    (first <*> second).build source fields = .ok value ↔
      ∃ convert part, first.build source fields = .ok convert ∧
        second.build source fields = .ok part ∧ convert part = value := by
  change (first.build source fields >>= fun convert =>
    second.build source fields >>= fun part => pure (convert part)) = _ ↔ _
  cases first.build source fields <;> cases second.build source fields <;>
    simp [bind, Except.bind, pure, Except.pure]

theorem build_map_ok_iff {record : RecordDecoder α} {convert : α → β} {value : β} :
    (convert <$> record).build source fields = .ok value ↔
      ∃ part, record.build source fields = .ok part ∧ convert part = value := by
  change (pure convert <*> record).build source fields = .ok value ↔ _
  rw [build_seq_ok_iff]
  constructor
  · rintro ⟨_, part, same, isPart, rfl⟩
    obtain rfl := Except.ok.inj same
    exact ⟨part, isPart, rfl⟩
  · rintro ⟨part, isPart, rfl⟩
    exact ⟨convert, part, rfl, isPart, rfl⟩

theorem build_required_ok_iff :
    (required name decoder).build source (namedFields entries) = .ok value ↔
      ∃ data, entries.lookup name = some data ∧ decoder source data = .ok value := by
  simp only [required, namedFields]
  cases entries.lookup name <;> simp

theorem build_withDefault_ok_iff {default : α} :
    (withDefault name decoder default).build source (namedFields entries) = .ok value ↔
      (∃ data, entries.lookup name = some data ∧ decoder source data = .ok value) ∨
        entries.lookup name = none ∧ default = value := by
  simp only [withDefault, namedFields]
  cases entries.lookup name <;> simp

theorem build_optional_ok_iff {value : Option α} :
    (optional name decoder).build source (namedFields entries) = .ok value ↔
      (∃ data, entries.lookup name = some data ∧ decoder.nullable source data = .ok value) ∨
        entries.lookup name = none ∧ value = none := by
  simp only [optional, namedFields]
  cases entries.lookup name <;> simp [eq_comm]

end Build

/-- Every value that is tested has been decoded when the record is built. -/
def Thorough (record : RecordDecoder α) : Prop :=
  ∀ source entries value, record.build source (namedFields entries) = .ok value →
    ∀ name test, (name, test) ∈ record.declared →
      ∀ data, entries.lookup name = some data → test source data = .ok ()

theorem thorough_pure (value : α) : Thorough (pure value : RecordDecoder α) := by
  intro source entries _ _ name test isMember
  exact nomatch isMember

theorem Thorough.seq {first : RecordDecoder (α → β)} {second : RecordDecoder α}
    (function : first.Thorough) (argument : second.Thorough) : (first <*> second).Thorough := by
  intro source entries value built name test isMember
  obtain ⟨convert, part, isConvert, isPart, -⟩ := build_seq_ok_iff.mp built
  rcases List.mem_append.mp isMember with inFirst | inSecond
  · exact function source entries convert isConvert name test inFirst
  · exact argument source entries part isPart name test inSecond

theorem Thorough.map {record : RecordDecoder α} (thorough : record.Thorough)
    (convert : α → β) : (convert <$> record).Thorough :=
  (thorough_pure convert).seq thorough

/-- A record of one field is thorough if the field, where it is given, is decoded
when the record is built. -/
theorem thorough_of_decodes {name : String} {decoder : Decoder β}
    {build : Notation → Fields → Except DecodeError α}
    (decodes : ∀ source entries value data, build source (namedFields entries) = .ok value →
      entries.lookup name = some data → ∃ part, decoder source data = .ok part) :
    Thorough ⟨[(name, fun source data => (decoder source data).map fun _ => ())], build⟩ := by
  intro source entries value built found test isMember data isGiven
  obtain ⟨rfl, rfl⟩ := Prod.mk.inj (List.mem_singleton.mp isMember)
  obtain ⟨part, decoded⟩ := decodes source entries value data built isGiven
  simp [decoded, Except.map]

theorem thorough_required (name : String) (decoder : Decoder α) :
    (required name decoder).Thorough := by
  refine thorough_of_decodes fun source entries value data built isGiven => ?_
  obtain ⟨given, present, decoded⟩ := build_required_ok_iff.mp built
  exact ⟨value, Option.some.inj (present.symm.trans isGiven) ▸ decoded⟩

theorem thorough_withDefault (name : String) (decoder : Decoder α) (default : α) :
    (withDefault name decoder default).Thorough := by
  refine thorough_of_decodes fun source entries value data built isGiven => ?_
  rcases build_withDefault_ok_iff.mp built with ⟨given, present, decoded⟩ | ⟨absent, -⟩
  · exact ⟨value, Option.some.inj (present.symm.trans isGiven) ▸ decoded⟩
  · cases absent.symm.trans isGiven

theorem thorough_optional (name : String) (decoder : Decoder α) :
    (optional name decoder).Thorough := by
  refine thorough_of_decodes fun source entries value data built isGiven => ?_
  rcases build_optional_ok_iff.mp built with ⟨given, present, decoded⟩ | ⟨absent, -⟩
  · exact ⟨value, Option.some.inj (present.symm.trans isGiven) ▸ decoded⟩
  · cases absent.symm.trans isGiven

/-- From entries without repeated names is decoded what is built from them, and
something is decoded at all if something is built. -/
theorem Thorough.ofFields_ok_iff {record : RecordDecoder α} (thorough : record.Thorough)
    (distinct : (entries.map Prod.fst).Nodup) {value : α} :
    record.ofFields source (namedFields entries) = .ok value ↔
      record.build source (namedFields entries) = .ok value := by
  change (record.test source entries >>= fun _ =>
    record.build source (namedFields entries)) = _ ↔ _
  constructor
  · intro decoded
    cases tested : record.test source entries with
    | error =>
        rw [tested] at decoded
        cases decoded
    | ok =>
        rw [tested] at decoded
        exact decoded
  · intro built
    rw [test_ok (thorough source entries value built) entries fun _ _ =>
      Entries.lookup_of_mem distinct]
    exact built

/-- A tagged table is decoded as the kind of record that its tag names, from all
entries but the tag. -/
theorem tagged_ok_iff {title tagName : String}
    {variants : List (String × String × RecordDecoder α)} {value : α} :
    tagged title tagName variants source (.table entries) = .ok value ↔
      ∃ kind variantTitle record, entries.lookup tagName = some (.text kind) ∧
        variants.lookup kind = some (variantTitle, record) ∧
        record.ofFields source (namedFields (entries.filter (·.1 != tagName))) = .ok value := by
  rw [tagged]
  cases entries.lookup tagName with
  | none => simp
  | some data =>
      cases data with
      | text kind =>
          change (Decoder.named variants kind >>= _) = _ ↔ _
          rcases chosen : variants.lookup kind with _ | ⟨variantTitle, record⟩ <;>
            simp [Decoder.named, chosen, bind, Except.bind]
      | _ => simp [tag, bind, Except.bind]

end BiometricSession.RecordDecoder
