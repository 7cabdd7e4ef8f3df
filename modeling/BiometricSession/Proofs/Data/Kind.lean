import BiometricSession.Proofs.Data.Exact

/-!
# Kinds of values

What is expected of an object is said field by field: the name, what kind its
value is of, and what stands in for it where it is left out.  A record that is
put together from decoders for those kinds takes the objects that meet the
expectations, and no others, and is written again as the object with just the
expected fields.
-/

namespace BiometricSession

/-- What is expected of a value, and how it is written again after it was
read. -/
structure Kind where
  Fits : Data → Prop
  restated : Data → Data

/-- An expected field of an object. -/
structure Field where
  name : String
  kind : Kind
  /-- Stands in for the value if the field is left out.  Without it the field is
  required. -/
  fallback : Option Data

namespace Field

/-- The field is as expected: of the right kind, or left out and not required. -/
def FitsIn (entries : List (String × Data)) (field : Field) : Prop :=
  match entries.lookup field.name with
  | some data => field.kind.Fits data
  | none => field.fallback.isSome

/-- The field as it is written again: with the value that was given, or with the
one that stands in for it. -/
def restated (entries : List (String × Data)) (field : Field) : String × Data :=
  (field.name,
    match entries.lookup field.name with
    | some data => field.kind.restated data
    | none => field.fallback.getD .null)

end Field

namespace Kind

/-- A value that is written again as it was. -/
def plain (Fits : Data → Prop) : Kind :=
  ⟨Fits, id⟩

/-- A whole number within bounds. -/
def integer (least greatest : Int) : Kind :=
  plain fun data => ∃ value, data = .integer value ∧ least ≤ value ∧ value ≤ greatest

def bool : Kind :=
  plain fun data => ∃ value, data = .bool value

def text : Kind :=
  plain fun data => ∃ value, data = .text value

/-- One of the given names. -/
def oneOf (names : List String) : Kind :=
  plain fun data => ∃ name ∈ names, data = .text name

def int32 : Kind :=
  integer (-2147483648) 2147483647

def uint32 : Kind :=
  integer 0 4294967295

def uint64 : Kind :=
  integer 0 18446744073709551615

/-- A list of codes. -/
def codes : Kind :=
  plain fun data => ∃ items, data = .list items ∧ ∀ item ∈ items, int32.Fits item

/-- An object with the given fields, and whatever others. -/
def object (fields : List Field) : Kind where
  Fits data := ∃ entries, data = .table entries ∧ ∀ field ∈ fields, field.FitsIn entries
  restated
    | .table entries => .table (fields.map (Field.restated entries))
    | other => other

end Kind

/-! ## Decoders for kinds -/

/-- From the data a value is decoded just if it is of the kind, and the value is
encoded as the kind restates the data. -/
structure Decoder.Takes {α : Type} (decoder : Decoder α) (encode : α → Data) (kind : Kind)
    (source : Notation) (data : Data) : Prop where
  decodes_iff : (∃ value, decoder source data = .ok value) ↔ kind.Fits data
  restates : ∀ value, decoder source data = .ok value → encode value = kind.restated data

namespace Decoder

variable {α : Type} {source : Notation} {data : Data}

/-- Numbers of any type, decoded from their encoding alone. -/
theorem takes_integer {least greatest : Int} {convert : Int → α} {expected : String}
    {encode : α → Data}
    (exactly : ∀ value,
      map convert (integer least greatest expected) source data = .ok value ↔
        data = encode value) :
    (map convert (integer least greatest expected)).Takes encode (.integer least greatest)
      source data where
  decodes_iff := by
    constructor
    · rintro ⟨value, decoded⟩
      obtain ⟨plain, isPlain, -⟩ := map_ok_iff.mp decoded
      exact ⟨plain, integer_ok_iff.mp isPlain⟩
    · rintro ⟨plain, isPlain⟩
      exact ⟨convert plain, map_ok_iff.mpr ⟨plain, integer_ok_iff.mpr isPlain, rfl⟩⟩
  restates value decoded := ((exactly value).mp decoded).symm

theorem takes_int32 : int32.Takes .int32 .int32 source data :=
  takes_integer fun _ => int32_ok_iff

theorem takes_uint32 : uint32.Takes .uint32 .uint32 source data :=
  takes_integer fun _ => uint32_ok_iff

theorem takes_uint64 : uint64.Takes .uint64 .uint64 source data :=
  takes_integer fun _ => uint64_ok_iff

theorem takes_bool : bool.Takes .bool .bool source data where
  decodes_iff := exists_congr fun _ => bool_ok_iff
  restates _ decoded := (bool_ok_iff.mp decoded).symm

theorem takes_text : text.Takes .text .text source data where
  decodes_iff := exists_congr fun _ => text_ok_iff
  restates _ decoded := (text_ok_iff.mp decoded).symm

theorem exists_forall₂_iff {β : Type} {Related : α → β → Prop} {items : List α} :
    (∃ values, List.Forall₂ Related items values) ↔
      ∀ item ∈ items, ∃ value, Related item value := by
  induction items with
  | nil => simp
  | cons item items ih =>
      simp only [List.forall₂_cons_left_iff, List.forall_mem_cons, ← ih]
      constructor
      · rintro ⟨_, value, values, first, rest, -⟩
        exact ⟨⟨value, first⟩, values, rest⟩
      · rintro ⟨⟨value, first⟩, values, rest⟩
        exact ⟨_, value, values, first, rest, rfl⟩

/-- In JSON, lists are taken whose items are. -/
theorem takes_codes (known : data.Known .json) :
    (list int32).Takes (fun codes => .list (codes.map .int32)) .codes .json data where
  decodes_iff := by
    have items (items : List Data) :
        (∃ codes, List.Forall₂ (fun item code => int32 .json item = .ok code) items codes) ↔
          ∀ item ∈ items, Kind.int32.Fits item := by
      simp only [exists_forall₂_iff, takes_int32.decodes_iff]
    constructor
    · rintro ⟨codes, decoded⟩
      obtain ⟨given, rfl | rfl, each⟩ := list_ok_iff.mp decoded
      · exact ⟨given, rfl, (items given).mp ⟨codes, each⟩⟩
      · cases known.1
    · rintro ⟨given, rfl, fit⟩
      obtain ⟨codes, each⟩ := (items given).mpr fit
      exact ⟨codes, list_ok_iff.mpr ⟨given, .inl rfl, each⟩⟩
  restates codes decoded := ((isExact_codes data known codes).mp decoded).symm

end Decoder

/-! ## Records for objects -/

namespace RecordDecoder

variable {α β : Type} {source : Notation} {entries : List (String × Data)}
  {fields others : List Field}

/-- A record is built just if each of the fields is as expected, and then has a
certain property. -/
structure Takes (record : RecordDecoder α) (source : Notation) (entries : List (String × Data))
    (fields : List Field) (Meets : α → Prop) : Prop where
  thorough : record.Thorough
  builds_iff : (∃ value, record.build source (namedFields entries) = .ok value) ↔
    ∀ field ∈ fields, field.FitsIn entries
  meets : ∀ value, record.build source (namedFields entries) = .ok value → Meets value

theorem takes_pure {value : α} {Meets : α → Prop} (meets : Meets value) :
    Takes (pure value) source entries [] Meets where
  thorough := thorough_pure value
  builds_iff := iff_of_true ⟨value, rfl⟩ (by simp)
  meets other built := by
    obtain rfl := Except.ok.inj built
    exact meets

theorem Takes.seq {first : RecordDecoder (α → β)} {second : RecordDecoder α}
    {Expected : α → Prop} {Meets : β → Prop}
    (function : Takes first source entries fields fun convert =>
      ∀ part, Expected part → Meets (convert part))
    (argument : Takes second source entries others Expected) :
    Takes (first <*> second) source entries (fields ++ others) Meets where
  thorough := function.thorough.seq argument.thorough
  builds_iff := by
    simp only [List.forall_mem_append, ← function.builds_iff, ← argument.builds_iff]
    constructor
    · rintro ⟨value, built⟩
      obtain ⟨convert, part, isConvert, isPart, -⟩ := build_seq_ok_iff.mp built
      exact ⟨⟨convert, isConvert⟩, part, isPart⟩
    · rintro ⟨⟨convert, isConvert⟩, part, isPart⟩
      exact ⟨convert part, build_seq_ok_iff.mpr ⟨convert, part, isConvert, isPart, rfl⟩⟩
  meets value built := by
    obtain ⟨convert, part, isConvert, isPart, rfl⟩ := build_seq_ok_iff.mp built
    exact function.meets convert isConvert part (argument.meets part isPart)

theorem Takes.map {record : RecordDecoder α} {convert : α → β} {Expected : α → Prop}
    {Meets : β → Prop} (takes : Takes record source entries fields Expected)
    (meets : ∀ part, Expected part → Meets (convert part)) :
    Takes (convert <$> record) source entries fields Meets :=
  (takes_pure meets).seq takes

variable {name : String} {decoder : Decoder α} {encode : α → Data} {kind : Kind}

theorem takes_required
    (takes : ∀ data, entries.lookup name = some data → decoder.Takes encode kind source data) :
    Takes (required name decoder) source entries [⟨name, kind, none⟩] fun value =>
      (name, encode value) = Field.restated entries ⟨name, kind, none⟩ where
  thorough := thorough_required name decoder
  builds_iff := by
    simp only [build_required_ok_iff, List.forall_mem_singleton, Field.FitsIn]
    cases given : entries.lookup name with
    | none => simp
    | some data => simpa using (takes data given).decodes_iff
  meets value built := by
    obtain ⟨data, given, decoded⟩ := build_required_ok_iff.mp built
    simp [Field.restated, given, (takes data given).restates value decoded]

theorem takes_withDefault {default : α}
    (takes : ∀ data, entries.lookup name = some data → decoder.Takes encode kind source data) :
    Takes (withDefault name decoder default) source entries
      [⟨name, kind, some (encode default)⟩] fun value =>
        (name, encode value) = Field.restated entries ⟨name, kind, some (encode default)⟩ where
  thorough := thorough_withDefault name decoder default
  builds_iff := by
    simp only [build_withDefault_ok_iff, List.forall_mem_singleton, Field.FitsIn]
    cases given : entries.lookup name with
    | none => simp
    | some data => simpa using (takes data given).decodes_iff
  meets value built := by
    rcases build_withDefault_ok_iff.mp built with ⟨data, given, decoded⟩ | ⟨absent, rfl⟩
    · simp [Field.restated, given, (takes data given).restates value decoded]
    · simp [Field.restated, absent]

/-- What is built of the fields of an object is decoded from the object. -/
theorem Takes.object {record : RecordDecoder α}
    (takes : Takes record source entries fields fun value =>
      encode value = .table (fields.map (Field.restated entries)))
    (distinct : (entries.map Prod.fst).Nodup) (title : String) :
    (record.decoder title).Takes encode (.object fields) source (.table entries) where
  decodes_iff := by
    change (∃ value, record.ofFields source (namedFields entries) = .ok value) ↔ _
    simp only [takes.thorough.ofFields_ok_iff distinct, takes.builds_iff]
    constructor
    · intro fit
      exact ⟨entries, rfl, fit⟩
    · rintro ⟨given, same, fit⟩
      obtain rfl := Data.table.inj same
      exact fit
  restates value decoded :=
    takes.meets value ((takes.thorough.ofFields_ok_iff distinct).mp decoded)

end RecordDecoder

end BiometricSession
