import BiometricSession.Proofs.Data.Record
import BiometricSession.Proofs.Data.Tree

/-!
# Fields that hold just what was encoded

Decoders of numbers, names and lists take a value from its encoding and from
nothing else that its notation has.  So a field of a record says what the value
is: the one whose encoding stands under the name, or the one that stands in where
nothing does.
-/

namespace BiometricSession

variable {α : Type} {source : Notation}

namespace Decoder

/-- Of all data in the notation, just the encoding of a value is decoded as
it. -/
def IsExact (decoder : Decoder α) (encode : α → Data) (source : Notation) : Prop :=
  ∀ data : Data, data.Known source →
    ∀ value, decoder source data = .ok value ↔ data = encode value

theorem isExact_int32 : int32.IsExact .int32 source :=
  fun _ _ _ => int32_ok_iff

theorem isExact_uint64 : uint64.IsExact .uint64 source :=
  fun _ _ _ => uint64_ok_iff

theorem isExact_bool : bool.IsExact .bool source :=
  fun _ _ _ => bool_ok_iff

/-- A list of values without parts is no list of tables under headers, not even
if it is empty. -/
theorem isExact_list {decoder : Decoder α} {encode : α → Data}
    (exactly : ∀ data value, decoder source data = .ok value ↔ data = encode value)
    (simple : ∀ value, (encode value).isComposite = false) :
    (list decoder).IsExact (fun values => .list (values.map encode)) source := by
  intro data known values
  rw [list_ok_iff_map exactly]
  refine or_iff_left ?_
  rintro rfl
  obtain ⟨-, nonempty, tables⟩ := known
  cases values with
  | nil => exact nonempty rfl
  | cons value values =>
      obtain ⟨entries, isTable⟩ := tables (encode value) (by simp)
      have simple := simple value
      rw [isTable] at simple
      cases simple

theorem isExact_codes : (list int32).IsExact (fun codes => .list (codes.map .int32)) source :=
  isExact_list (fun _ _ => int32_ok_iff) fun _ => rfl

theorem isExact_bytes : (list uint8).IsExact (fun bytes => .list (bytes.map .uint8)) source :=
  isExact_list (fun _ _ => uint8_ok_iff) fun _ => rfl

end Decoder

namespace RecordDecoder

variable {entries : List (String × Data)} {name : String} {decoder : Decoder α}
  {encode : α → Data}

theorem build_required_exact_iff (isExact : decoder.IsExact encode source)
    (known : ∀ data, entries.lookup name = some data → data.Known source) {value : α} :
    (required name decoder).build source (namedFields entries) = .ok value ↔
      entries.lookup name = some (encode value) := by
  rw [build_required_ok_iff]
  cases given : entries.lookup name with
  | none => simp
  | some data => simp [isExact data (known data given)]

theorem build_withDefault_exact_iff (isExact : decoder.IsExact encode source)
    (known : ∀ data, entries.lookup name = some data → data.Known source) {default value : α}
    (knownDefault : (encode default).Known source) :
    (withDefault name decoder default).build source (namedFields entries) = .ok value ↔
      (entries.lookup name).getD (encode default) = encode value := by
  rw [build_withDefault_ok_iff]
  cases given : entries.lookup name with
  | none =>
      have decoded := (isExact (encode default) knownDefault default).mpr rfl
      have same := isExact (encode default) knownDefault value
      rw [decoded] at same
      simpa using same
  | some data => simp [isExact data (known data given)]

theorem build_optional_exact_iff (isExact : decoder.IsExact encode .toml)
    (known : ∀ data, entries.lookup name = some data → data.Known .toml) {value : Option α} :
    (optional name decoder).build .toml (namedFields entries) = .ok value ↔
      entries.lookup name = value.map encode := by
  rw [build_optional_ok_iff]
  cases given : entries.lookup name with
  | none => simp [eq_comm]
  | some data =>
      have present : data ≠ .null := by
        rintro rfl
        cases known .null given
      cases value <;>
        simp [Decoder.nullable_ok_iff present, isExact data (known data given)]

end RecordDecoder

end BiometricSession
