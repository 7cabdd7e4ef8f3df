import BiometricSession.Data.Decoder
import Mathlib.Data.List.Forall2
import Mathlib.Data.UInt

/-!
# Decoding what was encoded

Numbers of a limited range and lists are decoded as what was encoded, whatever
notation they were written in.
-/

namespace BiometricSession.Decoder

variable {α : Type}

@[simp]
theorem integer_of_bounds {least greatest value : Int} (source : Notation) (expected : String)
    (fits : least ≤ value ∧ value ≤ greatest) :
    integer least greatest expected source (.integer value) = .ok value := by
  simp [integer, fits]

@[simp]
theorem int32_encoded (source : Notation) (value : Int32) :
    int32 source (.int32 value) = .ok value := by
  have fits : Int32.minValue.toInt ≤ value.toInt ∧ value.toInt ≤ Int32.maxValue.toInt :=
    ⟨value.le_toInt, Int.lt_add_one_iff.mp value.toInt_lt⟩
  rw [int32, Decoder.map, Data.int32, integer_of_bounds source "i32" fits]
  simp [Except.map]

@[simp]
theorem uint32_encoded (source : Notation) (value : UInt32) :
    uint32 source (.uint32 value) = .ok value := by
  have fits : 0 ≤ (value.toNat : Int) ∧ (value.toNat : Int) ≤ UInt32.size - 1 :=
    ⟨Int.natCast_nonneg _, by have := value.toNat_lt_size; omega⟩
  rw [uint32, Decoder.map, Data.uint32, integer_of_bounds source "u32" fits]
  simp [Except.map]

@[simp]
theorem bool_encoded (source : Notation) (value : Bool) :
    bool source (.bool value) = .ok value :=
  rfl

/-- A list is decoded if all of its items are. -/
@[simp]
theorem list_encoded {decoder : Decoder α} {encode : α → Data} {source : Notation}
    (decodes : ∀ value, decoder source (encode value) = .ok value) (values : List α) :
    list decoder source (.list (values.map encode)) = .ok values := by
  have items : (values.map encode).mapM (decoder source) = .ok values := by
    induction values with
    | nil => rfl
    | cons value values ih =>
        rw [List.map_cons, List.mapM_cons, decodes, ih]
        rfl
  exact items

/-! ## What is decoded at all -/

section Exact

variable {β : Type} {source : Notation} {data : Data}

theorem map_ok_iff {convert : α → β} {decoder : Decoder α} {value : β} :
    map convert decoder source data = .ok value ↔
      ∃ plain, decoder source data = .ok plain ∧ convert plain = value := by
  rw [map]
  cases decoder source data <;> simp [Except.map]

theorem integer_ok_iff {least greatest value : Int} {expected : String} :
    integer least greatest expected source data = .ok value ↔
      data = .integer value ∧ least ≤ value ∧ value ≤ greatest := by
  constructor
  · intro decoded
    cases data with
    | integer given =>
        by_cases fits : least ≤ given ∧ given ≤ greatest
        · rw [integer_of_bounds source expected fits] at decoded
          obtain rfl := Except.ok.inj decoded
          exact ⟨rfl, fits⟩
        · simp [integer, fits] at decoded
    | _ => cases decoded
  · rintro ⟨rfl, fits⟩
    exact integer_of_bounds source expected fits

theorem int32_ok_iff {value : Int32} : int32 source data = .ok value ↔ data = .int32 value := by
  constructor
  · intro decoded
    obtain ⟨plain, isPlain, rfl⟩ := map_ok_iff.mp decoded
    obtain ⟨rfl, lower, upper⟩ := integer_ok_iff.mp isPlain
    have lower : -2 ^ 31 ≤ plain := lower
    have upper : plain < 2 ^ 31 := Int.lt_add_one_iff.mpr upper
    rw [Data.int32, Int32.toInt_ofInt_of_le lower upper]
  · rintro rfl
    exact int32_encoded source value

/-- What is decoded as a number without a sign: its own encoding, by whatever
type the numbers below a bound are represented. -/
theorem unsigned_ok_iff {size : Nat} {ofNat : Nat → β} {toNat : β → Nat} {expected : String}
    {value : β} (toNat_lt : toNat value < size) (ofNat_toNat : ofNat (toNat value) = value)
    (toNat_ofNat : ∀ number < size, toNat (ofNat number) = number) :
    map (fun number : Int => ofNat number.toNat) (integer 0 (size - 1) expected) source data =
        .ok value ↔
      data = .integer (toNat value) := by
  rw [map_ok_iff]
  constructor
  · rintro ⟨plain, isPlain, rfl⟩
    obtain ⟨rfl, lower, upper⟩ := integer_ok_iff.mp isPlain
    rw [toNat_ofNat _ (by omega), Int.toNat_of_nonneg lower]
  · rintro rfl
    refine ⟨toNat value, integer_of_bounds source expected (by omega), ?_⟩
    rw [Int.toNat_natCast, ofNat_toNat]

theorem uint8_ok_iff {value : UInt8} : uint8 source data = .ok value ↔ data = .uint8 value :=
  unsigned_ok_iff value.toNat_lt_size UInt8.ofNat_toNat fun _ => UInt8.toNat_ofNat_of_lt'

theorem uint32_ok_iff {value : UInt32} :
    uint32 source data = .ok value ↔ data = .uint32 value :=
  unsigned_ok_iff value.toNat_lt_size UInt32.ofNat_toNat fun _ => UInt32.toNat_ofNat_of_lt'

theorem uint64_ok_iff {value : UInt64} :
    uint64 source data = .ok value ↔ data = .uint64 value :=
  unsigned_ok_iff value.toNat_lt_size UInt64.ofNat_toNat fun _ => UInt64.toNat_ofNat_of_lt'

theorem bool_ok_iff {value : Bool} : bool source data = .ok value ↔ data = .bool value := by
  cases data <;> simp [bool]

theorem text_ok_iff {value : String} : text source data = .ok value ↔ data = .text value := by
  cases data <;> simp [text]

theorem nullable_ok_iff {decoder : Decoder α} (present : data ≠ .null) {value : Option α} :
    nullable decoder source data = .ok value ↔
      ∃ part, decoder source data = .ok part ∧ value = some part := by
  have decoded : nullable decoder source data = (decoder source data).map some := by
    cases data with
    | null => exact absurd rfl present
    | _ => rfl
  rw [decoded]
  cases decoder source data <;> simp [Except.map, eq_comm]

theorem named_ok_iff {options : List (String × α)} {name : String} {value : α} :
    named options name = .ok value ↔ options.lookup name = some value := by
  rw [named]
  cases options.lookup name <;> simp

theorem mapM_ok_iff {decode : Data → Except DecodeError α} {items : List Data}
    {values : List α} :
    items.mapM decode = .ok values ↔
      List.Forall₂ (fun item value => decode item = .ok value) items values := by
  induction items generalizing values with
  | nil => cases values <;> simp [pure, Except.pure]
  | cons item items ih =>
      rw [List.mapM_cons]
      cases first : decode item with
      | error => cases values <;> simp [bind, Except.bind, first]
      | ok value =>
          cases rest : items.mapM decode with
          | error =>
              cases values <;> simp [bind, Except.bind, ← ih, rest]
          | ok others =>
              cases values <;> simp [bind, Except.bind, pure, Except.pure, ← ih, rest, first]

theorem list_ok_iff {decoder : Decoder α} {values : List α} :
    list decoder source data = .ok values ↔
      ∃ items, (data = .list items ∨ data = .tables items) ∧
        List.Forall₂ (fun item value => decoder source item = .ok value) items values := by
  cases data <;> simp [list, mapM_ok_iff]

/-- A list of values that are decoded from nothing but their encoding. -/
theorem list_ok_iff_map {decoder : Decoder α} {encode : α → Data} {values : List α}
    (exactly : ∀ item value, decoder source item = .ok value ↔ item = encode value) :
    list decoder source data = .ok values ↔
      data = .list (values.map encode) ∨ data = .tables (values.map encode) := by
  have items (items : List Data) :
      List.Forall₂ (fun item value => decoder source item = .ok value) items values ↔
        items = values.map encode := by
    rw [← List.forall₂_eq_eq_eq, List.forall₂_map_right_iff]
    simp only [exactly]
  rw [list_ok_iff]
  constructor
  · rintro ⟨given, isGiven, decoded⟩
    rwa [(items given).mp decoded] at isGiven
  · intro isGiven
    exact ⟨_, isGiven, (items _).mpr rfl⟩

end Exact

end BiometricSession.Decoder
