import BiometricSession.Proofs.Data.Rearranging
import BiometricSession.Proofs.Data.Record

/-!
# Decoders that go by an outline

A decoder heeds an outline if one step of rearranging makes no difference to it,
neither to whether something is decoded nor to what.  Decoders of numbers, names
and lists do, and a record does if the decoders of its fields do, since it is
built from what is found under the declared names.
-/

namespace BiometricSession

variable {α β : Type}

/-- A step of rearranging makes no difference to what is decoded from TOML. -/
def Decoder.Heeds (decoder : Decoder α) (outline : Outline) : Prop :=
  ∀ data other, Data.Links outline data other →
    ∀ value, decoder .toml data = .ok value ↔ decoder .toml other = .ok value

namespace Decoder

variable {decoder : Decoder α} {outline : Outline}

/-- Nor do any number of steps in either direction. -/
theorem Heeds.readsAlike (heeds : decoder.Heeds outline) {data other : Data}
    (alike : Data.ReadsAlike outline data other) (value : α) :
    decoder .toml data = .ok value ↔ decoder .toml other = .ok value := by
  induction alike with
  | rel data other link => exact heeds data other link value
  | refl data => exact Iff.rfl
  | symm data other _ ih => exact ih.symm
  | trans data between other _ _ ih ihOther => exact ih.trans ihOther

/-- A decoder heeds any outline if only values without parts are good for it. -/
theorem heeds_of_simple
    (simple : ∀ data value, decoder .toml data = .ok value → data.isComposite = false) :
    decoder.Heeds outline := by
  intro data other link value
  obtain ⟨before, after⟩ := link.step.isComposite
  apply iff_of_false
  · intro decoded
    rw [simple data value decoded] at before
    cases before
  · intro decoded
    rw [simple other value decoded] at after
    cases after

theorem isComposite_of_integer_ok {least greatest : Int} {convert : Int → α} {expected : String}
    {source : Notation} {data : Data} {value : α}
    (decoded : map convert (integer least greatest expected) source data = .ok value) :
    data.isComposite = false := by
  obtain ⟨plain, isPlain, -⟩ := map_ok_iff.mp decoded
  obtain ⟨rfl, -⟩ := integer_ok_iff.mp isPlain
  rfl

/-- Numbers of any type. -/
theorem heeds_integer {least greatest : Int} {convert : Int → α} {expected : String} :
    (map convert (integer least greatest expected)).Heeds outline :=
  heeds_of_simple fun _ _ => isComposite_of_integer_ok

theorem heeds_nullable_integer {least greatest : Int} {convert : Int → α} {expected : String} :
    (map convert (integer least greatest expected)).nullable.Heeds outline := by
  refine heeds_of_simple fun data value decoded => ?_
  cases data with
  | list | tables | table => cases decoded
  | _ => rfl

theorem heeds_bool : bool.Heeds outline := by
  refine heeds_of_simple fun data value decoded => ?_
  obtain rfl := bool_ok_iff.mp decoded
  rfl

theorem heeds_text : text.Heeds outline := by
  refine heeds_of_simple fun data value decoded => ?_
  obtain rfl := text_ok_iff.mp decoded
  rfl

/-! ## Lists -/

theorem forall₂_middle_iff {Related : Data → α → Prop} {front back : List Data}
    {data other : Data} (same : ∀ value, Related data value ↔ Related other value)
    (values : List α) :
    List.Forall₂ Related (front ++ data :: back) values ↔
      List.Forall₂ Related (front ++ other :: back) values := by
  induction front generalizing values with
  | nil => simp only [List.nil_append, List.forall₂_cons_left_iff, same]
  | cons item front ih => simp only [List.cons_append, List.forall₂_cons_left_iff, ih]

theorem heeds_list {part : Outline} (heeds : decoder.Heeds part)
    (isItem : outline.item? = some part) : (list decoder).Heeds outline := by
  intro data other ⟨step, distinct, distinctOther⟩ values
  have each {given changed : Data} {kept : Outline} (isKept : outline.item? = some kept)
      (step : Data.Rearranges kept given changed) (inside : given.Within data)
      (insideOther : changed.Within other) (value : α) :
      decoder .toml given = .ok value ↔ decoder .toml changed = .ok value := by
    obtain rfl := Option.some.inj (isItem.symm.trans isKept)
    exact heeds given changed
      ⟨step, distinct.within inside, distinctOther.within insideOther⟩ value
  cases step with
  | order | addition | entry => exact iff_of_false nofun nofun
  | @item _ _ front back given changed isKept step =>
      have same := each isKept step (.item (.self given) (by simp))
        (.item (.self changed) (by simp))
      exact mapM_ok_iff.trans ((forall₂_middle_iff same values).trans mapM_ok_iff.symm)
  | @tableItem _ _ front back given changed isKept step =>
      have same := each isKept step (.table (.self given) (by simp))
        (.table (.self changed) (by simp))
      exact mapM_ok_iff.trans ((forall₂_middle_iff same values).trans mapM_ok_iff.symm)

/-! ## Choices -/

theorem choice_table_ok_iff {options : List (String × α)} {entries : List (String × Data)}
    {value : α} :
    choice options .toml (.table entries) = .ok value ↔
      ∃ name payload, entries = [(name, payload)] ∧ named options name = .ok value ∧
        payloadFault .toml payload = none := by
  match entries with
  | [] | _ :: _ :: _ => simp [choice]
  | [(name, payload)] =>
      cases chosen : named options name <;> cases fault : payloadFault .toml payload <;>
        simp [choice, chosen, fault, bind, Except.bind, pure, Except.pure, throw, throwThe,
          MonadExceptOf.throw]

theorem payloadFault_eq_none_iff {data : Data} :
    payloadFault .toml data = none ↔ data = .table [] ∨ data = .list [] ∨ data = .tables [] := by
  match data with
  | .table [] | .list [] | .tables [] => simp [payloadFault]
  | .table (_ :: _) | .list (_ :: _) | .tables (_ :: _) => simp [payloadFault]
  | .null | .bool _ | .integer _ | .float _ | .text _ | .moment => simp [payloadFault]

theorem payloadFault_eq_none_of_rearranges {data other : Data}
    (step : Data.Rearranges .value data other) :
    payloadFault .toml data = none ↔ payloadFault .toml other = none := by
  simp only [payloadFault_eq_none_iff]
  cases step with
  | order permuted => simp [← List.length_eq_zero_iff, permuted.length_eq]
  | addition front back data ignored => exact ignored.elim
  | entry front back step => simp
  | item front back isItem step => simp
  | tableItem front back isItem step => simp

theorem heeds_choice (options : List (String × α)) : (choice options).Heeds .value := by
  intro data other link value
  cases link.step with
  | @order _ entries others permuted =>
      have single (entry : String × Data) : entries = [entry] ↔ others = [entry] :=
        ⟨fun same => List.perm_singleton.mp (same ▸ permuted.symm),
          fun same => List.perm_singleton.mp (same ▸ permuted)⟩
      simp only [choice_table_ok_iff, single]
  | addition front back data ignored => exact ignored.elim
  | entry front back step =>
      cases front with
      | nil =>
          cases back with
          | nil => simp [choice_table_ok_iff, payloadFault_eq_none_of_rearranges step]
          | cons => simp [choice_table_ok_iff]
      | cons => simp [choice_table_ok_iff]
  | item | tableItem => exact iff_of_false nofun nofun

end Decoder

/-! ## Records -/

namespace RecordDecoder

/-- A record is built alike where what is found under its names is kept. -/
structure Heeds (record : RecordDecoder α) (fields : List (String × Outline)) : Prop where
  thorough : record.Thorough
  builds : ∀ entries others : List (String × Data),
    (∀ field ∈ fields, Data.Kept field.2 (entries.lookup field.1) (others.lookup field.1)) →
      ∀ value, record.build .toml (namedFields entries) = .ok value ↔
        record.build .toml (namedFields others) = .ok value

theorem heeds_pure (value : α) : Heeds (pure value) [] where
  thorough := thorough_pure value
  builds _ _ _ _ := Iff.rfl

theorem Heeds.seq {first : RecordDecoder (α → β)} {second : RecordDecoder α}
    {fields others : List (String × Outline)} (function : first.Heeds fields)
    (argument : second.Heeds others) : (first <*> second).Heeds (fields ++ others) where
  thorough := function.thorough.seq argument.thorough
  builds entries changed kept value := by
    rw [List.forall_mem_append] at kept
    simp only [build_seq_ok_iff, function.builds entries changed kept.1,
      argument.builds entries changed kept.2]

theorem Heeds.map {record : RecordDecoder α} {fields : List (String × Outline)}
    (heeds : record.Heeds fields) (convert : α → β) : (convert <$> record).Heeds fields :=
  (heeds_pure convert).seq heeds

variable {name : String} {decoder : Decoder α} {outline : Outline}

theorem exists_found_iff {found other : Option Data} (heeds : decoder.Heeds outline)
    (kept : Data.Kept outline found other) (value : α) :
    (∃ data, found = some data ∧ decoder .toml data = .ok value) ↔
      ∃ data, other = some data ∧ decoder .toml data = .ok value := by
  rcases kept with rfl | ⟨data, changed, rfl, rfl, link⟩
  · exact Iff.rfl
  · simpa using heeds data changed link value

theorem eq_none_iff_of_kept {found other : Option Data} (kept : Data.Kept outline found other) :
    found = none ↔ other = none := by
  rcases kept with rfl | ⟨data, changed, rfl, rfl, -⟩
  · exact Iff.rfl
  · exact iff_of_false nofun nofun

theorem heeds_required (heeds : decoder.Heeds outline) :
    (required name decoder).Heeds [(name, outline)] where
  thorough := thorough_required name decoder
  builds entries others kept value := by
    have kept := List.forall_mem_singleton.mp kept
    simp only [build_required_ok_iff, exists_found_iff heeds kept]

theorem heeds_withDefault (heeds : decoder.Heeds outline) (default : α) :
    (withDefault name decoder default).Heeds [(name, outline)] where
  thorough := thorough_withDefault name decoder default
  builds entries others kept value := by
    have kept := List.forall_mem_singleton.mp kept
    simp only [build_withDefault_ok_iff, exists_found_iff heeds kept, eq_none_iff_of_kept kept]

theorem heeds_optional (heeds : decoder.nullable.Heeds outline) :
    (optional name decoder).Heeds [(name, outline)] where
  thorough := thorough_optional name decoder
  builds entries others kept value := by
    have kept := List.forall_mem_singleton.mp kept
    simp only [build_optional_ok_iff, exists_found_iff heeds kept, eq_none_iff_of_kept kept]

theorem Heeds.heeds_decoder {record : RecordDecoder α} {fields : List (String × Outline)}
    (heeds : record.Heeds fields) (apart : (fields.map Prod.fst).Nodup) (title : String) :
    (record.decoder title).Heeds (.record fields) := by
  intro data other link value
  have tables (entries others : List (String × Data))
      (link : Data.Links (.record fields) (.table entries) (.table others)) :
      record.decoder title .toml (.table entries) = .ok value ↔
        record.decoder title .toml (.table others) = .ok value := by
    have kept (field : String × Outline) (isField : field ∈ fields) :
        Data.Kept field.2 (entries.lookup field.1) (others.lookup field.1) := by
      have declared : fields.lookup field.1 = some field.2 :=
        Entries.lookup_of_mem apart isField
      have isDeclared : ¬ (Outline.record fields).Ignores entries field.1 := by
        simp [Outline.Ignores, declared]
      simpa only [Outline.under, declared, Option.getD_some] using link.lookup isDeclared
    calc record.decoder title .toml (.table entries) = .ok value
        ↔ record.build .toml (namedFields entries) = .ok value :=
          heeds.thorough.ofFields_ok_iff link.distinct.names
      _ ↔ record.build .toml (namedFields others) = .ok value :=
          heeds.builds entries others kept value
      _ ↔ record.decoder title .toml (.table others) = .ok value :=
          (heeds.thorough.ofFields_ok_iff link.distinct_other.names).symm
  have step := link.step
  cases step with
  | order | addition | entry => exact tables _ _ link
  | item _ _ isItem | tableItem _ _ isItem => cases isItem

/-! ## Tagged records -/

/-- A kind of a tagged record heeds its names, and the tag is not one of them. -/
def HeedsKind (tagName : String) (variant : String × RecordDecoder α) (names : List String) :
    Prop :=
  variant.2.Heeds (names.map (·, .value)) ∧ tagName ∉ names

section Tagged

variable {title tagName : String} {variants : List (String × String × RecordDecoder α)}
  {kinds : List (String × List String)}
  (each : List.Forall₂
    (fun variant kind => variant.1 = kind.1 ∧ HeedsKind tagName variant.2 kind.2) variants kinds)

include each

/-- A tagged table is read as what is built of it by the kind of record that the
tag names. -/
theorem tagged_builds_iff {entries : List (String × Data)}
    (distinct : (entries.map Prod.fst).Nodup) {value : α} :
    tagged title tagName variants .toml (.table entries) = .ok value ↔
      ∃ kind variantTitle record, entries.lookup tagName = some (.text kind) ∧
        variants.lookup kind = some (variantTitle, record) ∧
        record.build .toml (namedFields entries) = .ok value := by
  rw [tagged_ok_iff]
  refine exists_congr fun kind => exists_congr fun variantTitle => exists_congr fun record =>
    and_congr_right fun isKind => and_congr_right fun isVariant => ?_
  obtain ⟨names, areNames, heeds, untagged⟩ := Entries.exists_lookup_of_forall₂ each isVariant
  rw [heeds.thorough.ofFields_ok_iff (Entries.nodup_filter distinct tagName)]
  refine heeds.builds _ _ (fun field isField => .inl ?_) value
  obtain ⟨name, isName, rfl⟩ := List.mem_map.mp isField
  refine Entries.lookup_filter_ne ?_
  rintro rfl
  exact untagged isName

/-- Tagged records heed their outline if every kind heeds its names. -/
theorem heeds_tagged : (tagged title tagName variants).Heeds (.tagged tagName kinds) := by
  intro data other link value
  have tables (entries others : List (String × Data))
      (link : Data.Links (.tagged tagName kinds) (.table entries) (.table others)) :
      tagged title tagName variants .toml (.table entries) = .ok value ↔
        tagged title tagName variants .toml (.table others) = .ok value := by
    have sameKind (kind : String) : entries.lookup tagName = some (.text kind) ↔
        others.lookup tagName = some (.text kind) :=
      (link.lookup fun ignored => ignored.1 rfl).eq_some_iff rfl
    rw [tagged_builds_iff each link.distinct.names,
      tagged_builds_iff each link.distinct_other.names]
    simp only [← sameKind]
    refine exists_congr fun kind => exists_congr fun variantTitle => exists_congr fun record =>
      and_congr_right fun isKind => and_congr_right fun isVariant => ?_
    obtain ⟨names, areNames, heeds, untagged⟩ := Entries.exists_lookup_of_forall₂ each isVariant
    refine heeds.builds entries others (fun field isField => ?_) value
    obtain ⟨name, isName, rfl⟩ := List.mem_map.mp isField
    exact link.lookup fun ignored => ignored.2 kind names isKind areNames isName
  have step := link.step
  cases step with
  | order | addition | entry => exact tables _ _ link
  | item _ _ isItem | tableItem _ _ isItem => cases isItem

end Tagged

end RecordDecoder

end BiometricSession
