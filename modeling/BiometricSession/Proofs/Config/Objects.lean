import BiometricSession.Proofs.Config.Decoding
import BiometricSession.Proofs.Data.Kind

/-!
# Descriptors and configurations as JSON objects

What is expected of the objects that stand for descriptors, identifiers and
configurations, field by field.  Just the objects that are as expected are
decoded, and what is decoded is encoded as the object with the expected fields.
-/

namespace BiometricSession

/-! ## The expected fields -/

namespace Kind

def sessionDescriptor : Kind :=
  object
    [⟨"target_user_id", int32, none⟩,
      ⟨"group_id", int32, none⟩,
      ⟨"is_restricted", bool, none⟩,
      ⟨"owner", text, none⟩,
      ⟨"cookie", int32, none⟩,
      ⟨"hardware_device_id", uint64, none⟩]

def biometricIdentifier : Kind :=
  object
    [⟨"biometric_id", int32, none⟩,
      ⟨"group_id", int32, none⟩,
      ⟨"device_id", uint64, none⟩,
      ⟨"name", text, some (.text "")⟩]

def enrollConfig : Kind :=
  object
    [⟨"acquire_ignorelist", codes, some (.list [])⟩,
      ⟨"vendor_ignorelist", codes, some (.list [])⟩,
      ⟨"timeout_secs", uint32, some (.integer 60)⟩]

def authenticateConfig : Kind :=
  object
    [⟨"acquire_ignorelist", codes, some (.list [])⟩,
      ⟨"vendor_ignorelist", codes, some (.list [])⟩,
      ⟨"max_failed_attempts", uint32, some (.integer 5)⟩]

def hapticsConfig : Kind :=
  object
    [⟨"success_default", bool, some (.bool true)⟩,
      ⟨"error_default", bool, some (.bool true)⟩]

def monitorConfig : Kind :=
  object
    [⟨"modality", oneOf ["fingerprint", "face"], some (.text "fingerprint")⟩,
      ⟨"enroll", enrollConfig, some (enrollConfig.restated (.table []))⟩,
      ⟨"authenticate", authenticateConfig, some (authenticateConfig.restated (.table []))⟩,
      ⟨"haptics", hapticsConfig, some (hapticsConfig.restated (.table []))⟩]

/-- The object in which every section of a configuration has its defaults. -/
example : monitorConfig.restated (.table []) =
    .table
      [("modality", .text "fingerprint"),
        ("enroll", .table
          [("acquire_ignorelist", .list []), ("vendor_ignorelist", .list []),
            ("timeout_secs", .integer 60)]),
        ("authenticate", .table
          [("acquire_ignorelist", .list []), ("vendor_ignorelist", .list []),
            ("max_failed_attempts", .integer 5)]),
        ("haptics", .table [("success_default", .bool true), ("error_default", .bool true)])] :=
  rfl

end Kind

open RecordDecoder

section Takes

variable {source : Notation} {entries : List (String × Data)}

theorem SessionDescriptor.decoder_takes (distinct : (entries.map Prod.fst).Nodup) :
    SessionDescriptor.decoder.Takes SessionDescriptor.encode .sessionDescriptor source
      (.table entries) := by
  refine Takes.object ?_ distinct "struct SessionDescriptor"
  refine ((((((takes_required fun _ _ => Decoder.takes_int32).map ?_).seq
    (takes_required fun _ _ => Decoder.takes_int32)).seq
    (takes_required fun _ _ => Decoder.takes_bool)).seq
    (takes_required fun _ _ => Decoder.takes_text)).seq
    (takes_required fun _ _ => Decoder.takes_int32)).seq
    (takes_required fun _ _ => Decoder.takes_uint64)
  intro user isUser group isGroup restricted isRestricted owner isOwner cookie isCookie device
    isDevice
  simp only [SessionDescriptor.encode, isUser, isGroup, isRestricted, isOwner, isCookie, isDevice]
  rfl

theorem BiometricIdentifier.decoder_takes (distinct : (entries.map Prod.fst).Nodup) :
    BiometricIdentifier.decoder.Takes BiometricIdentifier.encode .biometricIdentifier source
      (.table entries) := by
  refine Takes.object ?_ distinct "struct BiometricIdentifier"
  refine ((((takes_required fun _ _ => Decoder.takes_int32).map ?_).seq
    (takes_required fun _ _ => Decoder.takes_int32)).seq
    (takes_required fun _ _ => Decoder.takes_uint64)).seq
    (takes_withDefault fun _ _ => Decoder.takes_text)
  intro biometric isBiometric group isGroup device isDevice name isName
  simp only [BiometricIdentifier.encode, isBiometric, isGroup, isDevice, isName]
  rfl

theorem EnrollConfig.decoder_takes (written : (Data.table entries).IsWritten .json)
    (distinct : (entries.map Prod.fst).Nodup) :
    (EnrollConfig.record.decoder "struct EnrollConfig").Takes EnrollConfig.encode .enrollConfig
      .json (.table entries) := by
  refine Takes.object ?_ distinct "struct EnrollConfig"
  refine (((takes_withDefault fun _ given =>
    Decoder.takes_codes (written.known_of_lookup given)).map ?_).seq
    (takes_withDefault fun _ given => Decoder.takes_codes (written.known_of_lookup given))).seq
    (takes_withDefault fun _ _ => Decoder.takes_uint32)
  intro acquire isAcquire vendor isVendor timeout isTimeout
  simp only [EnrollConfig.encode, isAcquire, isVendor, isTimeout]
  rfl

theorem AuthenticateConfig.decoder_takes (written : (Data.table entries).IsWritten .json)
    (distinct : (entries.map Prod.fst).Nodup) :
    (AuthenticateConfig.record.decoder "struct AuthenticateConfig").Takes
      AuthenticateConfig.encode .authenticateConfig .json (.table entries) := by
  refine Takes.object ?_ distinct "struct AuthenticateConfig"
  refine (((takes_withDefault fun _ given =>
    Decoder.takes_codes (written.known_of_lookup given)).map ?_).seq
    (takes_withDefault fun _ given => Decoder.takes_codes (written.known_of_lookup given))).seq
    (takes_withDefault fun _ _ => Decoder.takes_uint32)
  intro acquire isAcquire vendor isVendor limit isLimit
  simp only [AuthenticateConfig.encode, isAcquire, isVendor, isLimit]
  rfl

theorem HapticsConfig.decoder_takes (distinct : (entries.map Prod.fst).Nodup) :
    (HapticsConfig.record.decoder "struct HapticsConfig").Takes HapticsConfig.encode
      .hapticsConfig source (.table entries) := by
  refine Takes.object ?_ distinct "struct HapticsConfig"
  refine ((takes_withDefault fun _ _ => Decoder.takes_bool).map ?_).seq
    (takes_withDefault fun _ _ => Decoder.takes_bool)
  intro success isSuccess error isError
  simp only [HapticsConfig.encode, isSuccess, isError]
  rfl

theorem Modality.decoder_text_ok_iff {name : String} {modality : Modality} :
    Modality.decoder source (.text name) = .ok modality ↔ modality.name = name := by
  refine Decoder.named_ok_iff.trans ?_
  constructor
  · intro found
    obtain ⟨_, -, same⟩ := List.mem_map.mp (Entries.mem_of_lookup found)
    obtain ⟨rfl, rfl⟩ := Prod.mk.inj same
    rfl
  · rintro rfl
    cases modality <;> rfl

theorem Modality.decoder_takes (name : String) :
    Modality.decoder.Takes Modality.encode (.oneOf ["fingerprint", "face"]) source
      (.text name) where
  decodes_iff := by
    simp only [Modality.decoder_text_ok_iff]
    constructor
    · rintro ⟨modality, rfl⟩
      exact ⟨modality.name, by cases modality <;> simp [Modality.name], rfl⟩
    · rintro ⟨known, isKnown, same⟩
      obtain rfl := Data.text.inj same
      rcases List.mem_pair.mp isKnown with rfl | rfl
      · exact ⟨.fingerprint, rfl⟩
      · exact ⟨.face, rfl⟩
  restates modality decoded := congrArg Data.text (Modality.decoder_text_ok_iff.mp decoded)

/-- The sections of a configuration are objects, each with distinct keys, and its
modality is a string, as far as they are there. -/
structure MonitorConfig.IsSectioned (entries : List (String × Data)) : Prop where
  sections : ∀ name ∈ ["enroll", "authenticate", "haptics"], ∀ data,
    entries.lookup name = some data →
      ∃ parts, data = .table parts ∧ (parts.map Prod.fst).Nodup
  modality : ∀ data, entries.lookup "modality" = some data → ∃ name, data = .text name

theorem MonitorConfig.decoder_takes (written : (Data.table entries).IsWritten .json)
    (distinct : (entries.map Prod.fst).Nodup) (sectioned : MonitorConfig.IsSectioned entries) :
    MonitorConfig.decoder.Takes MonitorConfig.encode .monitorConfig .json (.table entries) := by
  have modality (data : Data) (given : entries.lookup "modality" = some data) :
      Modality.decoder.Takes Modality.encode (.oneOf ["fingerprint", "face"]) .json data := by
    obtain ⟨name, rfl⟩ := sectioned.modality data given
    exact Modality.decoder_takes name
  have enroll (data : Data) (given : entries.lookup "enroll" = some data) :
      (EnrollConfig.record.decoder "struct EnrollConfig").Takes EnrollConfig.encode
        .enrollConfig .json data := by
    obtain ⟨parts, rfl, apart⟩ := sectioned.sections "enroll" (by simp) data given
    exact EnrollConfig.decoder_takes (written.within (Data.within_of_lookup given)) apart
  have authenticate (data : Data) (given : entries.lookup "authenticate" = some data) :
      (AuthenticateConfig.record.decoder "struct AuthenticateConfig").Takes
        AuthenticateConfig.encode .authenticateConfig .json data := by
    obtain ⟨parts, rfl, apart⟩ := sectioned.sections "authenticate" (by simp) data given
    exact AuthenticateConfig.decoder_takes (written.within (Data.within_of_lookup given)) apart
  have haptics (data : Data) (given : entries.lookup "haptics" = some data) :
      (HapticsConfig.record.decoder "struct HapticsConfig").Takes HapticsConfig.encode
        .hapticsConfig .json data := by
    obtain ⟨parts, rfl, apart⟩ := sectioned.sections "haptics" (by simp) data given
    exact HapticsConfig.decoder_takes apart
  refine Takes.object ?_ distinct "struct MonitorConfig"
  refine ((((takes_withDefault modality).map ?_).seq (takes_withDefault enroll)).seq
    (takes_withDefault authenticate)).seq (takes_withDefault haptics)
  intro modality isModality enroll isEnroll authenticate isAuthenticate haptics isHaptics
  simp only [MonitorConfig.encode, isModality, isEnroll, isAuthenticate, isHaptics]
  rfl

end Takes

/-! ## Descriptors and identifiers are decoded as what was encoded -/

theorem SessionDescriptor.decoder_encode (source : Notation) (descriptor : SessionDescriptor) :
    SessionDescriptor.decoder source descriptor.encode = .ok descriptor := by
  apply Accepts.decoder_table
  · exact ((((((accepts_required rfl (Decoder.int32_encoded source _)).map
      SessionDescriptor.mk).seq
      (accepts_required rfl (Decoder.int32_encoded source _))).seq
      (accepts_required rfl (Decoder.bool_encoded source _))).seq
      (accepts_required rfl rfl)).seq
      (accepts_required rfl (Decoder.int32_encoded source _))).seq
      (accepts_required rfl (Decoder.uint64_ok_iff.mpr rfl))
  · simp

theorem BiometricIdentifier.decoder_encode (source : Notation)
    (identifier : BiometricIdentifier) :
    BiometricIdentifier.decoder source identifier.encode = .ok identifier := by
  apply Accepts.decoder_table
  · exact ((((accepts_required rfl (Decoder.int32_encoded source _)).map
      BiometricIdentifier.mk).seq
      (accepts_required rfl (Decoder.int32_encoded source _))).seq
      (accepts_required rfl (Decoder.uint64_ok_iff.mpr rfl))).seq
      (accepts_withDefault rfl rfl _)
  · simp

/-- Descriptors, identifiers and configurations come back from JSON as they
were.  Conversely an object is decoded just if it has the required fields and all
expected fields that it has are of their kinds, and what is decoded of it is
encoded as the object with the expected fields, those that were given as they
were given and the others with their defaults. -/
theorem objects_survive_json :
    (∀ descriptor : SessionDescriptor,
      SessionDescriptor.decoder .json descriptor.encode = .ok descriptor) ∧
      (∀ identifier : BiometricIdentifier,
        BiometricIdentifier.decoder .json identifier.encode = .ok identifier) ∧
      (∀ config : MonitorConfig, MonitorConfig.decoder .json config.encode = .ok config) ∧
      ∀ entries, (Data.table entries).IsWritten .json → (entries.map Prod.fst).Nodup →
        SessionDescriptor.decoder.Takes SessionDescriptor.encode .sessionDescriptor .json
            (.table entries) ∧
          BiometricIdentifier.decoder.Takes BiometricIdentifier.encode .biometricIdentifier
            .json (.table entries) ∧
          (MonitorConfig.IsSectioned entries →
            MonitorConfig.decoder.Takes MonitorConfig.encode .monitorConfig .json
              (.table entries)) :=
  ⟨SessionDescriptor.decoder_encode .json, BiometricIdentifier.decoder_encode .json,
    MonitorConfig.decoder_encode .json, fun _ written distinct =>
      ⟨SessionDescriptor.decoder_takes distinct, BiometricIdentifier.decoder_takes distinct,
        MonitorConfig.decoder_takes written distinct⟩⟩

/-- Keys that are not known, null under them, and sections that are left out do
no harm, and neither does the largest or the least of the numbers; one more than
the largest is refused. -/
theorem objects_survive_json_unknown_keys :
    let identifier (device : Int) : List (String × Data) :=
      [("note", .null), ("device_id", .integer device), ("group_id", .integer (-2147483648)),
        ("biometric_id", .integer 7)]
    let config : List (String × Data) :=
      [("enroll", .table [("note", .null), ("vendor_ignorelist", .list [.integer (-1)])]),
        ("modality", .text "face")]
    (∀ value, BiometricIdentifier.decoder .json (.table (identifier 18446744073709551616)) ≠
        .ok value) ∧
      (∃ value,
        BiometricIdentifier.decoder .json (.table (identifier 18446744073709551615)) =
            .ok value ∧
          value.encode =
            .table
              [("biometric_id", .integer 7), ("group_id", .integer (-2147483648)),
                ("device_id", .integer 18446744073709551615), ("name", .text "")]) ∧
      ∃ value, MonitorConfig.decoder .json (.table config) = .ok value ∧
        value.encode = Kind.monitorConfig.restated (.table config) := by
  intro identifier config
  obtain ⟨-, -, -, objects⟩ := objects_survive_json
  have asIdentifier (device : Int) :=
    (objects (identifier device) (by simp [identifier]) (by simp [identifier])).2.1
  have sectioned : MonitorConfig.IsSectioned config := by
    constructor
    · intro name isName data given
      simp only [List.mem_cons, List.not_mem_nil, or_false] at isName
      rcases isName with rfl | rfl | rfl
      · obtain rfl := Option.some.inj given
        exact ⟨_, rfl, by simp⟩
      · cases given
      · cases given
    · intro data given
      obtain rfl := Option.some.inj given
      exact ⟨"face", rfl⟩
  have asConfig := (objects config (by simp [config]) (by simp [config])).2.2 sectioned
  refine ⟨?_, ?_, ?_⟩
  · intro value decoded
    obtain ⟨given, same, fits⟩ := (asIdentifier _).decodes_iff.mp ⟨value, decoded⟩
    obtain rfl := Data.table.inj same
    have tooLarge := fits ⟨"device_id", .uint64, none⟩ (by simp)
    obtain ⟨number, isNumber, -, upper⟩ := tooLarge
    obtain rfl := Data.integer.inj isNumber
    omega
  · have fits : Kind.biometricIdentifier.Fits (.table (identifier 18446744073709551615)) :=
      ⟨_, rfl, by
        simp [identifier, List.lookup_cons, Field.FitsIn, Kind.int32, Kind.uint64, Kind.integer,
          Kind.plain]⟩
    obtain ⟨value, decoded⟩ := (asIdentifier _).decodes_iff.mpr fits
    exact ⟨value, decoded, (asIdentifier _).restates value decoded⟩
  · have fits : Kind.monitorConfig.Fits (.table config) :=
      ⟨_, rfl, by
        simp [config, List.lookup_cons, Field.FitsIn, Kind.oneOf, Kind.enrollConfig,
          Kind.object, Kind.codes, Kind.int32, Kind.integer, Kind.plain]⟩
    obtain ⟨value, decoded⟩ := asConfig.decodes_iff.mpr fits
    exact ⟨value, decoded, asConfig.restates value decoded⟩

end BiometricSession
