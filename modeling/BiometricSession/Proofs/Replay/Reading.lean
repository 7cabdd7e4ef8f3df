import BiometricSession.Proofs.Data.Exact
import BiometricSession.Proofs.Data.Heeding
import BiometricSession.Replay.Script

/-!
# Scripts and configurations are read by their names

What is read from a configuration or a script is settled by what stands under the
declared names.  The order of a table makes no difference, nor do entries of
other names, wherever they stand.  The events of a script are its event tables,
each read as the kind that it names.
-/

namespace BiometricSession

open RecordDecoder

/-! ## Outlines -/

namespace MonitorConfig

/-- The outline of a configuration. -/
def outline : Outline :=
  .record
    [("modality", .value),
      ("enroll", .plain ["acquire_ignorelist", "vendor_ignorelist", "timeout_secs"]),
      ("authenticate", .plain ["acquire_ignorelist", "vendor_ignorelist", "max_failed_attempts"]),
      ("haptics", .plain ["success_default", "error_default"])]

theorem decoder_heeds : decoder.Heeds outline := by
  have codes : (Decoder.list .int32).Heeds .value := Decoder.heeds_list Decoder.heeds_integer rfl
  have enroll : (EnrollConfig.record.decoder "struct EnrollConfig").Heeds
      (.plain ["acquire_ignorelist", "vendor_ignorelist", "timeout_secs"]) :=
    ((((heeds_withDefault codes _).map EnrollConfig.mk).seq (heeds_withDefault codes _)).seq
      (heeds_withDefault Decoder.heeds_integer _)).heeds_decoder (by decide) _
  have authenticate : (AuthenticateConfig.record.decoder "struct AuthenticateConfig").Heeds
      (.plain ["acquire_ignorelist", "vendor_ignorelist", "max_failed_attempts"]) :=
    ((((heeds_withDefault codes _).map AuthenticateConfig.mk).seq
      (heeds_withDefault codes _)).seq
      (heeds_withDefault Decoder.heeds_integer _)).heeds_decoder (by decide) _
  have haptics : (HapticsConfig.record.decoder "struct HapticsConfig").Heeds
      (.plain ["success_default", "error_default"]) :=
    (((heeds_withDefault Decoder.heeds_bool _).map HapticsConfig.mk).seq
      (heeds_withDefault Decoder.heeds_bool _)).heeds_decoder (by decide) _
  exact (((((heeds_withDefault (Decoder.heeds_choice _) _).map MonitorConfig.mk).seq
    (heeds_withDefault enroll _)).seq (heeds_withDefault authenticate _)).seq
    (heeds_withDefault haptics _)).heeds_decoder (by decide) _

end MonitorConfig

namespace ScriptEvent

/-- The names that are declared for each kind of event, besides the kind. -/
def declared : List (String × List String) :=
  [("acquired", ["info", "vendor"]),
    ("error", ["error", "vendor", "device_id"]),
    ("enroll_result", ["biometric_id", "remaining"]),
    ("authenticated", ["biometric_id", "authenticated", "token"]),
    ("removed", ["biometric_id", "remaining"]),
    ("enumerated", ["biometric_id", "remaining"]),
    ("stop", ["initiated_by_client"]),
    ("client_died", []),
    ("destroy", [])]

theorem records_heed :
    List.Forall₂ (fun variant kind => variant.1 = kind.1 ∧ HeedsKind "kind" variant.2 kind.2)
      records declared := by
  have number {outline : Outline} : Decoder.int32.Heeds outline := Decoder.heeds_integer
  have bytes : (Decoder.list .uint8).Heeds .value := Decoder.heeds_list Decoder.heeds_integer rfl
  refine .cons ⟨rfl, ?acquired, by decide⟩ <| .cons ⟨rfl, ?error, by decide⟩ <|
    .cons ⟨rfl, ?enrollResult, by decide⟩ <| .cons ⟨rfl, ?authenticated, by decide⟩ <|
    .cons ⟨rfl, ?removed, by decide⟩ <| .cons ⟨rfl, ?enumerated, by decide⟩ <|
    .cons ⟨rfl, ?stop, by decide⟩ <| .cons ⟨rfl, ?clientDied, by decide⟩ <|
    .cons ⟨rfl, ?destroy, by decide⟩ .nil
  case acquired => exact ((heeds_required number).map acquired).seq (heeds_withDefault number 0)
  case error =>
    exact (((heeds_required number).map error).seq (heeds_withDefault number 0)).seq
      (heeds_optional Decoder.heeds_nullable_integer)
  case enrollResult =>
    exact ((heeds_required number).map enrollResult).seq (heeds_required number)
  case authenticated =>
    exact (((heeds_required number).map authenticated).seq
      (heeds_required Decoder.heeds_bool)).seq (heeds_withDefault bytes [])
  case removed => exact ((heeds_required number).map removed).seq (heeds_required number)
  case enumerated => exact ((heeds_required number).map enumerated).seq (heeds_required number)
  case stop => exact (heeds_withDefault Decoder.heeds_bool true).map stop
  case clientDied => exact heeds_pure clientDied
  case destroy => exact heeds_pure destroy

end ScriptEvent

namespace ReplayScript

/-- What is declared in a script, by its names. -/
def declared : List (String × Outline) :=
  [("session", .plain
      ["variant", "user_id", "group_id", "restricted", "owner", "cookie", "device_id",
        "operation_id", "biometric_id", "hardware_auth_token", "with_token"]),
    ("hal", .plain ["start_status", "stop_status"]),
    ("listener", .plain ["fail_after"]),
    ("event", .list (.tagged "kind" ScriptEvent.declared))]

/-- The outline of a script. -/
def outline : Outline :=
  .record declared

theorem record_heeds : record.Heeds declared := by
  have number {outline : Outline} : Decoder.int32.Heeds outline := Decoder.heeds_integer
  have large {outline : Outline} : Decoder.uint64.Heeds outline := Decoder.heeds_integer
  have bytes : (Decoder.list .uint8).Heeds .value := Decoder.heeds_list Decoder.heeds_integer rfl
  have session : (SessionSpec.record.decoder "struct SessionSpec").Heeds
      (.plain
        ["variant", "user_id", "group_id", "restricted", "owner", "cookie", "device_id",
          "operation_id", "biometric_id", "hardware_auth_token", "with_token"]) :=
    ((((((((((((heeds_required (Decoder.heeds_choice _)).map SessionSpec.mk).seq
      (heeds_withDefault number 0)).seq (heeds_withDefault number 0)).seq
      (heeds_withDefault Decoder.heeds_bool false)).seq
      (heeds_withDefault Decoder.heeds_text "biomon.replay")).seq
      (heeds_withDefault number 0)).seq (heeds_withDefault large 1)).seq
      (heeds_withDefault large 0)).seq (heeds_withDefault number 0)).seq
      (heeds_withDefault bytes [])).seq
      (heeds_withDefault Decoder.heeds_bool true)).heeds_decoder (by decide) _
  have hal : (HalSpec.record.decoder "struct HalSpec").Heeds
      (.plain ["start_status", "stop_status"]) :=
    (((heeds_withDefault number 0).map HalSpec.mk).seq
      (heeds_withDefault number 0)).heeds_decoder (by decide) _
  have listener : (ListenerSpec.record.decoder "struct ListenerSpec").Heeds
      (.plain ["fail_after"]) :=
    ((heeds_optional Decoder.heeds_nullable_integer).map ListenerSpec.mk).heeds_decoder
      (by decide) _
  have events : (Decoder.list ScriptEvent.decoder).Heeds
      (.list (.tagged "kind" ScriptEvent.declared)) :=
    Decoder.heeds_list (heeds_tagged ScriptEvent.records_heed) rfl
  exact ((((heeds_required session).map ReplayScript.mk).seq (heeds_withDefault hal _)).seq
    (heeds_withDefault listener _)).seq (heeds_withDefault events _)

theorem decoder_heeds : decoder.Heeds outline :=
  record_heeds.heeds_decoder (by decide) "struct ReplayScript"

end ReplayScript

/-! ## Events and their tables -/

namespace ScriptEvent

/-- A table says that the event happens: it names the kind of the event, and has
under each name that is declared for the kind the value that the event has there,
or nothing where the event has the default. -/
def IsWrittenIn (entries : List (String × Data)) : ScriptEvent → Prop
  | acquired info vendor =>
      entries.lookup "kind" = some (.text "acquired") ∧
        entries.lookup "info" = some (.int32 info) ∧
        (entries.lookup "vendor").getD (.int32 0) = .int32 vendor
  | error code vendor device =>
      entries.lookup "kind" = some (.text "error") ∧
        entries.lookup "error" = some (.int32 code) ∧
        (entries.lookup "vendor").getD (.int32 0) = .int32 vendor ∧
        entries.lookup "device_id" = device.map .uint64
  | enrollResult biometric remaining =>
      entries.lookup "kind" = some (.text "enroll_result") ∧
        entries.lookup "biometric_id" = some (.int32 biometric) ∧
        entries.lookup "remaining" = some (.int32 remaining)
  | authenticated biometric accepted token =>
      entries.lookup "kind" = some (.text "authenticated") ∧
        entries.lookup "biometric_id" = some (.int32 biometric) ∧
        entries.lookup "authenticated" = some (.bool accepted) ∧
        (entries.lookup "token").getD (.list []) = .list (token.map .uint8)
  | removed biometric remaining =>
      entries.lookup "kind" = some (.text "removed") ∧
        entries.lookup "biometric_id" = some (.int32 biometric) ∧
        entries.lookup "remaining" = some (.int32 remaining)
  | enumerated biometric remaining =>
      entries.lookup "kind" = some (.text "enumerated") ∧
        entries.lookup "biometric_id" = some (.int32 biometric) ∧
        entries.lookup "remaining" = some (.int32 remaining)
  | stop byClient =>
      entries.lookup "kind" = some (.text "stop") ∧
        (entries.lookup "initiated_by_client").getD (.bool true) = .bool byClient
  | clientDied => entries.lookup "kind" = some (.text "client_died")
  | destroy => entries.lookup "kind" = some (.text "destroy")

section Decoding

variable {entries : List (String × Data)} (written : (Data.table entries).IsWritten .toml)
  {event : ScriptEvent}

include written

theorem number_build_iff {name : String} {value : Int32} :
    (required name .int32).build .toml (namedFields entries) = .ok value ↔
      entries.lookup name = some (.int32 value) :=
  build_required_exact_iff Decoder.isExact_int32 fun _ => written.known_of_lookup

theorem vendor_build_iff {value : Int32} :
    (withDefault "vendor" .int32 0).build .toml (namedFields entries) = .ok value ↔
      (entries.lookup "vendor").getD (.int32 0) = .int32 value :=
  build_withDefault_exact_iff Decoder.isExact_int32 (fun _ => written.known_of_lookup) trivial

theorem acquired_build_iff :
    (acquired <$> required "info" .int32 <*> withDefault "vendor" .int32 0).build .toml
        (namedFields entries) = .ok event ↔
      ∃ info vendor, event = acquired info vendor ∧
        entries.lookup "info" = some (.int32 info) ∧
        (entries.lookup "vendor").getD (.int32 0) = .int32 vendor := by
  simp only [build_seq_ok_iff, build_map_ok_iff, number_build_iff written,
    vendor_build_iff written]
  constructor
  · rintro ⟨_, vendor, ⟨info, isInfo, rfl⟩, isVendor, rfl⟩
    exact ⟨info, vendor, rfl, isInfo, isVendor⟩
  · rintro ⟨info, vendor, rfl, isInfo, isVendor⟩
    exact ⟨_, vendor, ⟨info, isInfo, rfl⟩, isVendor, rfl⟩

theorem error_build_iff :
    (error <$> required "error" .int32 <*> withDefault "vendor" .int32 0
        <*> optional "device_id" .uint64).build .toml (namedFields entries) = .ok event ↔
      ∃ code vendor device, event = error code vendor device ∧
        entries.lookup "error" = some (.int32 code) ∧
        (entries.lookup "vendor").getD (.int32 0) = .int32 vendor ∧
        entries.lookup "device_id" = device.map .uint64 := by
  have device_iff {device : Option UInt64} :
      (optional "device_id" .uint64).build .toml (namedFields entries) = .ok device ↔
        entries.lookup "device_id" = device.map .uint64 :=
    build_optional_exact_iff Decoder.isExact_uint64 fun _ => written.known_of_lookup
  simp only [build_seq_ok_iff, build_map_ok_iff, number_build_iff written,
    vendor_build_iff written, device_iff]
  constructor
  · rintro ⟨_, device, ⟨_, vendor, ⟨code, isCode, rfl⟩, isVendor, rfl⟩, isDevice, rfl⟩
    exact ⟨code, vendor, device, rfl, isCode, isVendor, isDevice⟩
  · rintro ⟨code, vendor, device, rfl, isCode, isVendor, isDevice⟩
    exact ⟨_, device, ⟨_, vendor, ⟨code, isCode, rfl⟩, isVendor, rfl⟩, isDevice, rfl⟩

/-- The three kinds of results that count down. -/
theorem countdown_build_iff {convert : Int32 → Int32 → ScriptEvent} :
    (convert <$> required "biometric_id" .int32 <*> required "remaining" .int32).build .toml
        (namedFields entries) = .ok event ↔
      ∃ biometric remaining, event = convert biometric remaining ∧
        entries.lookup "biometric_id" = some (.int32 biometric) ∧
        entries.lookup "remaining" = some (.int32 remaining) := by
  simp only [build_seq_ok_iff, build_map_ok_iff, number_build_iff written]
  constructor
  · rintro ⟨_, remaining, ⟨biometric, isBiometric, rfl⟩, isRemaining, rfl⟩
    exact ⟨biometric, remaining, rfl, isBiometric, isRemaining⟩
  · rintro ⟨biometric, remaining, rfl, isBiometric, isRemaining⟩
    exact ⟨_, remaining, ⟨biometric, isBiometric, rfl⟩, isRemaining, rfl⟩

theorem authenticated_build_iff :
    (authenticated <$> required "biometric_id" .int32 <*> required "authenticated" .bool
        <*> withDefault "token" (.list .uint8) []).build .toml (namedFields entries) =
        .ok event ↔
      ∃ biometric accepted token, event = authenticated biometric accepted token ∧
        entries.lookup "biometric_id" = some (.int32 biometric) ∧
        entries.lookup "authenticated" = some (.bool accepted) ∧
        (entries.lookup "token").getD (.list []) = .list (token.map .uint8) := by
  have accepted_iff {accepted : Bool} :
      (required "authenticated" .bool).build .toml (namedFields entries) = .ok accepted ↔
        entries.lookup "authenticated" = some (.bool accepted) :=
    build_required_exact_iff Decoder.isExact_bool fun _ => written.known_of_lookup
  have token_iff {token : List UInt8} :
      (withDefault "token" (.list .uint8) []).build .toml (namedFields entries) = .ok token ↔
        (entries.lookup "token").getD (.list []) = .list (token.map .uint8) :=
    build_withDefault_exact_iff Decoder.isExact_bytes (fun _ => written.known_of_lookup) trivial
  simp only [build_seq_ok_iff, build_map_ok_iff, number_build_iff written, accepted_iff,
    token_iff]
  constructor
  · rintro ⟨_, token, ⟨_, accepted, ⟨biometric, isBiometric, rfl⟩, isAccepted, rfl⟩, isToken,
      rfl⟩
    exact ⟨biometric, accepted, token, rfl, isBiometric, isAccepted, isToken⟩
  · rintro ⟨biometric, accepted, token, rfl, isBiometric, isAccepted, isToken⟩
    exact ⟨_, token, ⟨_, accepted, ⟨biometric, isBiometric, rfl⟩, isAccepted, rfl⟩, isToken, rfl⟩

theorem stop_build_iff :
    (stop <$> withDefault "initiated_by_client" .bool true).build .toml
        (namedFields entries) = .ok event ↔
      ∃ byClient, event = stop byClient ∧
        (entries.lookup "initiated_by_client").getD (.bool true) = .bool byClient := by
  have byClient_iff {byClient : Bool} :
      (withDefault "initiated_by_client" .bool true).build .toml (namedFields entries) =
          .ok byClient ↔
        (entries.lookup "initiated_by_client").getD (.bool true) = .bool byClient :=
    build_withDefault_exact_iff Decoder.isExact_bool (fun _ => written.known_of_lookup) trivial
  simp only [build_map_ok_iff, byClient_iff]
  constructor
  · rintro ⟨byClient, isByClient, rfl⟩
    exact ⟨byClient, rfl, isByClient⟩
  · rintro ⟨byClient, rfl, isByClient⟩
    exact ⟨byClient, isByClient, rfl⟩

/-- What the record of a kind is built as is written in the table that names the
kind. -/
theorem isWrittenIn_of_build {kind title : String} {record : RecordDecoder ScriptEvent}
    (isKind : entries.lookup "kind" = some (.text kind))
    (isVariant : records.lookup kind = some (title, record))
    (built : record.build .toml (namedFields entries) = .ok event) :
    event.IsWrittenIn entries := by
  have isMember := Entries.mem_of_lookup isVariant
  simp only [records, List.mem_cons, Prod.mk.injEq, List.not_mem_nil, or_false] at isMember
  rcases isMember with ⟨rfl, -, rfl⟩ | ⟨rfl, -, rfl⟩ | ⟨rfl, -, rfl⟩ | ⟨rfl, -, rfl⟩ |
    ⟨rfl, -, rfl⟩ | ⟨rfl, -, rfl⟩ | ⟨rfl, -, rfl⟩ | ⟨rfl, -, rfl⟩ | ⟨rfl, -, rfl⟩
  · obtain ⟨info, vendor, rfl, fields⟩ := (acquired_build_iff written).mp built
    exact ⟨isKind, fields⟩
  · obtain ⟨code, vendor, device, rfl, fields⟩ := (error_build_iff written).mp built
    exact ⟨isKind, fields⟩
  · obtain ⟨biometric, remaining, rfl, fields⟩ := (countdown_build_iff written).mp built
    exact ⟨isKind, fields⟩
  · obtain ⟨biometric, accepted, token, rfl, fields⟩ :=
      (authenticated_build_iff written).mp built
    exact ⟨isKind, fields⟩
  · obtain ⟨biometric, remaining, rfl, fields⟩ := (countdown_build_iff written).mp built
    exact ⟨isKind, fields⟩
  · obtain ⟨biometric, remaining, rfl, fields⟩ := (countdown_build_iff written).mp built
    exact ⟨isKind, fields⟩
  · obtain ⟨byClient, rfl, field⟩ := (stop_build_iff written).mp built
    exact ⟨isKind, field⟩
  · obtain rfl := Except.ok.inj built
    exact isKind
  · obtain rfl := Except.ok.inj built
    exact isKind

/-- The table in which an event is written names a kind whose record is built as
that event. -/
theorem exists_build_of_isWrittenIn (isWritten : event.IsWrittenIn entries) :
    ∃ kind title record, entries.lookup "kind" = some (.text kind) ∧
      records.lookup kind = some (title, record) ∧
      record.build .toml (namedFields entries) = .ok event := by
  cases event with
  | acquired info vendor =>
      exact ⟨_, _, _, isWritten.1, rfl,
        (acquired_build_iff written).mpr ⟨info, vendor, rfl, isWritten.2⟩⟩
  | error code vendor device =>
      exact ⟨_, _, _, isWritten.1, rfl,
        (error_build_iff written).mpr ⟨code, vendor, device, rfl, isWritten.2⟩⟩
  | authenticated biometric accepted token =>
      exact ⟨_, _, _, isWritten.1, rfl,
        (authenticated_build_iff written).mpr ⟨biometric, accepted, token, rfl, isWritten.2⟩⟩
  | enrollResult biometric remaining | removed biometric remaining
  | enumerated biometric remaining =>
      exact ⟨_, _, _, isWritten.1, rfl,
        (countdown_build_iff written).mpr ⟨biometric, remaining, rfl, isWritten.2⟩⟩
  | stop byClient =>
      exact ⟨_, _, _, isWritten.1, rfl,
        (stop_build_iff written).mpr ⟨byClient, rfl, isWritten.2⟩⟩
  | clientDied | destroy => exact ⟨_, _, _, isWritten, rfl, rfl⟩

/-- An event is decoded from just the tables in which it is written. -/
theorem decoder_ok_iff (distinct : (Data.table entries).HasDistinctNames) :
    decoder .toml (.table entries) = .ok event ↔ event.IsWrittenIn entries := by
  refine (tagged_builds_iff records_heed distinct.names).trans ⟨?_, ?_⟩
  · rintro ⟨kind, title, record, isKind, isVariant, built⟩
    exact isWrittenIn_of_build written isKind isVariant built
  · exact exists_build_of_isWrittenIn written

end Decoding

end ScriptEvent

namespace ReplayScript

/-- The tables of a script that stand for its events. -/
def eventItems (entries : List (String × Data)) : List Data :=
  match entries.lookup "event" with
  | some (.list items) | some (.tables items) => items
  | _ => []

theorem within_of_mem_eventItems {entries : List (String × Data)} {item : Data}
    (isItem : item ∈ eventItems entries) : item.Within (.table entries) := by
  unfold eventItems at isItem
  split at isItem
  · rename_i items given
    exact Data.Within.trans (.item (.self item) isItem) (Data.within_of_lookup given)
  · rename_i items given
    exact Data.Within.trans (.table (.self item) isItem) (Data.within_of_lookup given)
  · cases isItem

theorem events_decoded {entries : List (String × Data)}
    (distinct : (Data.table entries).HasDistinctNames) {script : ReplayScript}
    (decoded : decoder .toml (.table entries) = .ok script) :
    List.Forall₂ (fun item event => ScriptEvent.decoder .toml item = .ok event)
      (eventItems entries) script.events := by
  have built := (record_heeds.thorough.ofFields_ok_iff distinct.names).mp decoded
  obtain ⟨_, events, withListener, isEvents, rfl⟩ := build_seq_ok_iff.mp built
  obtain ⟨_, listener, withHal, -, rfl⟩ := build_seq_ok_iff.mp withListener
  obtain ⟨_, hal, withSession, -, rfl⟩ := build_seq_ok_iff.mp withHal
  obtain ⟨session, -, rfl⟩ := build_map_ok_iff.mp withSession
  rcases build_withDefault_ok_iff.mp isEvents with ⟨data, given, decoded⟩ | ⟨absent, rfl⟩
  · obtain ⟨items, rfl | rfl, each⟩ := Decoder.list_ok_iff.mp decoded <;>
      simpa only [eventItems, given] using each
  · simp [eventItems, absent]

/-- Configurations and scripts are read the same however their tables are
ordered and whatever other entries they have.  The events of a script are its
event tables, one for each and in their order; an event is read from just the
tables that name its kind and give its values under the names declared for the
kind. -/
theorem reading_goes_by_names :
    (∀ data other, Data.ReadsAlike MonitorConfig.outline data other → ∀ config,
      MonitorConfig.decoder .toml data = .ok config ↔
        MonitorConfig.decoder .toml other = .ok config) ∧
      (∀ data other, Data.ReadsAlike outline data other → ∀ script,
        decoder .toml data = .ok script ↔ decoder .toml other = .ok script) ∧
      ∀ entries, (Data.table entries).IsWritten .toml →
        (Data.table entries).HasDistinctNames →
        (∀ event, ScriptEvent.decoder .toml (.table entries) = .ok event ↔
          event.IsWrittenIn entries) ∧
        ∀ script, decoder .toml (.table entries) = .ok script →
          (∀ item ∈ eventItems entries, ∃ parts, item = .table parts) →
          List.Forall₂ (fun item event => ∃ parts, item = .table parts ∧ event.IsWrittenIn parts)
            (eventItems entries) script.events := by
  refine ⟨fun data other alike => MonitorConfig.decoder_heeds.readsAlike alike,
    fun data other alike => decoder_heeds.readsAlike alike, ?_⟩
  intro entries written distinct
  refine ⟨fun event => ScriptEvent.decoder_ok_iff written distinct, ?_⟩
  intro script decoded tables
  obtain ⟨sameLength, each⟩ := List.forall₂_iff_zip.mp (events_decoded distinct decoded)
  refine List.forall₂_iff_zip.mpr ⟨sameLength, fun {item event} isPair => ?_⟩
  have isItem := (List.of_mem_zip isPair).1
  have inside := within_of_mem_eventItems isItem
  obtain ⟨parts, rfl⟩ := tables item isItem
  exact ⟨parts, rfl, (ScriptEvent.decoder_ok_iff (written.within inside)
    (distinct.within inside)).mp (each isPair)⟩

/-- A script whose title nobody asks for is read as the same script without it,
in another order. -/
theorem reading_goes_by_names_past_title :
    let session : Data := .table [("variant", .text "remove")]
    let events : Data :=
      .tables
        [.table [("info", .integer 1), ("note", .bool true), ("kind", .text "acquired")],
          .table [("kind", .text "client_died"), ("info", .text "none")]]
    let short : List (String × Data) := [("session", session), ("event", events)]
    let titled : List (String × Data) :=
      [("event", events), ("title", .text "demo"), ("session", session)]
    Data.ReadsAlike outline (.table short) (.table titled) ∧
      ∃ script, decoder .toml (.table titled) = .ok script ∧
        script.events = [.acquired 1 0, .clientDied] ∧
        List.Forall₂ (fun item event => ∃ parts, item = .table parts ∧ event.IsWrittenIn parts)
          (eventItems titled) script.events := by
  intro session events short titled
  have distinctShort : (Data.table short).HasDistinctNames := by
    simp [short, session, events]
  have distinctTitled : (Data.table titled).HasDistinctNames := by
    simp [titled, session, events]
  have distinctBetween :
      (Data.table [("event", events), ("session", session)]).HasDistinctNames := by
    simp [session, events]
  have written : (Data.table titled).IsWritten .toml := by
    simp [titled, session, events, Data.Known]
  have ignored : outline.Ignores [("event", events), ("session", session)] "title" := rfl
  have alike : Data.ReadsAlike outline (.table short) (.table titled) :=
    .trans _ _ _ (.rel _ _ ⟨.order (.swap _ _ _), distinctShort, distinctBetween⟩)
      (.rel _ _ ⟨.addition [("event", events)] [("session", session)] (.text "demo") ignored,
        distinctBetween, distinctTitled⟩)
  obtain ⟨-, scripts, tables⟩ := reading_goes_by_names
  have decodedShort : ∃ script, decoder .toml (.table short) = .ok script ∧
      script.events = [.acquired 1 0, .clientDied] := ⟨_, by rfl, by rfl⟩
  obtain ⟨script, isScript, areEvents⟩ := decodedShort
  have decoded := (scripts _ _ alike script).mp isScript
  exact ⟨alike, script, decoded, areEvents, (tables titled written distinctTitled).2 script decoded
    (by simp [eventItems, titled, events])⟩

end ReplayScript

end BiometricSession
