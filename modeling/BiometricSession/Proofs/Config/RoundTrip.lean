import BiometricSession.CommandLine.Run
import BiometricSession.Proofs.Config.Decoding
import BiometricSession.Proofs.Toml.Document

/-!
# Configurations and their text

The text of a configuration is that of a plain document, and the data of the
document is what the configuration is encoded as.  So the text is read back as
the same configuration, also from a file that holds what the program printed.
-/

namespace BiometricSession

open Toml

/-! ## Entries -/

theorem fitsInteger_int32 (code : Int32) : FitsInteger code.toInt := by
  have lower := code.le_toInt
  have upper := code.toInt_lt
  exact fitsInteger_of_bounds (by omega) (by omega)

theorem fitsInteger_uint32 (amount : UInt32) : FitsInteger amount.toNat := by
  have upper := amount.toNat_lt
  exact fitsInteger_of_bounds (by omega) (by omega)

theorem itemsOfValues_integers (values : List Int) :
    itemsOfValues (values.map integerValue) = some (values.map .integer) := by
  induction values with
  | nil => rfl
  | cons value values ih => simp [itemsOfValues, integerValue, Value.data, ih]

namespace Toml.PlainEntry

def codes (name : String) (bare : IsBareName name) (values : List Int32) : PlainEntry where
  name := name
  text := MonitorConfig.printCodes values
  content := .list ((values.map Int32.toInt).map integerValue)
  data := .list (values.map .int32)
  bare := bare
  denotes := denotes_printIntegers (by simp [fitsInteger_int32])
  stands := by
    rw [Value.data, itemsOfValues_integers]
    simp [Function.comp_def, Data.int32]

def amount (name : String) (bare : IsBareName name) (value : UInt32) : PlainEntry where
  name := name
  text := MonitorConfig.printAmount value
  content := integerValue value.toNat
  data := .uint32 value
  bare := bare
  denotes := denotes_digits (fitsInteger_uint32 value)
  stands := rfl

def choice (name : String) (bare : IsBareName name) (value : Bool) : PlainEntry where
  name := name
  text := printBool value
  content := .scalar (.bool value)
  data := .bool value
  bare := bare
  denotes := denotes_printBool value
  stands := rfl

def modality (value : Modality) : PlainEntry where
  name := "modality"
  text := printPlain value.name
  content := .scalar (.text value.name)
  data := value.encode
  bare := by decide
  denotes := by
    cases value <;> exact denotes_printPlain (by decide) (by decide)
  stands := rfl

end Toml.PlainEntry

namespace MonitorConfig

/-- The document that the text of a configuration writes down. -/
def document (config : MonitorConfig) : PlainDocument where
  entries := [.modality config.modality]
  tables :=
    [⟨"enroll",
      [.codes "acquire_ignorelist" (by decide) config.enroll.acquireIgnorelist,
        .codes "vendor_ignorelist" (by decide) config.enroll.vendorIgnorelist,
        .amount "timeout_secs" (by decide) config.enroll.timeoutSeconds],
      by decide⟩,
    ⟨"authenticate",
      [.codes "acquire_ignorelist" (by decide) config.authenticate.acquireIgnorelist,
        .codes "vendor_ignorelist" (by decide) config.authenticate.vendorIgnorelist,
        .amount "max_failed_attempts" (by decide) config.authenticate.maxFailedAttempts],
      by decide⟩,
    ⟨"haptics",
      [.choice "success_default" (by decide) config.haptics.successDefault,
        .choice "error_default" (by decide) config.haptics.errorDefault],
      by decide⟩]

theorem document_isDistinct (config : MonitorConfig) : config.document.IsDistinct where
  names := by simp [document, PlainEntry.modality]
  tableNames := by
    simp [document, PlainEntry.codes, PlainEntry.amount, PlainEntry.choice]

theorem document_data (config : MonitorConfig) : config.document.data = config.encode :=
  rfl

theorem toToml_eq_printed (config : MonitorConfig) :
    config.toToml = String.ofList config.document.printed := by
  simp [toToml, document, PlainDocument.printed, PlainTable.printed, PlainEntry.printed,
    PlainEntry.modality, PlainEntry.codes, PlainEntry.amount, PlainEntry.choice]

theorem read_toToml (config : MonitorConfig) : Toml.read config.toToml = some config.encode := by
  rw [toToml_eq_printed, ← document_data]
  exact PlainDocument.read_printed config.document_isDistinct

theorem read_toToml_newline (config : MonitorConfig) :
    Toml.read (config.toToml ++ "\n") = some config.encode := by
  have joined : config.toToml ++ "\n" = String.ofList (config.document.printed ++ ['\n']) := by
    rw [toToml_eq_printed, String.ofList_append]
  rw [joined, ← document_data]
  exact PlainDocument.read_printed_newline config.document_isDistinct

theorem parse_of_read {config : MonitorConfig} {text : String}
    (reads : Toml.read text = some config.encode) : parse text = .ok config := by
  simp [parse, loadText, reads, config.decoder_encode]

end MonitorConfig

/-! ## Printing and loading -/

/-- What a run leaves on the standard output: each line with its end. -/
def Outcome.printed (outcome : Outcome) : String :=
  String.join (outcome.output.map (· ++ "\n"))

/-- The content of a file to which a text was written. -/
def FileContent.ofText (text : String) : FileContent :=
  .ofBytes text.toByteArray.data.toList

theorem FileContent.ofText_eq (content : String) : ofText content = .text content := by
  have valid : content.toByteArray.IsValidUTF8 := content.isValidUTF8
  have decodes : String.fromUTF8? content.toByteArray = some content := by
    rw [String.fromUTF8?, dif_pos valid]
    rfl
  have bytes : content.toByteArray.data.toList.toArray = content.toByteArray.data :=
    Array.toArray_toList
  rw [ofText, ofBytes, bytes]
  simp [decodes]

namespace MonitorConfig

theorem loadConfig_of_parse {config : MonitorConfig} {environment : Environment}
    {path text : String} (holds : environment.file path = .ofText text)
    (parses : parse text = .ok config) :
    environment.loadConfig (some path) = (.ok config, []) ∧
      (environment.defaultConfig = path → environment.loadConfig none = (.ok config, [])) := by
  have loads : load path (.text text) = .ok config := by
    simp [load, parses, Except.mapError]
  rw [FileContent.ofText_eq] at holds
  constructor
  · simp [Environment.loadConfig, holds, loads]
  · rintro rfl
    simp [Environment.loadConfig, loadOrDefault, holds, loads]

theorem printed_checkConfig {config : MonitorConfig} {environment : Environment}
    {given : Option String} {log : List LogRecord}
    (loads : environment.loadConfig given = (.ok config, log)) :
    (environment.execute (.checkConfig given)).status = .success ∧
      (environment.execute (.checkConfig given)).printed = config.toToml ++ "\n" := by
  simp [Environment.execute, loads, Outcome.printed]

/-- The text of a configuration is read back as that configuration, with or
without a line end after it.  So is a file that holds what the program printed
when it checked a configuration, whether the file is asked for by its path or
stands in the usual place, and checking that file prints the same again. -/
theorem text_parses_back (config : MonitorConfig) :
    parse config.toToml = .ok config ∧
      parse (config.toToml ++ "\n") = .ok config ∧
      ∀ (environment : Environment) (given : Option String) (log : List LogRecord),
        environment.loadConfig given = (.ok config, log) →
        let outcome := environment.execute (.checkConfig given)
        outcome.status = .success ∧ outcome.printed = config.toToml ++ "\n" ∧
          ∀ (later : Environment) (path : String), later.file path = .ofText outcome.printed →
            later.loadConfig (some path) = (.ok config, []) ∧
              (later.defaultConfig = path → later.loadConfig none = (.ok config, [])) ∧
              (later.execute (.checkConfig (some path))).printed = outcome.printed := by
  have ended : parse (config.toToml ++ "\n") = .ok config :=
    parse_of_read config.read_toToml_newline
  refine ⟨parse_of_read config.read_toToml, ended, ?_⟩
  intro environment given log loads outcome
  obtain ⟨succeeds, prints⟩ := printed_checkConfig loads
  refine ⟨succeeds, prints, ?_⟩
  intro later path holds
  have reads : parse outcome.printed = .ok config := by
    rw [show outcome.printed = config.toToml ++ "\n" from prints]
    exact ended
  obtain ⟨byPath, byDefault⟩ := loadConfig_of_parse holds reads
  refine ⟨byPath, byDefault, ?_⟩
  rw [(printed_checkConfig byPath).2]
  exact prints.symm

/-- Lists of no item, of one and of two, with the least and the greatest code
among them: the configuration goes from one file through the program to another
file and stays what it is. -/
theorem text_parses_back_lists :
    let config : MonitorConfig :=
      ⟨.face, ⟨[], [-2147483648], 4294967295⟩, ⟨[7, -1], [2147483647, 0], 0⟩, ⟨true, false⟩⟩
    let around (text : String) : Environment :=
      ⟨fun _ => .ofText text, "biomon/config.toml", ⟨fun _ => false⟩⟩
    let outcome := (around config.toToml).execute (.checkConfig (some "given.toml"))
    (around config.toToml).loadConfig (some "given.toml") = (.ok config, []) ∧
      (around outcome.printed).loadConfig (some "printed.toml") = (.ok config, []) := by
  intro config around outcome
  have holds : ∀ text path, (around text).file path = .ofText text := fun _ _ => rfl
  obtain ⟨parses, -, prints⟩ := text_parses_back config
  have loads := (loadConfig_of_parse (holds config.toToml "given.toml") parses).1
  obtain ⟨-, -, loadsAgain⟩ := prints (around config.toToml) (some "given.toml") [] loads
  exact ⟨loads, (loadsAgain (around outcome.printed) "printed.toml" (holds _ _)).1⟩

end MonitorConfig

end BiometricSession
