import BiometricSession.AcquireFilter
import BiometricSession.Action.Builtin
import BiometricSession.Descriptor.Encoding
import BiometricSession.Toml.Document
import BiometricSession.Toml.Printer

/-!
# Configuration

What can be configured about sessions: the hardware they run on, which
acquisitions each kind of session keeps back, the time an enrollment may take,
how many rejections lead to a lockout, and what users feel who have set no
preference.  Everything has a default.  A configuration is written as TOML and
read back as the same configuration.
-/

namespace BiometricSession

/-- Configuration of enrollments. -/
structure EnrollConfig where
  acquireIgnorelist : List Int32
  vendorIgnorelist : List Int32
  timeoutSeconds : UInt32
  deriving DecidableEq, Repr

/-- Configuration of authentications. -/
structure AuthenticateConfig where
  acquireIgnorelist : List Int32
  vendorIgnorelist : List Int32
  /-- How many rejections lead to a lockout; zero for no lockout at all. -/
  maxFailedAttempts : UInt32
  deriving DecidableEq, Repr

/-- What stands in for the preferences that users have not set. -/
structure HapticsConfig where
  successDefault : Bool
  errorDefault : Bool
  deriving DecidableEq, Repr

/-- The whole configuration. -/
structure MonitorConfig where
  modality : Modality
  enroll : EnrollConfig
  authenticate : AuthenticateConfig
  haptics : HapticsConfig
  deriving DecidableEq, Repr

namespace EnrollConfig

/-- An enrollment hears of everything and takes at most a minute. -/
def standard : EnrollConfig :=
  ⟨[], [], 60⟩

def record : RecordDecoder EnrollConfig :=
  EnrollConfig.mk
    <$> .withDefault "acquire_ignorelist" (.list .int32) standard.acquireIgnorelist
    <*> .withDefault "vendor_ignorelist" (.list .int32) standard.vendorIgnorelist
    <*> .withDefault "timeout_secs" .uint32 standard.timeoutSeconds

def encode (config : EnrollConfig) : Data :=
  .table
    [("acquire_ignorelist", .list (config.acquireIgnorelist.map .int32)),
      ("vendor_ignorelist", .list (config.vendorIgnorelist.map .int32)),
      ("timeout_secs", .uint32 config.timeoutSeconds)]

end EnrollConfig

namespace AuthenticateConfig

/-- An authentication hears of everything and allows five attempts. -/
def standard : AuthenticateConfig :=
  ⟨[], [], 5⟩

def record : RecordDecoder AuthenticateConfig :=
  AuthenticateConfig.mk
    <$> .withDefault "acquire_ignorelist" (.list .int32) standard.acquireIgnorelist
    <*> .withDefault "vendor_ignorelist" (.list .int32) standard.vendorIgnorelist
    <*> .withDefault "max_failed_attempts" .uint32 standard.maxFailedAttempts

def encode (config : AuthenticateConfig) : Data :=
  .table
    [("acquire_ignorelist", .list (config.acquireIgnorelist.map .int32)),
      ("vendor_ignorelist", .list (config.vendorIgnorelist.map .int32)),
      ("max_failed_attempts", .uint32 config.maxFailedAttempts)]

end AuthenticateConfig

namespace HapticsConfig

/-- Users feel everything unless they have turned it off. -/
def standard : HapticsConfig :=
  ⟨true, true⟩

def record : RecordDecoder HapticsConfig :=
  HapticsConfig.mk
    <$> .withDefault "success_default" .bool standard.successDefault
    <*> .withDefault "error_default" .bool standard.errorDefault

def encode (config : HapticsConfig) : Data :=
  .table
    [("success_default", .bool config.successDefault),
      ("error_default", .bool config.errorDefault)]

end HapticsConfig

namespace MonitorConfig

/-- The configuration in which everything has its default. -/
def standard : MonitorConfig :=
  ⟨.fingerprint, .standard, .standard, .standard⟩

def record : RecordDecoder MonitorConfig :=
  MonitorConfig.mk
    <$> .withDefault "modality" Modality.decoder standard.modality
    <*> .withDefault "enroll" (EnrollConfig.record.decoder "struct EnrollConfig")
          standard.enroll
    <*> .withDefault "authenticate"
          (AuthenticateConfig.record.decoder "struct AuthenticateConfig")
          standard.authenticate
    <*> .withDefault "haptics" (HapticsConfig.record.decoder "struct HapticsConfig")
          standard.haptics

def decoder : Decoder MonitorConfig :=
  record.decoder "struct MonitorConfig"

def encode (config : MonitorConfig) : Data :=
  .table
    [("modality", config.modality.encode),
      ("enroll", config.enroll.encode),
      ("authenticate", config.authenticate.encode),
      ("haptics", config.haptics.encode)]

def printCodes (codes : List Int32) : List Char :=
  Toml.printIntegers (codes.map Int32.toInt)

def printAmount (amount : UInt32) : List Char :=
  Decimal.digits amount.toNat

/-- The text of a configuration, defaults and all. -/
def toToml (config : MonitorConfig) : String :=
  String.ofList
    (Toml.printEntry "modality" (Toml.printPlain config.modality.name) ++
      Toml.printHeader "enroll" ++
      Toml.printEntry "acquire_ignorelist" (printCodes config.enroll.acquireIgnorelist) ++
      Toml.printEntry "vendor_ignorelist" (printCodes config.enroll.vendorIgnorelist) ++
      Toml.printEntry "timeout_secs" (printAmount config.enroll.timeoutSeconds) ++
      Toml.printHeader "authenticate" ++
      Toml.printEntry "acquire_ignorelist" (printCodes config.authenticate.acquireIgnorelist) ++
      Toml.printEntry "vendor_ignorelist" (printCodes config.authenticate.vendorIgnorelist) ++
      Toml.printEntry "max_failed_attempts" (printAmount config.authenticate.maxFailedAttempts) ++
      Toml.printHeader "haptics" ++
      Toml.printEntry "success_default" (Toml.printBool config.haptics.successDefault) ++
      Toml.printEntry "error_default" (Toml.printBool config.haptics.errorDefault))

def enrollFilter (config : MonitorConfig) : AcquireFilter :=
  ⟨config.modality.vendorCode, config.enroll.acquireIgnorelist, config.enroll.vendorIgnorelist⟩

def authenticateFilter (config : MonitorConfig) : AcquireFilter :=
  ⟨config.modality.vendorCode, config.authenticate.acquireIgnorelist,
    config.authenticate.vendorIgnorelist⟩

def enrollment (config : MonitorConfig) (authToken : List UInt8) : Enrollment :=
  ⟨authToken, config.enroll.timeoutSeconds, config.enrollFilter⟩

def authentication (config : MonitorConfig) (operation : UInt64) : Authentication :=
  .fresh operation config.authenticateFilter config.authenticate.maxFailedAttempts

end MonitorConfig

end BiometricSession
