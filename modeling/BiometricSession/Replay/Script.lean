import BiometricSession.Config.File

/-!
# Replay scripts

A script describes one session and what happens to it: the session itself, how
the hardware and the listener answer, and the events in order.  Scripts are
written in TOML.
-/

namespace BiometricSession

/-- The session that a script describes. -/
structure SessionSpec where
  kind : ClientKind
  user : Int32
  group : Int32
  restricted : Bool
  owner : String
  cookie : Int32
  device : UInt64
  /-- Only an authentication has one. -/
  operation : UInt64
  /-- Only a removal has one; zero stands for the whole group. -/
  biometric : Int32
  /-- Only an enrollment has one. -/
  authToken : List UInt8
  /-- Whether the session watches its client for death. -/
  withToken : Bool
  deriving DecidableEq, Repr

/-- How the hardware answers throughout a script. -/
structure HalSpec where
  startStatus : Int32
  stopStatus : Int32
  deriving DecidableEq, Repr

/-- How the listener answers throughout a script. -/
structure ListenerSpec where
  /-- After so many deliveries the channel breaks. -/
  failAfter : Option Nat
  deriving DecidableEq, Repr

/-- One event of a script. -/
inductive ScriptEvent where
  | acquired (info vendor : Int32)
  /-- Without a device the session's own is meant. -/
  | error (error vendor : Int32) (device : Option UInt64)
  | enrollResult (biometric remaining : Int32)
  | authenticated (biometric : Int32) (accepted : Bool) (token : List UInt8)
  | removed (biometric remaining : Int32)
  | enumerated (biometric remaining : Int32)
  | stop (byClient : Bool)
  | clientDied
  | destroy
  deriving DecidableEq, Repr

/-- A session and what happens to it. -/
structure ReplayScript where
  session : SessionSpec
  hal : HalSpec
  listener : ListenerSpec
  events : List ScriptEvent
  deriving DecidableEq, Repr

namespace SessionSpec

/-- The fields of a session; only its kind must be there. -/
def record : RecordDecoder SessionSpec :=
  SessionSpec.mk
    <$> .required "variant" ClientKind.decoder
    <*> .withDefault "user_id" .int32 0
    <*> .withDefault "group_id" .int32 0
    <*> .withDefault "restricted" .bool false
    <*> .withDefault "owner" .text "biomon.replay"
    <*> .withDefault "cookie" .int32 0
    <*> .withDefault "device_id" .uint64 1
    <*> .withDefault "operation_id" .uint64 0
    <*> .withDefault "biometric_id" .int32 0
    <*> .withDefault "hardware_auth_token" (.list .uint8) []
    <*> .withDefault "with_token" .bool true

end SessionSpec

namespace HalSpec

/-- Hardware that accepts everything. -/
def standard : HalSpec :=
  ⟨0, 0⟩

/-- The answers of the hardware. -/
def record : RecordDecoder HalSpec :=
  HalSpec.mk <$> .withDefault "start_status" .int32 0 <*> .withDefault "stop_status" .int32 0

end HalSpec

namespace ListenerSpec

/-- A listener that never fails. -/
def standard : ListenerSpec :=
  ⟨none⟩

/-- The answers of the listener. -/
def record : RecordDecoder ListenerSpec :=
  ListenerSpec.mk <$> .optional "fail_after" .count

end ListenerSpec

namespace ScriptEvent

/-- The fields of each event, by the name of its kind. -/
def records : List (String × String × RecordDecoder ScriptEvent) :=
  [("acquired", "struct variant ScriptEvent::Acquired",
      acquired <$> .required "info" .int32 <*> .withDefault "vendor" .int32 0),
    ("error", "struct variant ScriptEvent::Error",
      error <$> .required "error" .int32 <*> .withDefault "vendor" .int32 0
        <*> .optional "device_id" .uint64),
    ("enroll_result", "struct variant ScriptEvent::EnrollResult",
      enrollResult <$> .required "biometric_id" .int32 <*> .required "remaining" .int32),
    ("authenticated", "struct variant ScriptEvent::Authenticated",
      authenticated <$> .required "biometric_id" .int32 <*> .required "authenticated" .bool
        <*> .withDefault "token" (.list .uint8) []),
    ("removed", "struct variant ScriptEvent::Removed",
      removed <$> .required "biometric_id" .int32 <*> .required "remaining" .int32),
    ("enumerated", "struct variant ScriptEvent::Enumerated",
      enumerated <$> .required "biometric_id" .int32 <*> .required "remaining" .int32),
    ("stop", "struct variant ScriptEvent::Stop",
      stop <$> .withDefault "initiated_by_client" .bool true),
    ("client_died", "unit variant ScriptEvent::ClientDied", pure clientDied),
    ("destroy", "unit variant ScriptEvent::Destroy", pure destroy)]

def decoder : Decoder ScriptEvent :=
  RecordDecoder.tagged "internally tagged enum ScriptEvent" "kind" records

end ScriptEvent

namespace ReplayScript

/-- The parts of a script; only the session must be there. -/
def record : RecordDecoder ReplayScript :=
  ReplayScript.mk
    <$> .required "session" (SessionSpec.record.decoder "struct SessionSpec")
    <*> .withDefault "hal" (HalSpec.record.decoder "struct HalSpec") .standard
    <*> .withDefault "listener" (ListenerSpec.record.decoder "struct ListenerSpec") .standard
    <*> .withDefault "event" (.list ScriptEvent.decoder) []

def decoder : Decoder ReplayScript :=
  record.decoder "struct ReplayScript"

def parse (content : String) : Except LoadError ReplayScript :=
  loadText decoder .invalidScript content

/-- Read a script from a file, which must be there. -/
def load (path : String) : FileContent → Except LoadError ReplayScript
  | .text content => (parse content).mapError (·.within (.parsingScript path))
  | .absent | .unreadable => .error ⟨[.readingScript path], .unreadable⟩

end ReplayScript

end BiometricSession
