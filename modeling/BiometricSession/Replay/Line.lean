import BiometricSession.Data.Value
import BiometricSession.Haptics
import BiometricSession.Json.Printer
import BiometricSession.Session.Event

/-!
# Replay lines

A replay shows what the session did, one line a step, for people to read or as
JSON.  A line shows neither the group and the name of a template nor the bytes
of a token.
-/

namespace BiometricSession

/-- An event that was passed on to the client, as far as a line shows it. -/
inductive Delivery where
  | acquired (device : UInt64) (info vendor : Int32)
  | error (device : UInt64) (error vendor cookie : Int32)
  | enrollResult (biometric remaining : Int32)
  | authenticationSucceeded (biometric : Int32) (tokenLength : Nat)
  | authenticationFailed (device : UInt64)
  | removed (biometric remaining : Int32)
  | enumerated (biometric remaining : Int32)
  deriving DecidableEq, Repr

namespace Delivery

/-- What a line shows of an event. -/
def ofEvent : ListenerEvent → Delivery
  | .acquired device info vendor => acquired device info vendor
  | .error device code vendor cookie => error device code vendor cookie
  | .enrollResult identifier remaining => enrollResult identifier.biometric remaining
  | .authenticationSucceeded identifier token =>
      authenticationSucceeded identifier.biometric token.length
  | .authenticationFailed device => authenticationFailed device
  | .removed identifier remaining => removed identifier.biometric remaining
  | .enumerated identifier remaining => enumerated identifier.biometric remaining

def text : Delivery → String
  | acquired device info vendor =>
      "acquired(device=" ++ inspect device ++ ", info=" ++ inspect info ++ ", vendor=" ++
        inspect vendor ++ ")"
  | error device code vendor cookie =>
      "error(device=" ++ inspect device ++ ", error=" ++ inspect code ++ ", vendor=" ++
        inspect vendor ++ ", cookie=" ++ inspect cookie ++ ")"
  | enrollResult biometric remaining =>
      "enroll_result(id=" ++ inspect biometric ++ ", remaining=" ++ inspect remaining ++ ")"
  | authenticationSucceeded biometric tokenLength =>
      "authentication_succeeded(id=" ++ inspect biometric ++ ", token=" ++
        inspect tokenLength ++ " bytes)"
  | authenticationFailed device => "authentication_failed(device=" ++ inspect device ++ ")"
  | removed biometric remaining =>
      "removed(id=" ++ inspect biometric ++ ", remaining=" ++ inspect remaining ++ ")"
  | enumerated biometric remaining =>
      "enumerated(id=" ++ inspect biometric ++ ", remaining=" ++ inspect remaining ++ ")"

def encode : Delivery → Data
  | acquired device info vendor =>
      .table
        [("name", .text "acquired"), ("device_id", .uint64 device), ("info", .int32 info),
          ("vendor", .int32 vendor)]
  | error device code vendor cookie =>
      .table
        [("name", .text "error"), ("device_id", .uint64 device), ("error", .int32 code),
          ("vendor", .int32 vendor), ("cookie", .int32 cookie)]
  | enrollResult biometric remaining =>
      .table
        [("name", .text "enroll_result"), ("biometric_id", .int32 biometric),
          ("remaining", .int32 remaining)]
  | authenticationSucceeded biometric tokenLength =>
      .table
        [("name", .text "authentication_succeeded"), ("biometric_id", .int32 biometric),
          ("token_len", .integer tokenLength)]
  | authenticationFailed device =>
      .table [("name", .text "authentication_failed"), ("device_id", .uint64 device)]
  | removed biometric remaining =>
      .table
        [("name", .text "removed"), ("biometric_id", .int32 biometric),
          ("remaining", .int32 remaining)]
  | enumerated biometric remaining =>
      .table
        [("name", .text "enumerated"), ("biometric_id", .int32 biometric),
          ("remaining", .int32 remaining)]

end Delivery

/-- A request of the client that the session answers with a status. -/
inductive ReplayRequest where
  | start
  | stop
  deriving DecidableEq, Repr

namespace ReplayRequest

def name : ReplayRequest → String
  | start => "start"
  | stop => "stop"

end ReplayRequest

/-- One step of a replay that is shown. -/
inductive ReplayLine where
  | halStart (kind : ClientKind) (code : Int32)
  | halStop (byClient : Bool) (code : Int32)
  | delivered (event : Delivery)
  | deliveryFailed (event : Delivery)
  | haptic (effect : HapticEffect)
  | userActivity (user : Int32)
  | verdict (callback : Callback) (finished : Bool)
  | status (request : ReplayRequest) (code : Int32)
  | clientDied (notified : Nat)
  | destroyed
  deriving DecidableEq, Repr

namespace ReplayLine

/-- What a line says about the end of the session. -/
def verdictText : Bool → String
  | true => "finished"
  | false => "continue"

def text : ReplayLine → String
  | halStart kind code => "hal start " ++ kind.name ++ " -> " ++ inspect code
  | halStop byClient code =>
      "hal stop (client=" ++ inspect byClient ++ ") -> " ++ inspect code
  | delivered event => "  > " ++ event.text
  | deliveryFailed event => "  x " ++ event.text ++ " (channel broken)"
  | haptic effect => "  ~ haptic " ++ inspect effect
  | userActivity user => "  ~ user activity for user " ++ inspect user
  | verdict callback finished => callback.name ++ " -> " ++ verdictText finished
  | status request code => request.name ++ " -> " ++ inspect code
  | clientDied notified => "client died (" ++ inspect notified ++ " recipient(s) notified)"
  | destroyed => "destroyed"

def encode : ReplayLine → Data
  | halStart kind code =>
      .table
        [("type", .text "hal_start"), ("request", .text kind.name), ("status", .int32 code)]
  | halStop byClient code =>
      .table
        [("type", .text "hal_stop"), ("initiated_by_client", .bool byClient),
          ("status", .int32 code)]
  | delivered event => .table [("type", .text "delivered"), ("event", event.encode)]
  | deliveryFailed event => .table [("type", .text "delivery_failed"), ("event", event.encode)]
  | haptic effect => .table [("type", .text "haptic"), ("effect", .text (inspect effect))]
  | userActivity user => .table [("type", .text "user_activity"), ("user_id", .int32 user)]
  | verdict callback finished =>
      .table
        [("type", .text "verdict"), ("callback", .text callback.name),
          ("finished", .bool finished)]
  | status request code =>
      .table
        [("type", .text "status"), ("operation", .text request.name), ("status", .int32 code)]
  | clientDied notified =>
      .table [("type", .text "client_died"), ("notified", .integer notified)]
  | destroyed => .table [("type", .text "destroyed")]

end ReplayLine

/-- How the lines of a replay are written. -/
inductive OutputFormat where
  /-- For people to read. -/
  | text
  /-- One JSON object a line. -/
  | json
  deriving DecidableEq, Repr

namespace OutputFormat

def name : OutputFormat → String
  | text => "text"
  | json => "json"

def ofName? (name : String) : Option OutputFormat :=
  [text, json].find? (·.name == name)

def write : OutputFormat → ReplayLine → String
  | text, line => line.text
  | json, line => Json.print line.encode

end OutputFormat

end BiometricSession
