import BiometricSession.Descriptor

/-!
# Events of a session

What the hardware reports to a session, and what the session passes on to the
client's listener.
-/

namespace BiometricSession

/-- Why an event could not be delivered to the client. -/
inductive DeliveryError where
  | channelClosed
  | failed (reason : String)
  deriving DecidableEq, Repr

namespace DeliveryError

def message : DeliveryError → String
  | channelClosed => "listener channel closed"
  | failed reason => "listener delivery failed: " ++ reason

instance : Inspect DeliveryError where
  inspect
    | channelClosed => "ChannelClosed"
    | failed reason => "Delivery(" ++ inspect reason ++ ")"

end DeliveryError

/-- An event that a session passes on to the client. -/
inductive ListenerEvent where
  | acquired (device : UInt64) (info vendor : Int32)
  | error (device : UInt64) (error vendor cookie : Int32)
  | enrollResult (identifier : BiometricIdentifier) (remaining : Int32)
  | authenticationSucceeded (identifier : BiometricIdentifier) (token : List UInt8)
  | authenticationFailed (device : UInt64)
  | removed (identifier : BiometricIdentifier) (remaining : Int32)
  | enumerated (identifier : BiometricIdentifier) (remaining : Int32)
  deriving DecidableEq, Repr

namespace ListenerEvent

/-- What a log says if the event could not be delivered. -/
def failureText : ListenerEvent → String
  | acquired .. => "Failed to invoke sendAcquired"
  | error .. => "Failed to invoke sendError"
  | enrollResult .. => "Failed to notify EnrollResult"
  | authenticationSucceeded .. => "Failed to notify Authenticated"
  | authenticationFailed .. => "Failed to notify AuthenticationFailed"
  | removed .. => "Failed to notify Removed"
  | enumerated .. => "Failed to notify Enumerated"

end ListenerEvent

/-- Ways in which the hardware calls a session. -/
inductive Callback where
  | acquired
  | error
  | enrollResult
  | authenticated
  | removed
  | enumerationResult
  deriving DecidableEq, Repr

namespace Callback

def name : Callback → String
  | acquired => "on_acquired"
  | error => "on_error"
  | enrollResult => "on_enroll_result"
  | authenticated => "on_authenticated"
  | removed => "on_removed"
  | enumerationResult => "on_enumeration_result"

end Callback

/-- A result of the operation itself, which only sessions of one kind expect. -/
inductive HardwareResult where
  | enrolled (identifier : BiometricIdentifier) (remaining : Int32)
  | authenticated (identifier : BiometricIdentifier) (accepted : Bool) (token : List UInt8)
  | removed (identifier : BiometricIdentifier) (remaining : Int32)
  | enumerated (identifier : BiometricIdentifier) (remaining : Int32)
  deriving DecidableEq, Repr

namespace HardwareResult

def callback : HardwareResult → Callback
  | enrolled .. => .enrollResult
  | authenticated .. => .authenticated
  | removed .. => .removed
  | enumerated .. => .enumerationResult

end HardwareResult

/-- What the hardware reports to a session. -/
inductive HardwareEvent where
  | acquired (info vendor : Int32)
  | error (device : UInt64) (error vendor : Int32)
  | result (outcome : HardwareResult)
  deriving DecidableEq, Repr

namespace HardwareEvent

def callback : HardwareEvent → Callback
  | acquired .. => .acquired
  | error .. => .error
  | result outcome => outcome.callback

end HardwareEvent

end BiometricSession
