import BiometricSession.Haptics
import BiometricSession.Session.Notice

/-!
# Effects of a session

Everything that a session does to the world around it, together with the
answer it got: calls of the hardware, deliveries to the client's listener,
records for the metrics, vibrations, signs of user activity, the removal of
its death link, and notices.  A collaborator may also break a call off.
-/

namespace BiometricSession

/-- A collaborator that broke off a call. -/
inductive Crash where
  | listener
  | halStart
  | halStop
  deriving DecidableEq, Repr

namespace Crash

def name : Crash → String
  | listener => "listener"
  | halStart => "hal start"
  | halStop => "hal stop"

end Crash

/-- How the hardware answers a call. -/
inductive HalAnswer where
  /-- Zero accepts the call; every other code is the driver's error. -/
  | status (code : Int32)
  /-- The hardware breaks off the call that it was going to answer so. -/
  | crash (code : Int32)
  deriving DecidableEq, Repr

namespace HalAnswer

/-- The code that was or would have been answered. -/
def code : HalAnswer → Int32
  | status code | crash code => code

end HalAnswer

/-- How the client's listener answers a delivery. -/
inductive DeliveryAnswer where
  | sent
  | refused (error : DeliveryError)
  | crash
  deriving DecidableEq, Repr

/-- Something that a session does to the world around it. -/
inductive Effect where
  | halStart (descriptor : SessionDescriptor) (request : HalRequest) (answer : HalAnswer)
  | halStop (byClient : Bool) (answer : HalAnswer)
  | delivery (event : ListenerEvent) (answer : DeliveryAnswer)
  | acquiredMetric (kind : ClientKind) (info vendor user : Int32)
  | errorMetric (kind : ClientKind) (error vendor user : Int32)
  | vibration (effect : HapticEffect) (usage : HapticUsage)
  | userActivity (user : Int32)
  /-- The session asks its token to remove its link. -/
  | unlink (token link : Nat) (refusal : Option TokenError)
  /-- A diagnostic action shows what it can see of the session. -/
  | probed (listening : Bool) (logTag owner : String) (vendorCode : Int32)
  /-- A diagnostic action shows what came of its delivery. -/
  | probeSent (failure : Option DeliveryError)
  | notice (notice : Notice)
  deriving DecidableEq, Repr

namespace Effect

/-- Whether the hardware is asked to start. -/
def asksStart : Effect → Bool
  | halStart .. => true
  | _ => false

/-- Whether the hardware is asked to stop. -/
def asksStop : Effect → Bool
  | halStop .. => true
  | _ => false

def attempt? : Effect → Option ListenerEvent
  | delivery event _ => some event
  | _ => none

def attempts (effects : List Effect) : List ListenerEvent :=
  effects.filterMap attempt?

/-- The raw hardware event that an effect records, as a log record. -/
def metricsRecord? : Effect → Option LogRecord
  | acquiredMetric kind info vendor user =>
      some (.metrics .debug ("acquired action=" ++ kind.name ++ " info=" ++ inspect info ++
        " vendor=" ++ inspect vendor ++ " user=" ++ inspect user))
  | errorMetric kind error vendor user =>
      some (.metrics .info ("error action=" ++ kind.name ++ " error=" ++ inspect error ++
        " vendor=" ++ inspect vendor ++ " user=" ++ inspect user))
  | _ => none

end Effect

end BiometricSession
