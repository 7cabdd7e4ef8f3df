import BiometricSession.Action.Basic

/-!
# The four actions

Enrolling a new template, authenticating a user, removing templates and
listing them.  Each expects results of its own kind only.  Enrolling, removing
and listing end with the result that leaves nothing remaining; authenticating
ends with the first accepted attempt, or with a lockout once too many attempts
were rejected.  A result that cannot be delivered ends the session as well.
-/

namespace BiometricSession

/-- Enrolls a new template. -/
structure Enrollment where
  authToken : List UInt8
  timeoutSeconds : UInt32
  filter : AcquireFilter
  deriving DecidableEq, Repr

namespace Enrollment

instance : Inspect Enrollment where
  inspect enrollment :=
    Inspect.record "EnrollClient"
      [Inspect.part "hardware_auth_token" (inspect enrollment.authToken),
        Inspect.part "timeout_secs" (inspect enrollment.timeoutSeconds),
        Inspect.part "filter" (inspect enrollment.filter)]

def enrolled (scope : Scope) (identifier : BiometricIdentifier) (remaining : Int32) :
    Call Bool := do
  if identifier.group ≠ scope.setting.descriptor.group then
    Call.note (.foreignGroup identifier.group)
  if remaining = 0 then
    Call.note .enrollmentFinished
  scope.signalSuccess
  let failed ← scope.deliverOrNote (.enrollResult identifier remaining)
  return failed || remaining = 0

end Enrollment

/-- Authenticates a user. -/
structure Authentication where
  operation : UInt64
  filter : AcquireFilter
  /-- How many rejections lead to a lockout; zero for no lockout at all. -/
  maxFailedAttempts : UInt32
  /-- How many attempts were rejected so far. -/
  failedAttempts : UInt32
  deriving DecidableEq, Repr

namespace Authentication

def fresh (operation : UInt64) (filter : AcquireFilter) (maxFailedAttempts : UInt32) :
    Authentication :=
  ⟨operation, filter, maxFailedAttempts, 0⟩

def isLockedOut (authentication : Authentication) : Bool :=
  0 < authentication.maxFailedAttempts &&
    authentication.maxFailedAttempts ≤ authentication.failedAttempts

/-- Count one more rejection.  The count stays at its greatest value. -/
def countRejection (authentication : Authentication) : Authentication :=
  let failedAttempts :=
    if authentication.failedAttempts = UInt32.ofNat (UInt32.size - 1) then
      authentication.failedAttempts
    else
      authentication.failedAttempts + 1
  { authentication with failedAttempts }

/-- An attempt was accepted, which finishes the session. -/
def accepted (scope : Scope) (identifier : BiometricIdentifier) (token : List UInt8) :
    Call Bool := do
  Call.note (.authenticated identifier.biometric)
  scope.signalSuccess
  let _ ← scope.deliverOrNote (.authenticationSucceeded identifier token)
  return true

/-- An attempt was rejected and is counted already.  The client hears of the
rejection, and of the lockout if there were too many. -/
def rejected (scope : Scope) (authentication : Authentication) : Call Bool := do
  Call.note (.rejected authentication.failedAttempts authentication.maxFailedAttempts)
  scope.signalFailure
  let failed ← scope.deliverOrNote (.authenticationFailed scope.device)
  if failed then
    return true
  else if authentication.isLockedOut then
    Call.note .lockedOut
    scope.reportError .authenticate scope.device ErrorCode.lockout 0
    return true
  else
    return false

end Authentication

/-- Removes one template, or every template of the group if the number is
zero. -/
structure Removal where
  biometric : Int32
  deriving DecidableEq, Repr

namespace Removal

instance : Inspect Removal where
  inspect removal :=
    Inspect.record "RemoveClient" [Inspect.part "biometric_id" (inspect removal.biometric)]

def removed (scope : Scope) (identifier : BiometricIdentifier) (remaining : Int32) :
    Call Bool := do
  Call.note (.removed identifier.biometric remaining)
  let failed ← scope.deliverOrNote (.removed identifier remaining)
  return failed || remaining = 0

end Removal

namespace Enumeration

def enumerated (scope : Scope) (identifier : BiometricIdentifier) (remaining : Int32) :
    Call Bool := do
  let failed ← scope.deliverOrNote (.enumerated identifier remaining)
  return failed || remaining = 0

end Enumeration

/-- One of the four actions. -/
inductive BuiltinAction where
  | enroll (enrollment : Enrollment)
  | authenticate (authentication : Authentication)
  | remove (removal : Removal)
  | enumerate
  deriving DecidableEq, Repr

namespace BuiltinAction

def kind : BuiltinAction → ClientKind
  | enroll _ => .enroll
  | authenticate _ => .authenticate
  | remove _ => .remove
  | enumerate => .enumerate

def request : BuiltinAction → HalRequest
  | enroll enrollment => .enroll enrollment.authToken enrollment.timeoutSeconds
  | authenticate authentication => .authenticate authentication.operation
  | remove removal => .remove removal.biometric
  | enumerate => .enumerate

/-- Which acquisitions an action keeps back. -/
def filter : BuiltinAction → Option AcquireFilter
  | enroll enrollment => some enrollment.filter
  | authenticate authentication => some authentication.filter
  | remove _ | enumerate => none

def respond (scope : Scope) : BuiltinAction → HardwareResult → Reaction BuiltinAction
  | enroll enrollment, .enrolled identifier remaining =>
      ⟨enroll enrollment, (Enrollment.enrolled scope identifier remaining).run⟩
  | authenticate authentication, .authenticated identifier true token =>
      ⟨authenticate authentication, (Authentication.accepted scope identifier token).run⟩
  | authenticate authentication, .authenticated _ false _ =>
      let counted := authentication.countRejection
      ⟨authenticate counted, (Authentication.rejected scope counted).run⟩
  | remove removal, .removed identifier remaining =>
      ⟨remove removal, (Removal.removed scope identifier remaining).run⟩
  | enumerate, .enumerated identifier remaining =>
      ⟨enumerate, (Enumeration.enumerated scope identifier remaining).run⟩
  | action, result => HardwareAction.unexpected action action.kind result

instance : HardwareAction BuiltinAction where
  kind := kind
  request := request
  filter := filter
  respond := respond

end BuiltinAction

end BiometricSession
