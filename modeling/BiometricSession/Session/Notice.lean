import BiometricSession.Codes
import BiometricSession.Death.Token
import BiometricSession.Log
import BiometricSession.Session.Event

/-!
# Notices

Everything that a session reports to the log about its own work, by cause.
The wording and the level of each notice are fixed here and nowhere else.
-/

namespace BiometricSession

/-- Stage in the life of a session. -/
inductive Phase where
  /-- The session is made, and the hardware knows nothing of it. -/
  | created
  /-- The hardware has accepted the request. -/
  | running
  /-- The session has ended for good. -/
  | terminated
  deriving DecidableEq, Repr

namespace Phase

instance : Inspect Phase where
  inspect
    | created => "Created"
    | running => "Running"
    | terminated => "Terminated"

end Phase

/-- What a session has to say about its own work. -/
inductive Notice where
  /-- A collaborator once broke off a call in the middle. -/
  | recoveringLock
  | linkRefused (error : TokenError)
  | diedAfterDestroy
  | clientDied
  | stopAfterEnd
  | stopAlreadyCancelled
  | stopRefused (status : Int32)
  | stopped (byClient : Bool)
  | callbackAfterVerdict (callback : Callback)
  | callbackAfterDestroy (callback : Callback)
  | startIgnored (phase : Phase)
  | startRefused (request : HalRequest) (status : Int32)
  | started (request : HalRequest)
  | acquired (info vendor : Int32)
  | acquisitionIgnored (info vendor : Int32)
  | deliveryFailed (event : ListenerEvent) (error : DeliveryError)
  | unexpectedCallback (callback : Callback) (kind : ClientKind)
  | foreignGroup (group : Int32)
  | enrollmentFinished
  | authenticated (biometric : Int32)
  | rejected (failedAttempts maxFailedAttempts : UInt32)
  | lockedOut
  | removed (biometric remaining : Int32)
  | unlinkFailed (error : TokenError)
  | destroyed (kind : ClientKind)
  | leaked
  | leakUnlinkFailed (error : TokenError)
  deriving DecidableEq, Repr

namespace Notice

def level : Notice → LogLevel
  | clientDied | callbackAfterVerdict _ | unlinkFailed _ => .error
  | recoveringLock | linkRefused _ | stopAlreadyCancelled | stopRefused _ => .warn
  | callbackAfterDestroy _ | startIgnored _ | startRefused .. | deliveryFailed .. => .warn
  | unexpectedCallback .. | foreignGroup _ | lockedOut | leaked => .warn
  | enrollmentFinished | authenticated _ => .info
  | diedAfterDestroy | stopAfterEnd | stopped _ | started _ | acquired .. => .debug
  | acquisitionIgnored .. | rejected .. | removed .. | destroyed _ => .debug
  | leakUnlinkFailed _ => .debug

/-- The owner of a session in parentheses. -/
def ownerNote (descriptor : SessionDescriptor) : String :=
  "(owner=" ++ descriptor.owner ++ ")"

def text (descriptor : SessionDescriptor) : Notice → String
  | recoveringLock => "recovering poisoned monitor lock"
  | linkRefused error => "caught error in link_to_death: " ++ error.message
  | diedAfterDestroy =>
      "Client died after destroy, nothing to cancel " ++ ownerNote descriptor
  | clientDied => "Client died, cancelling client " ++ ownerNote descriptor
  | stopAfterEnd => "stop() after session terminated, ignoring"
  | stopAlreadyCancelled => "stop(): already cancelled"
  | stopRefused status => "stopHal failed, result=" ++ inspect status
  | stopped byClient =>
      "client " ++ descriptor.owner ++ " is no longer running (initiated_by_client=" ++
        inspect byClient ++ ")"
  | callbackAfterVerdict callback =>
      callback.name ++ "() after terminal verdict, dropping " ++ ownerNote descriptor
  | callbackAfterDestroy callback =>
      callback.name ++ "() after destroy, dropping " ++ ownerNote descriptor
  | startIgnored phase => "start() called in phase " ++ inspect phase ++ ", ignoring"
  | startRefused request status =>
      "startHal " ++ request.name ++ " failed, result=" ++ inspect status
  | started request =>
      request.name ++ " started for user " ++ inspect descriptor.targetUser ++ " " ++
        ownerNote descriptor
  | acquired info vendor => "Acquired: " ++ inspect info ++ " " ++ inspect vendor
  | acquisitionIgnored info vendor =>
      "Ignoring message: " ++ inspect info ++ " " ++ inspect vendor
  | deliveryFailed event error => event.failureText ++ ": " ++ error.message
  | unexpectedCallback callback kind =>
      callback.name ++ "() called for " ++ kind.name ++ " client " ++ ownerNote descriptor
  | foreignGroup group =>
      "groupId != getGroupId(), groupId: " ++ inspect group ++ " getGroupId(): " ++
        inspect descriptor.group
  | enrollmentFinished =>
      "Enrollment finished for user " ++ inspect descriptor.targetUser ++ " " ++
        ownerNote descriptor
  | authenticated biometric =>
      "Authenticated biometric " ++ inspect biometric ++ " for owner " ++ descriptor.owner
  | rejected failedAttempts maxFailedAttempts =>
      "Authentication rejected (" ++ inspect failedAttempts ++ " of " ++
        inspect maxFailedAttempts ++ ")"
  | lockedOut =>
      "Too many failed attempts for user " ++ inspect descriptor.targetUser ++
        ", locking out"
  | removed biometric remaining =>
      "Removed biometric " ++ inspect biometric ++ ", remaining " ++ inspect remaining
  | unlinkFailed error => "destroy(): " ++ descriptor.owner ++ ": " ++ error.message
  | destroyed kind => "destroyed " ++ kind.name ++ " client " ++ ownerNote descriptor
  | leaked => "removing leaked reference for " ++ descriptor.owner
  | leakUnlinkFailed error =>
      "unlink on leaked reference for " ++ descriptor.owner ++ ": " ++ error.message

/-- The log record of a notice, opened by the tag of the hardware. -/
def record (modality : Modality) (descriptor : SessionDescriptor) (notice : Notice) :
    LogRecord :=
  .service notice.level (modality.logTag ++ ": " ++ notice.text descriptor)

end Notice

end BiometricSession
