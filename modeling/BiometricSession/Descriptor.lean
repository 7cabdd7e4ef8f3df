import BiometricSession.Inspect

/-!
# Descriptors of sessions and templates

A session is described once, when it is made: whose it is, which user and
group it works for, on which device, and under which cookie the client asked
for it.  The hardware names the templates it reports by an identifier.
-/

namespace BiometricSession

/-- Identity of one session, fixed when the session is made. -/
structure SessionDescriptor where
  targetUser : Int32
  group : Int32
  /-- The client may not manage enrollments. -/
  restricted : Bool
  owner : String
  /-- Zero stands for "no cookie". -/
  cookie : Int32
  device : UInt64
  deriving DecidableEq, Repr

namespace SessionDescriptor

def hasCookie (descriptor : SessionDescriptor) : Bool :=
  descriptor.cookie ≠ 0

instance : Inspect SessionDescriptor where
  inspect descriptor :=
    Inspect.record "SessionDescriptor"
      [Inspect.part "target_user_id" (inspect descriptor.targetUser),
        Inspect.part "group_id" (inspect descriptor.group),
        Inspect.part "is_restricted" (inspect descriptor.restricted),
        Inspect.part "owner" (inspect descriptor.owner),
        Inspect.part "cookie" (inspect descriptor.cookie),
        Inspect.part "hardware_device_id" (inspect descriptor.device)]

end SessionDescriptor

/-- A template as the hardware reports it along with its results. -/
structure BiometricIdentifier where
  biometric : Int32
  group : Int32
  device : UInt64
  name : String
  deriving DecidableEq, Repr

namespace BiometricIdentifier

def unnamed (biometric group : Int32) (device : UInt64) : BiometricIdentifier :=
  ⟨biometric, group, device, ""⟩

/-- The identifier whose numbers are all zero. -/
instance : Inhabited BiometricIdentifier where
  default := unnamed 0 0 0

instance : Inspect BiometricIdentifier where
  inspect identifier :=
    Inspect.record "BiometricIdentifier"
      [Inspect.part "biometric_id" (inspect identifier.biometric),
        Inspect.part "group_id" (inspect identifier.group),
        Inspect.part "device_id" (inspect identifier.device),
        Inspect.part "name" (inspect identifier.name)]

end BiometricIdentifier

/-- What a session asks the hardware to do. -/
inductive ClientKind where
  | enroll
  | authenticate
  | remove
  | enumerate
  deriving DecidableEq, Repr, Inhabited

namespace ClientKind

def name : ClientKind → String
  | enroll => "enroll"
  | authenticate => "authenticate"
  | remove => "remove"
  | enumerate => "enumerate"

/-- All kinds, in the order in which errors list them. -/
def all : List ClientKind :=
  [enroll, authenticate, remove, enumerate]

instance : Inspect ClientKind where
  inspect
    | enroll => "Enroll"
    | authenticate => "Authenticate"
    | remove => "Remove"
    | enumerate => "Enumerate"

end ClientKind

/-- Operation that a session asks the hardware to begin. -/
inductive HalRequest where
  | enroll (authToken : List UInt8) (timeoutSeconds : UInt32)
  | authenticate (operation : UInt64)
  /-- Removes one template, or every template of the group if the number is
  zero. -/
  | remove (biometric : Int32)
  | enumerate
  deriving DecidableEq, Repr

namespace HalRequest

def kind : HalRequest → ClientKind
  | enroll _ _ => .enroll
  | authenticate _ => .authenticate
  | remove _ => .remove
  | enumerate => .enumerate

def name (request : HalRequest) : String :=
  request.kind.name

instance : Inspect HalRequest where
  inspect
    | enroll authToken timeoutSeconds =>
        Inspect.record "Enroll"
          [Inspect.part "hardware_auth_token" (inspect authToken),
            Inspect.part "timeout_secs" (inspect timeoutSeconds)]
    | authenticate operation =>
        Inspect.record "Authenticate" [Inspect.part "operation_id" (inspect operation)]
    | remove biometric =>
        Inspect.record "Remove" [Inspect.part "biometric_id" (inspect biometric)]
    | enumerate => Inspect.record "Enumerate" []

end HalRequest

end BiometricSession
