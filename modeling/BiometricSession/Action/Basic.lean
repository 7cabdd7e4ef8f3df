import BiometricSession.AcquireFilter
import BiometricSession.Session.Call

/-!
# Hardware actions

Sessions share one life cycle and differ in the action they ask of the
hardware: what they request, which acquisitions they keep back, and what they
do with the results.  A result is handled in a scope, through which the action
reaches the listener, the haptics and the metrics, but never the life cycle.
-/

namespace BiometricSession

/-- What is fixed when a session is made. -/
structure Setting where
  descriptor : SessionDescriptor
  modality : Modality
  haptics : HapticGate
  deriving DecidableEq, Repr

/-- How the collaborators answer during one call. -/
structure Answers where
  start : HalAnswer
  stop : HalAnswer
  /-- The answer to a delivery, given those attempted before it in the same
  call. -/
  delivery : List ListenerEvent → ListenerEvent → DeliveryAnswer
  preferences : Preferences
  /-- Why the token refuses to remove the session's link, if it does. -/
  unlinkRefusal : Option TokenError

/-- What an action may reach while it handles a result. -/
structure Scope where
  setting : Setting
  answers : Answers
  /-- Whether a listener is still attached. -/
  listening : Bool

namespace Scope

variable (scope : Scope)

def device : UInt64 :=
  scope.setting.descriptor.device

def user : Int32 :=
  scope.setting.descriptor.targetUser

/-- Deliver an event, if a listener is still attached.  The answer says why the
delivery failed, if it did. -/
def deliver (event : ListenerEvent) : Call (Option DeliveryError) :=
  fun earlier =>
    if scope.listening then
      let answer := scope.answers.delivery earlier event
      let ending : Ending (Option DeliveryError) :=
        match answer with
        | .sent => .returned none
        | .refused error => .returned (some error)
        | .crash => .crashed .listener
      ⟨[.delivery event answer], ending⟩
    else
      ⟨[], .returned none⟩

/-- Let the device vibrate, if there is a vibration to make. -/
def vibrate (effect : Option HapticEffect) : Call Unit :=
  Call.emit (effect.toList.map fun effect => .vibration effect .assistanceSonification)

def signalSuccess : Call Unit :=
  vibrate (scope.setting.haptics.success scope.answers.preferences scope.user)

def signalFailure : Call Unit :=
  vibrate (scope.setting.haptics.failure scope.answers.preferences scope.user)

/-- Deliver an event; the answer says whether the delivery failed. -/
def deliverOrNote (event : ListenerEvent) : Call Bool := do
  match ← scope.deliver event with
  | none => return false
  | some error =>
      Call.note (.deliveryFailed event error)
      return true

/-- Record an error for the metrics and deliver it with the session's cookie.
If it cannot be delivered, only the log hears of that. -/
def reportError (kind : ClientKind) (device : UInt64) (error vendor : Int32) : Call Unit := do
  Call.emit [.errorMetric kind error vendor scope.user]
  let _ ← scope.deliverOrNote (.error device error vendor scope.setting.descriptor.cookie)
  return ()

end Scope

/-- What an action makes of a result: the action as it is from now on, and the
call that says whether the session is finished. -/
structure Reaction (Action : Type) where
  action : Action
  emission : Emission Bool

/-- What a session can ask of the hardware. -/
class HardwareAction (Action : Type) where
  kind : Action → ClientKind
  /-- What the session requests when it starts. -/
  request : Action → HalRequest
  /-- Which acquisitions the client does not hear of; without a filter it hears
  of all. -/
  filter : Action → Option AcquireFilter
  /-- What the action makes of a result. -/
  respond : Scope → Action → HardwareResult → Reaction Action

namespace HardwareAction

/-- A result that an action does not expect finishes the session. -/
def unexpected {Action : Type} (action : Action) (kind : ClientKind)
    (result : HardwareResult) : Reaction Action :=
  ⟨action, ⟨[.notice (.unexpectedCallback result.callback kind)], .returned true⟩⟩

/-- Either of two kinds of action. -/
instance {First Second : Type} [HardwareAction First] [HardwareAction Second] :
    HardwareAction (First ⊕ Second) where
  kind
    | .inl action => kind action
    | .inr action => kind action
  request
    | .inl action => request action
    | .inr action => request action
  filter
    | .inl action => filter action
    | .inr action => filter action
  respond scope action result :=
    match action with
    | .inl action =>
        let reaction := respond scope action result
        ⟨.inl reaction.action, reaction.emission⟩
    | .inr action =>
        let reaction := respond scope action result
        ⟨.inr reaction.action, reaction.emission⟩

end HardwareAction

end BiometricSession
