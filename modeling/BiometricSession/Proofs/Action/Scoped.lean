import BiometricSession.Action.Probe
import BiometricSession.Proofs.Action.Composed
import BiometricSession.Proofs.Action.Orderly
import BiometricSession.Proofs.Session.Outcome

/-!
# Actions that keep to their scope

An action meets the world through the scope that it is given.  A scope lends it
neither the hardware nor the session's link, and its way to the client closes
with the listener.  Whatever is true of sessions in general because of that
needs an action that keeps to its scope; the four actions and the probe do.
-/

namespace BiometricSession

/-- Whether an effect is one that a scope offers, given whether a listener is
still attached. -/
def Effect.inReach (listening : Bool) : Effect → Bool
  | .halStart .. | .halStop .. | .unlink .. => false
  | .delivery .. => listening
  | _ => true

namespace Call

variable {First Second Value : Type} {listening : Bool}

/-- A call has only effects that a scope offers. -/
def Scoped (listening : Bool) (call : Call Value) : Prop :=
  ∀ earlier, ∀ effect ∈ (call earlier).effects, effect.inReach listening = true

namespace Scoped

theorem pure (value : Value) : (Pure.pure value : Call Value).Scoped listening :=
  fun _ _ member => absurd member List.not_mem_nil

theorem emit {effects : List Effect}
    (within : ∀ effect ∈ effects, effect.inReach listening = true) :
    (Call.emit effects).Scoped listening :=
  fun _ => within

theorem note (notice : Notice) : (Call.note notice).Scoped listening :=
  emit (by simp [Effect.inReach])

theorem bind {first : Call First} {next : First → Call Second}
    (front : first.Scoped listening) (back : ∀ value, (next value).Scoped listening) :
    (first >>= next).Scoped listening := by
  intro earlier effect member
  cases ended : (first earlier).ending with
  | crashed crash =>
      rw [bind_eq_of_crashed ended] at member
      exact front earlier effect member
  | returned value =>
      obtain ⟨between, joined⟩ := bind_eq_of_returned next ended
      rw [joined] at member
      rcases List.mem_append.mp member with before | after
      · exact front earlier effect before
      · exact back value between effect after

theorem afterIf {condition : Prop} [Decidable condition] {first : Call Unit}
    {next : Unit → Call Value} (front : first.Scoped listening)
    (back : ∀ value, (next value).Scoped listening) :
    (if condition then first >>= next else next ()).Scoped listening := by
  by_cases holds : condition
  · rw [if_pos holds]
    exact front.bind back
  · rw [if_neg holds]
    exact back ()

end Scoped

end Call

/-! ## What a scope offers -/

namespace Scope

variable (scope : Scope)

theorem scoped_deliver (event : ListenerEvent) :
    (scope.deliver event).Scoped scope.listening := by
  intro earlier effect member
  unfold deliver at member
  cases listening : scope.listening with
  | false => simp [listening] at member
  | true =>
      simp only [listening, if_true, List.mem_singleton] at member
      subst member
      rfl

theorem scoped_vibrate (effect : Option HapticEffect) :
    (vibrate effect).Scoped scope.listening :=
  Call.Scoped.emit (by cases effect <;> simp [Effect.inReach])

theorem scoped_deliverOrNote (event : ListenerEvent) :
    (scope.deliverOrNote event).Scoped scope.listening := by
  unfold deliverOrNote
  apply (scope.scoped_deliver event).bind
  intro failure
  cases failure with
  | none => exact .pure _
  | some error => exact (Call.Scoped.note _).bind fun _ => .pure _

theorem scoped_reportError (kind : ClientKind) (device : UInt64) (error vendor : Int32) :
    (scope.reportError kind device error vendor).Scoped scope.listening := by
  unfold reportError
  apply (Call.Scoped.emit (by simp [Effect.inReach])).bind
  intro _
  exact (scope.scoped_deliverOrNote _).bind fun _ => .pure _

end Scope

/-! ## Actions -/

/-- An action that keeps to its scope. -/
class ScopedAction (Action : Type) [HardwareAction Action] : Prop where
  respond_inReach : ∀ (scope : Scope) (action : Action) (result : HardwareResult),
    ∀ effect ∈ (HardwareAction.respond scope action result).emission.effects,
      effect.inReach scope.listening = true

theorem HardwareAction.unexpected_inReach {Action : Type} (action : Action)
    (kind : ClientKind) (result : HardwareResult) (listening : Bool) :
    ∀ effect ∈ (unexpected action kind result).emission.effects,
      effect.inReach listening = true := by
  simp [unexpected, Effect.inReach]

/-- Whatever the four actions are composed of keeps to the scope. -/
theorem Scope.composes_scoped (scope : Scope) (kind : ClientKind) (result : HardwareResult) :
    scope.Composes kind result fun call => call.Scoped scope.listening where
  pure := Call.Scoped.pure
  bind := Call.Scoped.bind
  note := Call.Scoped.note
  vibrate effect _ := scope.scoped_vibrate effect
  tell := scope.scoped_deliverOrNote _
  lockout _ _ := scope.scoped_reportError _ _ _ _

instance : ScopedAction BuiltinAction where
  respond_inReach scope action result := by
    obtain ⟨call, within, answer⟩ :=
      BuiltinAction.respond_composed (scope.composes_scoped action.kind result)
    change ∀ effect ∈ (action.respond scope result).emission.effects, _
    rw [answer]
    exact within []

theorem Probe.scoped_removed (probe : Probe) (scope : Scope)
    (identifier : BiometricIdentifier) (remaining : Int32) :
    (probe.removed scope identifier remaining).Scoped scope.listening := by
  unfold removed
  apply (Call.Scoped.emit (by simp [Effect.inReach])).bind
  intro _
  apply (scope.scoped_vibrate _).bind
  intro _
  apply (scope.scoped_vibrate _).bind
  intro _
  apply (scope.scoped_deliver _).bind
  intro failure
  apply (Call.Scoped.emit (by simp [Effect.inReach])).bind
  intro _
  exact (scope.scoped_reportError _ _ _ _).bind fun _ => .pure _

instance : ScopedAction Probe where
  respond_inReach scope probe result := by
    cases result with
    | removed identifier remaining =>
        exact probe.scoped_removed scope identifier remaining []
    | enrolled | authenticated | enumerated =>
        exact HardwareAction.unexpected_inReach probe probe.kind _ scope.listening

instance {First Second : Type} [HardwareAction First] [HardwareAction Second]
    [ScopedAction First] [ScopedAction Second] : ScopedAction (First ⊕ Second) where
  respond_inReach scope action result := by
    cases action with
    | inl action => exact ScopedAction.respond_inReach scope action result
    | inr action => exact ScopedAction.respond_inReach scope action result

/-! ## Sessions -/

namespace Session

variable {Action : Type} [HardwareAction Action]

theorem scoped_acquired (scope : Scope) (action : Action) (info vendor : Int32) :
    (acquired scope action info vendor).Scoped scope.listening := by
  have wake : ∀ failed : Bool,
      (do
        if info = AcquiredCode.good then
          Call.emit [.userActivity scope.user]
        return failed : Call Bool).Scoped scope.listening :=
    fun failed => .afterIf (.emit (by simp [Effect.inReach])) fun _ => .pure failed
  unfold acquired
  apply (Call.Scoped.emit (by simp [Effect.inReach])).bind
  intro _
  apply (Call.Scoped.note _).bind
  intro _
  dsimp only
  split
  · apply (Call.Scoped.note _).bind
    intro _
    exact (Call.Scoped.pure false).bind wake
  · exact (scope.scoped_deliverOrNote _).bind wake

theorem scoped_failed (scope : Scope) (action : Action) (device : UInt64)
    (error vendor : Int32) :
    (failed scope action device error vendor).Scoped scope.listening := by
  unfold failed
  exact (scope.scoped_reportError _ _ _ _).bind fun _ => .pure _

/-- Whatever a session makes of an event keeps to the scope. -/
theorem reaction_inReach [ScopedAction Action] (setting : Setting) (answers : Answers)
    (session : Session Action) (event : HardwareEvent) :
    ∀ effect ∈ (session.reaction setting answers event).emission.effects,
      effect.inReach session.listening = true := by
  cases event with
  | acquired info vendor => exact scoped_acquired _ session.action info vendor []
  | error device error vendor => exact scoped_failed _ session.action device error vendor []
  | result result => exact ScopedAction.respond_inReach _ session.action result

end Session

end BiometricSession
