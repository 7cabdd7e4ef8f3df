import BiometricSession.Proofs.Action.Reports
import BiometricSession.Proofs.Session.Outcome

/-!
# Telling the client

The calls that reach somebody while the client is told of an event or of an error, without the
notes on the way.  From them come the calls that handle the rejection of an attempt: a signal,
the delivery of the rejection, and the report of a lockout that may follow.
-/

namespace BiometricSession

/-- The call by which the client is told of an event, after others in the same call, if a
listener is attached. -/
def Scope.told (scope : Scope) (earlier : List ListenerEvent) (event : ListenerEvent) :
    List Effect :=
  if scope.listening then [.delivery event (scope.answers.delivery earlier event)] else []

/-- Whether nothing is in the way of telling the client of an event first in a call: it takes
the event, or nobody is listening. -/
def Scope.takes (scope : Scope) (event : ListenerEvent) : Bool :=
  !scope.listening || scope.answers.delivery [] event = .sent

theorem Scope.returned_iff_takes (scope : Scope) (event : ListenerEvent) :
    (scope.deliverOrNote event []).ending = .returned false ↔ scope.takes event = true := by
  rw [deliverOrNote_eq]
  unfold takes
  cases scope.listening with
  | false => simp
  | true => cases scope.answers.delivery [] event <;> simp

theorem Scope.calls_deliverOrNote (scope : Scope) (event : ListenerEvent)
    (earlier : List ListenerEvent) :
    (scope.deliverOrNote event earlier).effects.filter (·.callsOut) =
      scope.told earlier event := by
  rw [deliverOrNote_eq]
  unfold told
  cases scope.listening with
  | false => rfl
  | true => cases answer : scope.answers.delivery earlier event <;> simp [Effect.callsOut]

/-- The calls of telling the client of an event and going on from there. -/
theorem Scope.calls_deliverOrNote_bind {Value : Type} (scope : Scope) (event : ListenerEvent)
    (next : Bool → Call Value) :
    ((scope.deliverOrNote event >>= next) []).effects.filter (·.callsOut) =
      scope.told [] event ++
        match (scope.deliverOrNote event []).ending with
        | .returned failed =>
            (next failed (if scope.listening then [event] else [])).effects.filter (·.callsOut)
        | .crashed _ => [] := by
  change (Call.bind _ next []).effects.filter _ = _
  unfold Call.bind told
  rw [deliverOrNote_eq]
  cases scope.listening with
  | false => rfl
  | true => cases scope.answers.delivery [] event <;> rfl

/-- The calls of reporting an error. -/
theorem Scope.calls_reportError (scope : Scope) (kind : ClientKind) (device : UInt64)
    (error vendor : Int32) (earlier : List ListenerEvent) :
    (scope.reportError kind device error vendor earlier).effects.filter (·.callsOut) =
      .errorMetric kind error vendor scope.user ::
        scope.told earlier (.error device error vendor scope.setting.descriptor.cookie) := by
  rw [reportError_eq, List.filter_cons_of_pos rfl]
  exact congrArg _ (scope.calls_deliverOrNote _ earlier)

/-- Nothing is called after a call by returning a value. -/
theorem Call.calls_bind_pure {First Second : Type} (first : Call First)
    (value : First → Second) (earlier : List ListenerEvent) :
    ((first >>= fun between => pure (value between)) earlier).effects.filter (·.callsOut) =
      (first earlier).effects.filter (·.callsOut) := by
  cases ended : (first earlier).ending with
  | crashed crash => rw [bind_eq_of_crashed ended]
  | returned between =>
      obtain ⟨later, joined⟩ := bind_eq_of_returned (fun between => pure (value between)) ended
      rw [joined]
      exact congrArg _ (List.append_nil _)

/-- The vibration that is made, if there is one to make. -/
def Effect.vibrations (effect : Option HapticEffect) : List Effect :=
  effect.toList.map fun effect => .vibration effect .assistanceSonification

theorem Scope.calls_vibrate_bind {Value : Type} (effect : Option HapticEffect)
    (next : Unit → Call Value) (earlier : List ListenerEvent) :
    ((vibrate effect >>= next) earlier).effects.filter (·.callsOut) =
      Effect.vibrations effect ++ (next () earlier).effects.filter (·.callsOut) := by
  rw [vibrate_bind, List.filter_append]
  congr 1
  cases effect <;> rfl

/-! ## Attempts -/

namespace Authentication

/-- The calls that handle an accepted attempt: a signal of success, then the delivery. -/
def acceptanceCalls (scope : Scope) (identifier : BiometricIdentifier) (token : List UInt8) :
    List Effect :=
  Effect.vibrations (scope.setting.haptics.success scope.answers.preferences scope.user) ++
    scope.told [] (.authenticationSucceeded identifier token)

theorem calls_accepted (scope : Scope) (identifier : BiometricIdentifier) (token : List UInt8) :
    (accepted scope identifier token []).effects.filter (·.callsOut) =
      acceptanceCalls scope identifier token := by
  unfold accepted Scope.signalSuccess acceptanceCalls
  rw [Call.note_bind, List.filter_cons_of_neg (by simp [Effect.callsOut]),
    Scope.calls_vibrate_bind, Call.calls_bind_pure, Scope.calls_deliverOrNote]

/-- The calls that handle a rejection: a signal of failure, then the delivery of the rejection,
and the report of a lockout if there is one and the client could be told of the rejection. -/
def rejectionCalls (scope : Scope) (locksOut : Bool) : List Effect :=
  Effect.vibrations (scope.setting.haptics.failure scope.answers.preferences scope.user) ++
    (scope.told [] (.authenticationFailed scope.device) ++
      if locksOut && scope.takes (.authenticationFailed scope.device) then
        .errorMetric .authenticate ErrorCode.lockout 0 scope.user ::
          scope.told [.authenticationFailed scope.device]
            (.error scope.device ErrorCode.lockout 0 scope.setting.descriptor.cookie)
      else
        [])

theorem calls_rejected (scope : Scope) (authentication : Authentication) :
    (rejected scope authentication []).effects.filter (·.callsOut) =
      rejectionCalls scope authentication.isLockedOut := by
  unfold rejected Scope.signalFailure rejectionCalls
  rw [Call.note_bind, List.filter_cons_of_neg (by simp [Effect.callsOut]),
    Scope.calls_vibrate_bind, Scope.calls_deliverOrNote_bind]
  congr 2
  have told := scope.returned_iff_takes (.authenticationFailed scope.device)
  cases ended : (scope.deliverOrNote (.authenticationFailed scope.device) []).ending with
  | crashed crash =>
      have lost : scope.takes (.authenticationFailed scope.device) = false := by
        rw [ended] at told
        simpa using told
      simp [lost]
  | returned failed =>
      have taken : scope.takes (.authenticationFailed scope.device) = !failed := by
        rw [ended] at told
        cases failed <;> simpa using told
      rw [taken]
      cases failed with
      | true =>
          rw [Bool.not_true, Bool.and_false]
          rfl
      | false =>
          cases authentication.isLockedOut with
          | false => rfl
          | true =>
              change ((Call.note .lockedOut >>= fun _ => _) _).effects.filter _ = _
              rw [Call.note_bind, List.filter_cons_of_neg (by simp [Effect.callsOut]),
                Call.calls_bind_pure, Scope.calls_reportError]
              unfold Scope.told
              cases scope.listening <;> rfl

end Authentication

end BiometricSession
