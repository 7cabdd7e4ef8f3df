import BiometricSession.Proofs.Action.Orderly
import BiometricSession.Session.Basic

/-!
# Reports in full

What the client is told and what is recorded on the way, written out: a delivery with the
note of its failure, the report of an error, and what a session makes of an acquisition and
of an error.  Later facts about these calls are read off the lists.
-/

namespace BiometricSession

theorem Call.emit_bind {Value : Type} (effects : List Effect) (next : Unit → Call Value)
    (earlier : List ListenerEvent) :
    (Call.emit effects >>= next) earlier =
      ⟨effects ++ (next () (earlier ++ Effect.attempts effects)).effects,
        (next () (earlier ++ Effect.attempts effects)).ending⟩ :=
  rfl

theorem Call.note_bind {Value : Type} (notice : Notice) (next : Unit → Call Value)
    (earlier : List ListenerEvent) :
    (Call.note notice >>= next) earlier =
      ⟨.notice notice :: (next () earlier).effects, (next () earlier).ending⟩ := by
  change (Call.emit [Effect.notice notice] >>= next) earlier = _
  rw [Call.emit_bind, show Effect.attempts [.notice notice] = [] from rfl, List.append_nil]
  rfl

namespace Scope

theorem vibrate_bind {Value : Type} (effect : Option HapticEffect) (next : Unit → Call Value)
    (earlier : List ListenerEvent) :
    (vibrate effect >>= next) earlier =
      ⟨(effect.toList.map fun effect => .vibration effect .assistanceSonification) ++
          (next () earlier).effects,
        (next () earlier).ending⟩ := by
  have untold : Effect.attempts (effect.toList.map fun effect =>
      .vibration effect .assistanceSonification) = [] := by
    cases effect <;> rfl
  unfold vibrate
  rw [Call.emit_bind, untold, List.append_nil]

variable (scope : Scope) (earlier : List ListenerEvent)

/-- A delivery in full. -/
theorem deliverOrNote_eq (event : ListenerEvent) :
    scope.deliverOrNote event earlier =
      if scope.listening then
        match scope.answers.delivery earlier event with
        | .sent => ⟨[.delivery event .sent], .returned false⟩
        | .refused error =>
            ⟨[.delivery event (.refused error), .notice (.deliveryFailed event error)],
              .returned true⟩
        | .crash => ⟨[.delivery event .crash], .crashed .listener⟩
      else
        ⟨[], .returned false⟩ := by
  change Call.bind (scope.deliver event) _ earlier = _
  unfold Call.bind deliver
  cases scope.listening with
  | false => rfl
  | true => cases scope.answers.delivery earlier event <;> rfl

/-- The report of an error in full. -/
theorem reportError_eq (kind : ClientKind) (device : UInt64) (error vendor : Int32) :
    scope.reportError kind device error vendor earlier =
      let told := scope.deliverOrNote
        (.error device error vendor scope.setting.descriptor.cookie) earlier
      ⟨.errorMetric kind error vendor scope.user :: told.effects,
        told.ending.map fun _ => ()⟩ := by
  unfold reportError
  rw [Call.emit_bind, show Effect.attempts [.errorMetric kind error vendor scope.user] = []
    from rfl, List.append_nil]
  change (⟨_ :: (Call.bind _ _ earlier).effects, (Call.bind _ _ earlier).ending⟩ :
    Emission Unit) = _
  unfold Call.bind
  rcases scope.deliverOrNote (.error device error vendor scope.setting.descriptor.cookie)
    earlier with ⟨effects, failed | crash⟩
  · simp [Pure.pure, Call.pure, Ending.map]
  · rfl

end Scope

namespace Session

variable {Action : Type} [HardwareAction Action] (scope : Scope) (action : Action)

/-- What shows of an acquisition that the user is active. -/
def wake (user info : Int32) : List Effect :=
  if info = AcquiredCode.good then [.userActivity user] else []

/-- What the client is told of an acquisition. -/
def acquisitionTold (info vendor : Int32) (earlier : List ListenerEvent) : Emission Bool :=
  if (HardwareAction.filter action).any (·.ignores info vendor) then
    ⟨[.notice (.acquisitionIgnored info vendor)], .returned false⟩
  else
    scope.deliverOrNote (.acquired scope.device info vendor) earlier

theorem bind_wake {told : Call Bool} {next : Bool → Call Bool} {shown : List Effect}
    (woken : ∀ failed between, next failed between = ⟨shown, .returned failed⟩)
    (earlier : List ListenerEvent) :
    (told >>= next) earlier =
      match (told earlier).ending with
      | .returned failed => ⟨(told earlier).effects ++ shown, .returned failed⟩
      | .crashed crash => ⟨(told earlier).effects, .crashed crash⟩ := by
  change Call.bind told next earlier = _
  unfold Call.bind
  rcases told earlier with ⟨effects, failed | crash⟩
  · simp only [woken]
  · rfl

/-- What a session makes of an acquisition in full. -/
theorem acquired_eq (info vendor : Int32) (earlier : List ListenerEvent) :
    acquired scope action info vendor earlier =
      let record :=
        [.acquiredMetric (HardwareAction.kind action) info vendor scope.user,
          .notice (.acquired info vendor)]
      let told := acquisitionTold scope action info vendor earlier
      match told.ending with
      | .returned failed =>
          ⟨record ++ (told.effects ++ wake scope.user info), .returned failed⟩
      | .crashed crash => ⟨record ++ told.effects, .crashed crash⟩ := by
  have woken (failed : Bool) (between : List ListenerEvent) :
      (do
        if info = AcquiredCode.good then
          Call.emit [.userActivity scope.user]
        return failed : Call Bool) between = ⟨wake scope.user info, .returned failed⟩ := by
    unfold wake
    dsimp only
    split <;> rfl
  unfold acquired acquisitionTold
  rw [Call.emit_bind, Call.note_bind, show Effect.attempts
    [.acquiredMetric (HardwareAction.kind action) info vendor scope.user] = [] from rfl,
    List.append_nil]
  dsimp only at woken ⊢
  split
  · rw [Call.note_bind, bind_wake woken]
    rfl
  · rw [bind_wake woken]
    cases (scope.deliverOrNote (.acquired scope.device info vendor) earlier).ending <;> rfl

theorem failed_eq (device : UInt64) (error vendor : Int32) (earlier : List ListenerEvent) :
    failed scope action device error vendor earlier =
      let report := scope.reportError (HardwareAction.kind action) device error vendor earlier
      ⟨report.effects, report.ending.map fun _ => true⟩ := by
  change Call.bind _ _ earlier = _
  unfold Call.bind
  rcases scope.reportError (HardwareAction.kind action) device error vendor earlier with
    ⟨effects, nothing | crash⟩
  · simp [Pure.pure, Call.pure, Ending.map]
  · rfl

end Session

end BiometricSession
