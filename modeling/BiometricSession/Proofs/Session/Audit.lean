import BiometricSession.Proofs.Action.Composed
import BiometricSession.Proofs.Action.Telling
import BiometricSession.Proofs.Session.Hearing

/-!
# What a session leaves on record

The metrics hear of every acquisition and every error that a session handles, and of the two
errors that it finds out itself: a lockout, and that it was given up unfinished.  This file
says what an operation owes to the record, in terms of the session before it, and proves that
it leaves just that, as long as the listener breaks off no call.
-/

namespace BiometricSession

/-- Whether an effect is a record for the metrics or a sign of user activity. -/
def Effect.audited : Effect → Bool
  | acquiredMetric .. | errorMetric .. | userActivity _ => true
  | _ => false

/-- What is audited is called out. -/
theorem Effect.audited_callsOut (effects : List Effect) :
    (effects.filter (·.callsOut)).filter (·.audited) = effects.filter (·.audited) := by
  rw [List.filter_filter]
  refine List.filter_congr ?_
  intro effect member
  cases effect <;> rfl

theorem Effect.filter_audited_eq_nil {effects : List Effect}
    (silent : ∀ effect ∈ effects, effect.callsOut = false) :
    effects.filter (·.audited) = [] := by
  refine List.filter_eq_nil_iff.mpr ?_
  intro effect member
  have quiet := silent effect member
  cases effect with
  | notice | unlink => simp [audited]
  | _ => cases quiet

/-- Whether the rejection of one more attempt locks the user out: attempts are limited, and
the limit is reached. -/
def Authentication.locksOut (authentication : Authentication) : Bool :=
  0 < authentication.maxFailedAttempts.toNat ∧
    authentication.maxFailedAttempts.toNat ≤ authentication.failedAttempts.toNat + 1

theorem Authentication.isLockedOut_countRejection (authentication : Authentication) :
    authentication.countRejection.isLockedOut = authentication.locksOut := by
  have bounded := authentication.maxFailedAttempts.toNat_lt
  unfold isLockedOut locksOut countRejection
  simp only [UInt32.lt_iff_toNat_lt, UInt32.le_iff_toNat_le, Bool.decide_and]
  congr 1
  -- a count at its greatest value has reached every limit
  by_cases full : authentication.failedAttempts = UInt32.ofNat (UInt32.size - 1)
  · have greatest : authentication.failedAttempts.toNat = 4294967295 := by
      rw [full]
      rfl
    rw [if_pos full, greatest]
    simp
    omega
  · have below : authentication.failedAttempts.toNat + 1 < 4294967296 := by
      have range := authentication.failedAttempts.toNat_lt
      have other : authentication.failedAttempts.toNat ≠ 4294967295 := by
        intro same
        exact full (UInt32.toNat_inj.mp same)
      omega
    rw [if_neg full, UInt32.toNat_add, UInt32.toNat_one, Nat.mod_eq_of_lt below]

/-! ## Calls that leave nothing on record -/

namespace Call

variable {First Second Value : Type}

/-- A call leaves nothing on record. -/
def Unrecorded (call : Call Value) : Prop :=
  ∀ earlier, (call earlier).effects.filter (·.audited) = []

namespace Unrecorded

theorem pure (value : Value) : (Pure.pure value : Call Value).Unrecorded :=
  fun _ => rfl

theorem note (notice : Notice) : (Call.note notice).Unrecorded :=
  fun _ => rfl

/-- What leaves nothing on record may follow. -/
theorem follow {next : First → Call Second} (back : ∀ value, (next value).Unrecorded)
    (first : Call First) (earlier : List ListenerEvent) :
    ((first >>= next) earlier).effects.filter (·.audited) =
      (first earlier).effects.filter (·.audited) := by
  cases ended : (first earlier).ending with
  | crashed crash => rw [bind_eq_of_crashed ended]
  | returned value =>
      obtain ⟨between, joined⟩ := bind_eq_of_returned next ended
      rw [joined, List.filter_append, back value between, List.append_nil]

theorem bind {first : Call First} {next : First → Call Second} (front : first.Unrecorded)
    (back : ∀ value, (next value).Unrecorded) : (first >>= next).Unrecorded :=
  fun earlier => (follow back first earlier).trans (front earlier)

theorem vibrate (effect : Option HapticEffect) : (Scope.vibrate effect).Unrecorded := by
  intro earlier
  cases effect <;> rfl

theorem deliverOrNote (scope : Scope) (event : ListenerEvent) :
    (scope.deliverOrNote event).Unrecorded := by
  intro earlier
  rw [Scope.deliverOrNote_eq]
  split
  · split <;> rfl
  · rfl

end Unrecorded

end Call

/-- Whatever the actions are composed of leaves nothing on record, unless it can lock the user
out. -/
theorem Scope.composes_unrecorded (scope : Scope) {kind : ClientKind} {result : HardwareResult}
    (unlocked : kind = .authenticate → result.isRejection = false) :
    scope.Composes kind result fun call => call.Unrecorded where
  pure := Call.Unrecorded.pure
  bind := Call.Unrecorded.bind
  note := Call.Unrecorded.note
  vibrate effect _ := Call.Unrecorded.vibrate effect
  tell := Call.Unrecorded.deliverOrNote scope _
  lockout isKind rejection := by simp [unlocked isKind] at rejection

/-! ## Events -/

/-- The report of an error leaves the error on record. -/
theorem Scope.recorded_reportError (scope : Scope) (kind : ClientKind) (device : UInt64)
    (error vendor : Int32) (earlier : List ListenerEvent) :
    (scope.reportError kind device error vendor earlier).effects.filter (·.audited) =
      [.errorMetric kind error vendor scope.user] := by
  rw [reportError_eq]
  exact congrArg (_ :: ·) (Call.Unrecorded.deliverOrNote scope _ earlier)

theorem Effect.unaudited_vibrations (effect : Option HapticEffect) :
    (vibrations effect).filter (·.audited) = [] := by
  cases effect <;> rfl

theorem Scope.unaudited_told (scope : Scope) (earlier : List ListenerEvent)
    (event : ListenerEvent) : (scope.told earlier event).filter (·.audited) = [] := by
  unfold told
  split <;> rfl

/-- A rejection leaves on record that it locked the user out, if it did and the client could
be told of the rejection. -/
theorem Authentication.recorded_rejected (scope : Scope) (authentication : Authentication) :
    (rejected scope authentication []).effects.filter (·.audited) =
      if authentication.isLockedOut && scope.takes (.authenticationFailed scope.device) then
        [.errorMetric .authenticate ErrorCode.lockout 0 scope.user]
      else
        [] := by
  rw [← Effect.audited_callsOut, calls_rejected, rejectionCalls, List.filter_append,
    List.filter_append, Effect.unaudited_vibrations, scope.unaudited_told]
  split
  · rw [List.filter_cons_of_pos rfl, scope.unaudited_told]
    rfl
  · rfl

/-- What a result is to leave on record: nothing, unless it is a rejection that locks the user
out.  A client that cannot be told of the rejection is not told of a lockout either. -/
def BuiltinAction.resultRecord (scope : Scope) : BuiltinAction → HardwareResult → List Effect
  | .authenticate authentication, .authenticated _ false _ =>
      if authentication.locksOut && scope.takes (.authenticationFailed scope.device) then
        [.errorMetric .authenticate ErrorCode.lockout 0 scope.user]
      else
        []
  | _, _ => []

theorem BuiltinAction.recorded_respond (scope : Scope) (action : BuiltinAction)
    (result : HardwareResult) :
    (action.respond scope result).emission.effects.filter (·.audited) =
      action.resultRecord scope result := by
  unfold resultRecord
  split
  · rename_i authentication identifier token
    have recorded := Authentication.recorded_rejected scope authentication.countRejection
    rw [authentication.isLockedOut_countRejection] at recorded
    exact recorded
  · rename_i other
    have unlocked : action.kind = .authenticate → result.isRejection = false := by
      intro isKind
      cases action with
      | authenticate authentication =>
          cases result with
          | authenticated identifier accepted token =>
              cases accepted with
              | true => rfl
              | false => exact (other authentication identifier token rfl rfl).elim
          | enrolled | removed | enumerated => rfl
      | enroll | remove | enumerate => cases isKind
    obtain ⟨call, unrecorded, answer⟩ := respond_composed (scope.composes_unrecorded unlocked)
    rw [answer]
    exact unrecorded []

/-! ## Sessions -/

namespace Session

variable {setting : Setting} {answers : Answers} {session : Session BuiltinAction}

/-- Whether a session still handles events. -/
def isOpen {Action : Type} (session : Session Action) : Bool :=
  !session.done && session.phase != .terminated

/-- What an event that a session of a kind handles is to leave on record. -/
def eventRecord (kind : ClientKind) (setting : Setting) (answers : Answers)
    (session : Session BuiltinAction) : HardwareEvent → List Effect
  | .acquired info vendor =>
      .acquiredMetric kind info vendor setting.descriptor.targetUser ::
        if info = AcquiredCode.good then [.userActivity setting.descriptor.targetUser] else []
  | .error _ error vendor => [.errorMetric kind error vendor setting.descriptor.targetUser]
  | .result result => session.action.resultRecord (session.scope setting answers) result

/-- What an operation is to leave on record: what the event leaves that it handles. -/
def operationRecord (kind : ClientKind) (setting : Setting) (answers : Answers)
    (session : Session BuiltinAction) : Operation → List Effect
  | .callback event =>
      if session.isOpen then session.eventRecord kind setting answers event else []
  | _ => []

/-- What it is to leave on record that a session is given up: an error, if it still holds its
token and is not finished. -/
def leakRecord (kind : ClientKind) (setting : Setting) (session : Session BuiltinAction) :
    List Effect :=
  if session.token.isSome && !session.done then
    [.errorMetric kind ErrorCode.hardwareUnavailable 0 setting.descriptor.targetUser]
  else
    []

theorem recorded_acquired (scope : Scope) (action : BuiltinAction) (info vendor : Int32)
    {failed : Bool}
    (returned : (acquired scope action info vendor []).ending = .returned failed) :
    (acquired scope action info vendor []).effects.filter (·.audited) =
      .acquiredMetric action.kind info vendor scope.user :: wake scope.user info := by
  have told : (acquisitionTold scope action info vendor []).effects.filter (·.audited) = [] := by
    unfold acquisitionTold
    split
    · rfl
    · exact Call.Unrecorded.deliverOrNote scope _ []
  have woken : (wake scope.user info).filter (·.audited) = wake scope.user info := by
    unfold wake
    split <;> rfl
  rw [acquired_eq] at returned ⊢
  dsimp only at returned ⊢
  cases ended : (acquisitionTold scope action info vendor []).ending with
  | crashed crash =>
      rw [ended] at returned
      cases returned
  | returned value =>
      simp only [List.filter_append, told, woken]
      rfl

theorem recorded_reaction (event : HardwareEvent)
    (steady : Steady
      (Effect.deliveries (session.reaction setting answers event).emission.effects)) :
    (session.reaction setting answers event).emission.effects.filter (·.audited) =
      session.eventRecord session.action.kind setting answers event := by
  cases event with
  | acquired info vendor =>
      cases ended : (session.reaction setting answers (.acquired info vendor)).emission.ending with
      | crashed crash =>
          exact absurd steady (not_steady_of_broken (orderly_reaction _ _ _ _) ended)
      | returned failed => exact recorded_acquired _ session.action info vendor ended
  | error device error vendor =>
      change (failed _ session.action device error vendor []).effects.filter _ = _
      rw [failed_eq]
      exact Scope.recorded_reportError _ session.action.kind device error vendor []
  | result result => exact BuiltinAction.recorded_respond _ session.action result

theorem Cancelling.unrecorded {byClient : Bool} {step : Step BuiltinAction Int32}
    (cancelling : Cancelling answers session byClient step) :
    step.effects.filter (·.audited) = [] := by
  cases cancelling <;> rfl

theorem isOpen_of_live (undone : session.done = false) (live : session.phase ≠ .terminated) :
    session.isOpen = true := by
  simp [isOpen, undone, live]

theorem Outcome.recorded {operation : Operation} {step : Step BuiltinAction Reply}
    (outcome : Outcome setting answers session operation step)
    (steady : Steady (Effect.deliveries step.effects)) :
    step.effects.filter (·.audited) =
      session.operationRecord session.action.kind setting answers operation := by
  unfold operationRecord
  cases outcome with
  | startIgnored | startBroken | startAccepted | startRefused | diedAfterDestroy => rfl
  | stopped cancelling => exact cancelling.unrecorded
  | droppedAfterVerdict done =>
      have closed : session.isOpen = false := by simp [isOpen, done]
      rw [closed]
      rfl
  | droppedAfterDestroy undone terminated =>
      have closed : session.isOpen = false := by simp [isOpen, terminated]
      rw [closed]
      rfl
  | reactionBroken undone live | finished undone live | continued undone live =>
      rw [isOpen_of_live undone live]
      exact recorded_reaction _ steady
  | deathBroken standing cancelling | deathHandled standing cancelling =>
      exact cancelling.unrecorded
  | destroyed =>
      exact Effect.filter_audited_eq_nil fun effect member => destroyEffects_callsOut member

/-- An operation leaves on record what it is to leave, as long as the listener breaks off no
call. -/
theorem recorded_perform (setting : Setting) (answers : Answers)
    (session : Session BuiltinAction) (operation : Operation)
    (steady : Steady
      (Effect.deliveries (session.perform setting answers operation).effects)) :
    (session.perform setting answers operation).effects.filter (·.audited) =
      session.operationRecord session.action.kind setting answers operation := by
  obtain ⟨step, outcome, performed⟩ := perform_outcome setting answers session operation
  rw [performed] at steady ⊢
  rw [locked_deliveries] at steady
  rw [locked_effects, List.filter_append,
    Effect.filter_audited_eq_nil fun effect member => recovery_callsOut member,
    List.nil_append]
  exact outcome.recorded steady

/-- Hearing of the client's death leaves nothing on record. -/
theorem unrecorded_clientDied (setting : Setting) (answers : Answers)
    (session : Session BuiltinAction) (clearListener : Bool) :
    (session.perform setting answers (.clientDied clearListener)).effects.filter
      (·.audited) = [] := by
  obtain ⟨step, outcome, performed⟩ :=
    perform_outcome setting answers session (.clientDied clearListener)
  rw [performed, locked_effects, List.filter_append,
    Effect.filter_audited_eq_nil fun effect member => recovery_callsOut member,
    List.nil_append]
  cases outcome with
  | diedAfterDestroy => rfl
  | deathBroken standing cancelling | deathHandled standing cancelling =>
      exact cancelling.unrecorded

/-- Giving a session up leaves on record what it is to leave. -/
theorem recorded_drop (setting : Setting) (answers : Answers)
    (session : Session BuiltinAction) :
    (session.drop setting answers).effects.filter (·.audited) =
      session.leakRecord session.action.kind setting := by
  have opening : (Effect.notice .leaked ::
      session.unlinking answers .leakUnlinkFailed).filter (·.audited) = [] := by
    rw [List.filter_cons_of_neg (by simp [Effect.audited])]
    exact Effect.filter_audited_eq_nil fun effect member => unlinking_callsOut member
  unfold Session.drop leakRecord
  cases session.token with
  | none => rfl
  | some token =>
      cases session.done with
      | true => exact opening
      | false =>
          simp only [Bool.false_eq_true, if_false, List.filter_append, opening]
          exact Scope.recorded_reportError _ session.action.kind _ _ _ []

/-- An acquisition that a session handles shows in its record before anything else; only the
state of the lock may be reported before that. -/
theorem acquired_first (setting : Setting) (answers : Answers) {session : Session BuiltinAction}
    (info vendor : Int32) (isOpen : session.isOpen = true) :
    ∃ later, (session.perform setting answers (.callback (.acquired info vendor))).effects =
      session.recovery ++
        .acquiredMetric session.action.kind info vendor setting.descriptor.targetUser ::
          later := by
  obtain ⟨step, outcome, performed⟩ :=
    perform_outcome setting answers session (.callback (.acquired info vendor))
  have begins : ∃ later,
      (session.reaction setting answers (.acquired info vendor)).emission.effects =
        .acquiredMetric session.action.kind info vendor setting.descriptor.targetUser ::
          later := by
    change ∃ later, (acquired _ session.action info vendor []).effects = _
    rw [acquired_eq]
    dsimp only
    split <;> exact ⟨_, rfl⟩
  rw [performed, locked_effects]
  cases outcome with
  | droppedAfterVerdict done => simp [Session.isOpen, done] at isOpen
  | droppedAfterDestroy undone terminated => simp [Session.isOpen, terminated] at isOpen
  | reactionBroken | finished | continued =>
      obtain ⟨later, first⟩ := begins
      exact ⟨later, congrArg _ first⟩

end Session

end BiometricSession
