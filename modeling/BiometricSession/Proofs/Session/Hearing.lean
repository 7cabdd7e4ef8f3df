import BiometricSession.Proofs.Action.Orderly
import BiometricSession.Proofs.Session.Soundness

/-!
# What a client hears of its session

A session with one of the four actions tells its client of routine events until
one delivery fails or ends the session.  As long as the session is not finished,
all its deliveries were routine; once it is, all but the last were.  When the
session is given up, the client hears one more event at most, and none if the
session was finished.

All of this supposes a listener that does not break off a call: a broken-off
event leaves the session as it was, and the next one would follow it.
-/

namespace BiometricSession

/-- Whether an event tells the client of an error. -/
def ListenerEvent.isError : ListenerEvent → Bool
  | error .. => true
  | _ => false

/-- The deliveries of an operation, in order. -/
def SessionDeed.deliveries (deed : SessionDeed) : List DeliveryAttempt :=
  Effect.deliveries deed.effects

/-- The listener breaks off none of some deliveries. -/
def Steady (deliveries : List DeliveryAttempt) : Prop :=
  ∀ delivery ∈ deliveries, delivery.answer ≠ .crash

instance (deliveries : List DeliveryAttempt) : Decidable (Steady deliveries) :=
  inferInstanceAs (Decidable (∀ delivery ∈ deliveries, delivery.answer ≠ .crash))

theorem Steady.of_append {first second : List DeliveryAttempt} (steady : Steady (first ++ second)) :
    Steady first ∧ Steady second :=
  ⟨fun delivery member => steady delivery (List.mem_append_left _ member),
    fun delivery member => steady delivery (List.mem_append_right _ member)⟩

namespace Effect

@[simp]
theorem deliveries_notice (notice : Notice) (effects : List Effect) :
    deliveries (.notice notice :: effects) = deliveries effects :=
  rfl

/-- Only calls that reach somebody matter for the deliveries. -/
theorem deliveries_filter_callsOut (effects : List Effect) :
    deliveries (effects.filter (·.callsOut)) = deliveries effects := by
  induction effects with
  | nil => rfl
  | cons effect effects ih =>
      cases effect with
      | notice | unlink => exact ih
      | delivery event answer => exact congrArg (DeliveryAttempt.mk event answer :: ·) ih
      | _ => exact ih

theorem deliveries_eq_nil {effects : List Effect}
    (silent : ∀ effect ∈ effects, effect.callsOut = false) : deliveries effects = [] := by
  rw [← deliveries_filter_callsOut, List.filter_eq_nil_iff.mpr]
  · rfl
  · intro effect member
    simp [silent effect member]

end Effect

namespace Session

section Reaction

variable {Action : Type} [HardwareAction Action]

/-- After its delivery, an acquisition shows at most that the user is active. -/
theorem silent_wake (scope : Scope) (info : Int32) (failed : Bool) :
    (do
      if info = AcquiredCode.good then
        Call.emit [.userActivity scope.user]
      return failed : Call Bool).Silent (· = failed) :=
  .afterIf (Call.Silent.emit rfl) fun _ => .returning failed

theorem orderly_acquired (scope : Scope) (action : Action) (info vendor : Int32) :
    (acquired scope action info vendor).Orderly (· = false) := by
  unfold acquired
  apply Call.Orderly.after (Call.Silent.emit rfl)
  intro _
  apply Call.Orderly.after (Call.Silent.note _)
  intro _
  dsimp only
  split
  · apply Call.Orderly.after (Call.Silent.note _)
    intro _
    apply Call.Orderly.after (Call.Silent.returning false)
    intro failed
    exact (silent_wake scope info failed).orderly _
  · apply (scope.orderly_deliverOrNote _).bind
    · intro failed _
      exact (silent_wake scope info failed).orderly _
    · intro failed past
      obtain rfl := Scope.failed_of_past rfl past
      exact .afterIf (Call.Silent.emit rfl) fun _ => .finish

theorem orderly_failed (scope : Scope) (action : Action) (device : UInt64)
    (error vendor : Int32) :
    (failed scope action device error vendor).Orderly (· = false) := by
  unfold failed
  apply (scope.orderly_reportError _ _ _ _).bind
  · intro _ none
    exact none.elim
  · intro _ _
    exact Call.Silent.finish

end Reaction

/-- What a session makes of an event is orderly. -/
theorem orderly_reaction (setting : Setting) (answers : Answers)
    (session : Session BuiltinAction) (event : HardwareEvent) :
    (session.reaction setting answers event).emission.Orderly (· = false) := by
  cases event with
  | acquired info vendor => exact orderly_acquired _ _ info vendor []
  | error device error vendor => exact orderly_failed _ session.action device error vendor []
  | result result => exact BuiltinAction.orderly_respond _ session.action result

variable {setting : Setting} {answers : Answers} {session : Session BuiltinAction}

/-- What the client of a session was told so far is orderly. -/
structure Heard (session : Session BuiltinAction) (deliveries : List DeliveryAttempt) : Prop where
  upToLast : ∀ delivery ∈ deliveries.dropLast, delivery.routine = true
  undone : session.done = false → ∀ delivery ∈ deliveries, delivery.routine = true

theorem Heard.silence {after : Session BuiltinAction} {deliveries : List DeliveryAttempt}
    (heard : session.Heard deliveries) (done : after.done = session.done) :
    after.Heard (deliveries ++ []) := by
  rw [List.append_nil]
  exact ⟨heard.upToLast, fun undone => heard.undone (done.symm.trans undone)⟩

/-- Deliveries of an orderly call that returns may follow as long as the session
is not finished. -/
theorem Heard.append {after : Session BuiltinAction} {deliveries : List DeliveryAttempt}
    (heard : session.Heard deliveries) (undone : session.done = false)
    {emission : Emission Bool} (orderly : emission.Orderly (· = false)) {finished : Bool}
    (returned : emission.ending = .returned finished) (done : after.done = finished) :
    after.Heard (deliveries ++ Effect.deliveries emission.effects) := by
  have before := heard.undone undone
  refine ⟨?_, ?_⟩
  · exact DeliveryAttempt.routine_upToLast before (orderly.upToLast finished returned)
  · intro stillUndone delivery member
    rcases List.mem_append.mp member with earlier | now
    · exact before delivery earlier
    · exact orderly.throughout finished returned (done.symm.trans stillUndone) delivery now

theorem Cancelling.deliveries_eq_nil {Action : Type} {session : Session Action}
    {byClient : Bool} {step : Step Action Int32}
    (cancelling : Cancelling answers session byClient step) :
    Effect.deliveries step.effects = [] := by
  cases cancelling <;> rfl

theorem Cancelling.done_eq {Action : Type} {session : Session Action}
    {byClient : Bool} {step : Step Action Int32}
    (cancelling : Cancelling answers session byClient step) :
    step.session.done = session.done := by
  cases cancelling <;> rfl

/-- An orderly call that was broken off was broken off by the listener. -/
theorem not_steady_of_broken {emission : Emission Bool}
    (orderly : emission.Orderly (· = false)) {crash : Crash}
    (crashed : emission.ending = .crashed crash) :
    ¬ Steady (Effect.deliveries emission.effects) := by
  intro steady
  obtain ⟨delivery, member, isCrash⟩ := orderly.broken crash crashed
  exact steady delivery member isCrash

theorem Outcome.heard {operation : Operation} {step : Step BuiltinAction Reply}
    (outcome : Outcome setting answers session operation step)
    (steady : Steady (Effect.deliveries step.effects)) {deliveries : List DeliveryAttempt}
    (heard : session.Heard deliveries) :
    step.session.Heard (deliveries ++ Effect.deliveries step.effects) := by
  cases outcome with
  | startIgnored | startBroken | startAccepted | startRefused => exact heard.silence rfl
  | stopped cancelling =>
      rw [Step.map_effects, cancelling.deliveries_eq_nil]
      exact heard.silence cancelling.done_eq
  | droppedAfterVerdict | droppedAfterDestroy | diedAfterDestroy => exact heard.silence rfl
  | reactionBroken undone live crashed =>
      exact absurd steady (not_steady_of_broken (orderly_reaction _ _ _ _) crashed)
  | finished undone live returned =>
      exact heard.append undone (orderly_reaction _ _ _ _) returned rfl
  | continued undone live returned =>
      exact heard.append undone (orderly_reaction _ _ _ _) returned undone
  | deathBroken standing cancelling =>
      have none := cancelling.deliveries_eq_nil
      simp only at none
      simp only [Effect.deliveries_notice, none]
      exact heard.silence cancelling.done_eq
  | deathHandled standing cancelling =>
      have none := cancelling.deliveries_eq_nil
      simp only at none
      simp only [Effect.deliveries_notice, none]
      exact heard.silence cancelling.done_eq
  | destroyed =>
      rw [Effect.deliveries_eq_nil fun effect member => destroyEffects_callsOut member]
      exact heard.silence rfl

@[simp]
theorem locked_deliveries {Action Value : Type} (session : Session Action)
    (step : Step Action Value) :
    Effect.deliveries (session.locked step).effects = Effect.deliveries step.effects := by
  rw [locked_effects, Effect.deliveries_append,
    Effect.deliveries_eq_nil fun effect member => recovery_callsOut member]
  rfl

/-- An event that the client could not be told, or that tells it that the session
is over, finishes the session. -/
theorem done_of_unroutine {event : HardwareEvent}
    (steady : Steady
      (Effect.deliveries (session.perform setting answers (.callback event)).effects))
    {delivery : DeliveryAttempt}
    (member : delivery ∈
      Effect.deliveries (session.perform setting answers (.callback event)).effects)
    (unroutine : delivery.routine = false) :
    (session.perform setting answers (.callback event)).session.done = true := by
  obtain ⟨step, outcome, performed⟩ :=
    perform_outcome setting answers session (.callback event)
  rw [performed] at steady member ⊢
  rw [locked_deliveries] at steady member
  rw [locked_done]
  cases outcome with
  | droppedAfterVerdict | droppedAfterDestroy => cases member
  | reactionBroken undone live crashed =>
      exact absurd steady (not_steady_of_broken (orderly_reaction _ _ _ _) crashed)
  | finished => rfl
  | continued undone live returned =>
      have routine := (orderly_reaction _ _ _ _).throughout _ returned rfl delivery member
      simp [unroutine] at routine

/-- Giving a session up tells its client of one more event at most, and of none
if the session was finished. -/
theorem Heard.drop {deliveries : List DeliveryAttempt} (heard : session.Heard deliveries)
    (steady : Steady (Effect.deliveries (session.drop setting answers).effects)) :
    ∀ delivery ∈ (deliveries ++
      Effect.deliveries (session.drop setting answers).effects).dropLast,
        delivery.routine = true := by
  have opening : Effect.deliveries
      (.notice .leaked :: session.unlinking answers .leakUnlinkFailed) = [] := by
    apply Effect.deliveries_eq_nil
    intro effect member
    rcases List.mem_cons.mp member with rfl | unlinked
    · rfl
    · exact unlinking_callsOut unlinked
  unfold Session.drop at steady ⊢
  cases token : session.token with
  | none =>
      simp only [Effect.deliveries_nil, List.append_nil]
      exact heard.upToLast
  | some position =>
      cases done : session.done with
      | true =>
          simp only [if_true, opening, List.append_nil]
          exact heard.upToLast
      | false =>
          simp only [token, done, Bool.false_eq_true, if_false, Effect.deliveries_append,
            opening, List.nil_append] at steady ⊢
          have report := (session.scope setting answers).orderly_reportError
            (HardwareAction.kind session.action) (session.scope setting answers).device
              ErrorCode.hardwareUnavailable 0 []
          cases ended : (((session.scope setting answers).reportError
            (HardwareAction.kind session.action) (session.scope setting answers).device
              ErrorCode.hardwareUnavailable 0) []).ending with
          | crashed crash =>
              obtain ⟨delivery, member, isCrash⟩ := report.broken crash ended
              exact absurd isCrash (steady delivery member)
          | returned nothing =>
              exact DeliveryAttempt.routine_upToLast (heard.undone done)
                (report.upToLast nothing ended)

end Session

/-- As long as the listener breaks off no call, what a client hears in the life
of its session is orderly. -/
theorem heardInvariant :
    LifeInvariant fun (_ : Setting) (session : Session BuiltinAction)
        (life : List SessionDeed) =>
      Steady (life.flatMap (·.deliveries)) → session.Heard (life.flatMap (·.deliveries)) where
  made _ action listening linked _ := ⟨by simp, by simp⟩
  performed setting answers session life operation heard steady := by
    rw [List.flatMap_append, List.flatMap_singleton] at steady ⊢
    obtain ⟨past, now⟩ := steady.of_append
    obtain ⟨step, outcome, performed⟩ :=
      Session.perform_outcome setting answers session operation
    have same : (SessionDeed.of operation
        (session.perform setting answers operation)).deliveries =
          Effect.deliveries step.effects := by
      rw [performed]
      exact Session.locked_deliveries session step
    rw [same] at now ⊢
    rw [performed]
    have after := outcome.heard now (heard past)
    refine ⟨after.upToLast, ?_⟩
    rw [Session.locked_done]
    exact after.undone

end BiometricSession
