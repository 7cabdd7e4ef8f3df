import BiometricSession.Proofs.Action.Breaking
import BiometricSession.Proofs.Session.Verdict

/-!
# Sessions whose listener breaks

What a session makes of an event is the same for a listener that takes everything and for one
that breaks, up to the first event that the second refuses.  All operations but the hardware's
events are the same throughout, since they tell the client nothing.
-/

namespace BiometricSession

/-- The listener takes everything. -/
def Answers.TakesAll (answers : Answers) : Prop :=
  ∀ earlier event, answers.delivery earlier event = .sent

/-- The same answers, but from a listener that breaks after so many events, if it has heard so
many before. -/
def Answers.upTo (limit heard : Nat) (answers : Answers) : Answers :=
  { answers with delivery := .upTo limit heard }

namespace Session

section Action

variable {Action : Type} [HardwareAction Action] {scope : Scope} {limit heard : Nat}

theorem breaks_acquired (takes : scope.TakesAll) (action : Action) (info vendor : Int32) :
    (acquired scope action info vendor).Breaks limit heard
      (acquired (scope.answering (.upTo limit heard)) action info vendor) := by
  have wake (failed : Bool) :
      (do
        if info = AcquiredCode.good then
          Call.emit [.userActivity scope.user]
        return failed : Call Bool).Breaks limit heard
      (do
        if info = AcquiredCode.good then
          Call.emit [.userActivity scope.user]
        return failed : Call Bool) :=
    .of_untold fun earlier => (silent_wake scope info failed earlier).1
  unfold acquired
  refine (Call.Breaks.emit rfl).bind ?_
  intro _
  refine (Call.Breaks.note _).bind ?_
  intro _
  dsimp only
  split
  · refine (Call.Breaks.note _).bind ?_
    intro _
    exact (Call.Breaks.pure false).bind wake
  · exact (Scope.breaks_deliverOrNote takes _).bind wake

theorem breaks_failed (takes : scope.TakesAll) (action : Action) (device : UInt64)
    (error vendor : Int32) :
    (failed scope action device error vendor).Breaks limit heard
      (failed (scope.answering (.upTo limit heard)) action device error vendor) := by
  unfold failed
  exact (Scope.breaks_reportError takes _ _ _ _).bind fun _ => .pure true

/-- An operation that is no event of the hardware does not ask the listener. -/
theorem perform_of_delivery {operation : Operation}
    (noEvent : ∀ event, operation ≠ .callback event) (setting : Setting) (answers : Answers)
    (session : Session Action)
    (delivery : List ListenerEvent → ListenerEvent → DeliveryAnswer) :
    session.perform setting { answers with delivery } operation =
      session.perform setting answers operation := by
  cases operation with
  | callback event => exact absurd rfl (noEvent event)
  | start | stop | clientDied | destroy => rfl

/-- Nothing but what it makes of the event matters to what a session does about it. -/
theorem perform_callback_congr {setting : Setting} {answers other : Answers}
    {session : Session Action} {event : HardwareEvent}
    (same : session.reaction setting other event = session.reaction setting answers event) :
    session.perform setting other (.callback event) =
      session.perform setting answers (.callback event) := by
  unfold reaction at same
  simp only [perform, handle, same]

/-- An operation that is no event of the hardware tells the client nothing. -/
theorem deliveries_of_noEvent {operation : Operation}
    (noEvent : ∀ event, operation ≠ .callback event) (setting : Setting) (answers : Answers)
    (session : Session Action) :
    Effect.deliveries (session.perform setting answers operation).effects = [] := by
  obtain ⟨step, outcome, performed⟩ := perform_outcome setting answers session operation
  rw [performed, locked_deliveries]
  cases outcome with
  | startIgnored | startBroken | startAccepted | startRefused | diedAfterDestroy => rfl
  | stopped cancelling => exact cancelling.deliveries_eq_nil
  | deathBroken standing cancelling | deathHandled standing cancelling =>
      exact cancelling.deliveries_eq_nil
  | destroyed => exact Effect.deliveries_eq_nil fun effect member => destroyEffects_callsOut member
  | droppedAfterVerdict | droppedAfterDestroy | reactionBroken | finished | continued =>
      exact absurd rfl (noEvent _)

/-- A session that is not open any more drops every event alike, and tells the client
nothing. -/
theorem perform_callback_of_closed {session : Session Action} (closed : session.isOpen = false)
    (setting : Setting) (answers other : Answers) (event : HardwareEvent) :
    session.perform setting other (.callback event) =
        session.perform setting answers (.callback event) ∧
      Effect.deliveries (session.perform setting answers (.callback event)).effects = [] := by
  obtain ⟨step, outcome, performed⟩ :=
    perform_outcome setting answers session (.callback event)
  rw [performed, locked_deliveries]
  cases outcome with
  | droppedAfterVerdict done =>
      exact ⟨(Outcome.droppedAfterVerdict done).perform_eq, rfl⟩
  | droppedAfterDestroy undone terminated =>
      exact ⟨(Outcome.droppedAfterDestroy undone terminated).perform_eq, rfl⟩
  | reactionBroken undone live | finished undone live | continued undone live =>
      simp [isOpen, undone, live] at closed

end Action

variable {answers : Answers} {limit heard : Nat}

/-- What a session makes of an event is the same up to the first event that a listener refuses
which breaks. -/
theorem breaks_reaction (takes : answers.TakesAll) (within : heard ≤ limit) (setting : Setting)
    (session : Session BuiltinAction) (event : HardwareEvent) :
    let whole := session.reaction setting answers event
    let cut := session.reaction setting (answers.upTo limit heard) event
    cut.action = whole.action ∧ whole.emission.Breaks limit heard cut.emission := by
  let scope := session.scope setting answers
  have takes : scope.TakesAll := takes
  cases event with
  | acquired info vendor =>
      exact ⟨rfl, breaks_acquired takes session.action info vendor [] within⟩
  | error device error vendor =>
      exact ⟨rfl, breaks_failed takes session.action device error vendor [] within⟩
  | result result =>
      obtain ⟨next, call, other, breaks, answer, answerToo⟩ :=
        BuiltinAction.respond_compared (scope.compares_breaks takes session.action.kind result)
      change (session.action.respond (scope.answering (.upTo limit heard)) result).action =
          (session.action.respond scope result).action ∧
        (session.action.respond scope result).emission.Breaks limit heard
          (session.action.respond (scope.answering (.upTo limit heard)) result).emission
      rw [answer, answerToo]
      exact ⟨rfl, breaks [] within⟩

/-- An open session does what it makes of an event, whether or not that finishes it. -/
theorem effects_callback {session : Session BuiltinAction} (isOpen : session.isOpen = true)
    (setting : Setting) (answers : Answers) (event : HardwareEvent) :
    (session.perform setting answers (.callback event)).effects =
      session.recovery ++ (session.reaction setting answers event).emission.effects := by
  obtain ⟨step, outcome, performed⟩ :=
    perform_outcome setting answers session (.callback event)
  rw [performed, locked_effects]
  cases outcome with
  | droppedAfterVerdict done => simp [Session.isOpen, done] at isOpen
  | droppedAfterDestroy undone terminated => simp [Session.isOpen, terminated] at isOpen
  | reactionBroken | finished | continued => rfl

/-- If it comes to an end, an open session answers whether the event finishes it. -/
theorem ending_callback {session : Session BuiltinAction} (isOpen : session.isOpen = true)
    {setting : Setting} {answers : Answers} {event : HardwareEvent} {finished : Bool}
    (returned :
      (session.reaction setting answers event).emission.ending = .returned finished) :
    (session.perform setting answers (.callback event)).ending =
      .returned (.verdict finished) := by
  obtain ⟨step, outcome, performed⟩ :=
    perform_outcome setting answers session (.callback event)
  rw [performed, locked_ending]
  cases outcome with
  | droppedAfterVerdict done => simp [Session.isOpen, done] at isOpen
  | droppedAfterDestroy undone terminated => simp [Session.isOpen, terminated] at isOpen
  | reactionBroken undone live crashed => cases returned.symm.trans crashed
  | finished undone live ending | continued undone live ending =>
      obtain rfl := Ending.returned.inj (returned.symm.trans ending)
      rfl

end Session

end BiometricSession
