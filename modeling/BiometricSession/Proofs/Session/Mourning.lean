import BiometricSession.Proofs.Session.Hearing
import BiometricSession.Proofs.Session.Holding

/-!
# The death of a session's client

A session that hears of its client's death asks the hardware to stop, unless it
has ended or was cancelled before, and lets go of its token and its listener.
From then on it is silenced: it goes on as any session, but whatever happens to
it, its client is told nothing, not even when it is given up.
-/

namespace BiometricSession

theorem Effect.deliveries_eq_nil_of_inReach {effects : List Effect}
    (within : ∀ effect ∈ effects, effect.inReach false = true) :
    Effect.deliveries effects = [] := by
  induction effects with
  | nil => rfl
  | cons effect effects ih =>
      have head := within effect List.mem_cons_self
      have rest := ih fun other member => within other (List.mem_cons_of_mem _ member)
      cases effect with
      | delivery => cases head
      | _ => exact rest

namespace Session

variable {Action : Type} {session : Session Action}

/-- What a session asks of the hardware when its client dies, if the hardware
answers with a code. -/
def mourningCalls (session : Session Action) (code : Int32) : List Effect :=
  if session.phase = .terminated ∨ session.cancelled = true then
    []
  else
    [.halStop false (.status code)]

/-- A session has let go of its token and its listener. -/
structure Silenced (session : Session Action) : Prop where
  token_eq : session.token = none
  listening_eq : session.listening = false

theorem Cancelling.mourningCalls {answers : Answers} {step : Step Action Int32}
    (cancelling : Cancelling answers session false step) {code : Int32}
    (answering : answers.stop = .status code) :
    step.effects.filter (·.callsOut) = session.mourningCalls code := by
  unfold Session.mourningCalls
  cases cancelling with
  | ended terminated =>
      rw [if_pos (.inl terminated)]
      rfl
  | repeated live before =>
      rw [if_pos (.inr before)]
      rfl
  | broken live first answer => simp [answering] at answer
  | accepted live first answer =>
      obtain rfl := HalAnswer.status.inj (answering.symm.trans answer)
      simp [live, first, Effect.callsOut]
  | refused live first nonzero answer =>
      obtain rfl := HalAnswer.status.inj (answering.symm.trans answer)
      simp [live, first, Effect.callsOut]

theorem Cancelling.silenced {answers : Answers} {byClient : Bool} {step : Step Action Int32}
    (cancelling : Cancelling answers session byClient step) (silenced : session.Silenced) :
    step.session.Silenced := by
  cases cancelling <;> exact ⟨silenced.token_eq, silenced.listening_eq⟩

theorem Silenced.locked {Value : Type} {step : Step Action Value}
    (silenced : step.session.Silenced) : (session.locked step).session.Silenced :=
  ⟨by simpa using silenced.token_eq, by simpa using silenced.listening_eq⟩

theorem filter_callsOut_recovery (session : Session Action) :
    session.recovery.filter (·.callsOut) = [] := by
  rw [List.filter_eq_nil_iff]
  intro effect member
  simp [recovery_callsOut member]

section Action

variable [HardwareAction Action] {setting : Setting} {answers : Answers}

/-- While the hardware answers, a session handles its client's death to the
end, and asks the hardware to stop if there is something to be cancelled. -/
theorem clientDied_answered (setting : Setting) (clearListener : Bool)
    (sound : session.Sound) {code : Int32} (answering : answers.stop = .status code) :
    (session.perform setting answers (.clientDied clearListener)).ending = .returned .none ∧
      (session.perform setting answers (.clientDied clearListener)).effects.filter
        (·.callsOut) = session.mourningCalls code := by
  obtain ⟨step, outcome, performed⟩ :=
    perform_outcome setting answers session (.clientDied clearListener)
  rw [performed, locked_ending, locked_effects, List.filter_append, filter_callsOut_recovery,
    List.nil_append]
  cases outcome with
  | diedAfterDestroy destroyed =>
      have terminated := sound.terminated_iff.mpr (.inr destroyed)
      refine ⟨rfl, ?_⟩
      rw [mourningCalls, if_pos (.inl terminated)]
      rfl
  | deathBroken standing cancelling =>
      cases cancelling with
      | broken live first answer => simp [answering] at answer
  | deathHandled standing cancelling => exact ⟨rfl, cancelling.mourningCalls answering⟩

/-- No session hears of its client's death without leaving a notice of it. -/
theorem clientDied_effects_ne_nil (setting : Setting) (answers : Answers)
    (session : Session Action) (clearListener : Bool) :
    (session.perform setting answers (.clientDied clearListener)).effects ≠ [] := by
  obtain ⟨step, outcome, performed⟩ :=
    perform_outcome setting answers session (.clientDied clearListener)
  rw [performed, locked_effects]
  cases outcome <;> simp

/-- A session that has handled its client's death is silenced, if it was not
asked to keep the listener. -/
theorem silenced_clientDied (sound : session.Sound) {reply : Reply}
    (returned : (session.perform setting answers (.clientDied true)).ending =
      .returned reply) :
    (session.perform setting answers (.clientDied true)).session.Silenced := by
  obtain ⟨step, outcome, performed⟩ :=
    perform_outcome setting answers session (.clientDied true)
  rw [performed] at returned ⊢
  rw [locked_ending] at returned
  apply Silenced.locked
  cases outcome with
  | diedAfterDestroy destroyed =>
      have bare := sound.destroyed_bare destroyed
      exact ⟨bare.1, bare.2.2⟩
  | deathBroken => cases returned
  | deathHandled => exact ⟨rfl, Bool.and_false _⟩

variable [ScopedAction Action]

theorem Outcome.silenced {operation : Operation} {step : Step Action Reply}
    (outcome : Outcome setting answers session operation step) (silenced : session.Silenced) :
    step.session.Silenced ∧ Effect.deliveries step.effects = [] := by
  have unheard : ∀ event : HardwareEvent,
      Effect.deliveries (session.reaction setting answers event).emission.effects = [] := by
    intro event
    apply Effect.deliveries_eq_nil_of_inReach
    have within := session.reaction_inReach setting answers event
    rwa [silenced.listening_eq] at within
  cases outcome with
  | startIgnored | startBroken | startRefused | droppedAfterVerdict | droppedAfterDestroy
  | diedAfterDestroy => exact ⟨silenced, rfl⟩
  | startAccepted => exact ⟨⟨silenced.token_eq, silenced.listening_eq⟩, rfl⟩
  | stopped cancelling =>
      exact ⟨cancelling.silenced silenced, cancelling.deliveries_eq_nil⟩
  | reactionBroken | finished | continued =>
      exact ⟨⟨silenced.token_eq, silenced.listening_eq⟩, unheard _⟩
  | deathBroken standing cancelling =>
      exact ⟨cancelling.silenced silenced, cancelling.deliveries_eq_nil⟩
  | deathHandled standing cancelling =>
      have still := (cancelling.silenced silenced).listening_eq
      simp only at still
      exact ⟨⟨rfl, by simp [still]⟩, cancelling.deliveries_eq_nil⟩
  | destroyed =>
      exact ⟨⟨rfl, rfl⟩,
        Effect.deliveries_eq_nil fun effect member => destroyEffects_callsOut member⟩

/-- A silenced session stays so, and tells its client nothing. -/
theorem silenced_perform (setting : Setting) (answers : Answers) (operation : Operation)
    (silenced : session.Silenced) :
    (session.perform setting answers operation).session.Silenced ∧
      Effect.deliveries (session.perform setting answers operation).effects = [] := by
  obtain ⟨step, outcome, performed⟩ := perform_outcome setting answers session operation
  obtain ⟨still, unheard⟩ := outcome.silenced silenced
  rw [performed, locked_effects, Effect.deliveries_append, unheard,
    Effect.deliveries_eq_nil fun effect member => recovery_callsOut member]
  exact ⟨still.locked, rfl⟩

omit [ScopedAction Action] in
theorem drop_of_silenced (setting : Setting) (answers : Answers)
    (silenced : session.Silenced) : (session.drop setting answers).effects = [] := by
  simp [drop, silenced.token_eq]

end Action

end Session

end BiometricSession
