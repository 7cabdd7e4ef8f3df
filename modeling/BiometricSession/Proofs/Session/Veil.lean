import BiometricSession.Proofs.Session.Soundness

/-!
# Hidden parts of a session

Some parts of a session's state are looked at by no operation that could still tell:
whether the lock is poisoned, which only a warning reports, and whether a session that
has ended was cancelled before.  A veil hides such a part, together with the notices
that give it away.  Operations and giving up commute with the hiding.
-/

namespace BiometricSession

/-- What is seen of a step when some of the session and some of the effects are
hidden. -/
def Step.seen {Action Value : Type} (hide : Session Action → Session Action)
    (visible : Effect → Bool) (step : Step Action Value) : Step Action Value :=
  ⟨hide step.session, step.effects.filter visible, step.ending⟩

/-- What is seen of a session when it is given up and some effects are hidden. -/
def Emission.seen {Value : Type} (visible : Effect → Bool) (emission : Emission Value) :
    Emission Value :=
  ⟨emission.effects.filter visible, emission.ending⟩

/-- A part of the state of sessions, and some notices, that make no difference to
anything else. -/
structure Veil (Action : Type) [HardwareAction Action] where
  hide : Session Action → Session Action
  visible : Effect → Bool
  notice_of_hidden : ∀ {effect}, visible effect = false → ∃ notice, effect = .notice notice
  hide_hide : ∀ session, hide (hide session) = hide session
  hide_token : ∀ session, (hide session).token = session.token
  hide_link : ∀ session, (hide session).link = session.link
  perform_hide : ∀ setting answers session operation,
    ((hide session).perform setting answers operation).seen hide visible =
      (session.perform setting answers operation).seen hide visible
  drop_hide : ∀ setting answers session,
    ((hide session).drop setting answers).seen visible =
      (session.drop setting answers).seen visible

namespace Session

variable {Action : Type}

/-! ## The poisoned lock -/

/-- The session with a lock that is not poisoned. -/
def cured (session : Session Action) : Session Action :=
  { session with poisoned := false }

/-- Whether an effect is anything else than the report of a poisoned lock. -/
def healthy (effect : Effect) : Bool :=
  effect != .notice .recoveringLock

theorem Cancelling.cured {answers : Answers} {session : Session Action} {byClient : Bool}
    {step : Step Action Int32} (cancelling : Cancelling answers session byClient step) :
    Cancelling answers session.cured byClient
      ⟨step.session.cured, step.effects, step.ending⟩ := by
  -- the session is named where it cannot be read off what comes of the way
  cases cancelling with
  | ended terminated => exact .ended terminated
  | repeated live before => exact .repeated live before
  | broken live first answer => exact .broken (show session.cured.phase ≠ _ from live) first answer
  | accepted live first answer => exact .accepted live first answer
  | refused live first nonzero answer =>
      exact .refused (show session.cured.phase ≠ _ from live) first nonzero answer

section Action

variable [HardwareAction Action] {setting : Setting} {answers : Answers}
  {session : Session Action} {operation : Operation}

/-- With the lock held, a session does what it does with a lock that is not
poisoned. -/
theorem Outcome.cured {step : Step Action Reply}
    (outcome : Outcome setting answers session operation step) :
    Outcome setting answers session.cured operation
      ⟨step.session.cured, step.effects, step.ending⟩ := by
  cases outcome with
  | startIgnored begun => exact .startIgnored begun
  | startBroken created answer =>
      exact .startBroken (show session.cured.phase = _ from created) answer
  | startAccepted created answer => exact .startAccepted created answer
  | startRefused created nonzero answer =>
      exact .startRefused (show session.cured.phase = _ from created) nonzero answer
  | stopped cancelling => exact .stopped cancelling.cured
  | droppedAfterVerdict done => exact .droppedAfterVerdict done
  | droppedAfterDestroy undone terminated => exact .droppedAfterDestroy undone terminated
  | reactionBroken undone live ending =>
      exact .reactionBroken (show session.cured.done = _ from undone) live ending
  | finished undone live ending => exact .finished undone live ending
  | continued undone live ending => exact .continued undone live ending
  | diedAfterDestroy destroyed => exact .diedAfterDestroy destroyed
  | deathBroken standing cancelling =>
      exact .deathBroken (show session.cured.destroyed = _ from standing) cancelling.cured
  | deathHandled standing cancelling =>
      exact .deathHandled (show session.cured.destroyed = _ from standing) cancelling.cured
  | destroyed => exact .destroyed

end Action

theorem filter_healthy_recovery (session : Session Action) :
    session.recovery.filter healthy = [] := by
  unfold recovery
  cases session.poisoned <;> rfl

/-- The lock shows itself only by the report and the poison. -/
theorem locked_seen {Value : Type} (session : Session Action) (step : Step Action Value) :
    (session.locked step).seen cured healthy = step.seen cured healthy := by
  unfold Step.seen
  rw [locked_effects, locked_ending, locked_session, List.filter_append,
    filter_healthy_recovery, List.nil_append]
  cases step.ending <;> rfl

/-! ## The cancellation of a session that has ended -/

/-- The session; if it has ended, without the memory of a cancellation. -/
def atRest (session : Session Action) : Session Action :=
  { session with cancelled := session.cancelled && session.phase != .terminated }

theorem atRest_of_live {session : Session Action} (live : session.phase ≠ .terminated) :
    session.atRest = session := by
  have distinct : (session.phase != .terminated) = true := by simpa using live
  unfold atRest
  rw [distinct, Bool.and_true]

theorem atRest_atRest (session : Session Action) : session.atRest.atRest = session.atRest := by
  simp [atRest]

/-- A session that has ended does the same whether it was cancelled or not. -/
theorem Outcome.atRest [HardwareAction Action] {setting : Setting} {answers : Answers}
    {session : Session Action} {operation : Operation} {step : Step Action Reply}
    (outcome : Outcome setting answers session operation step)
    (terminated : session.phase = .terminated) :
    Outcome setting answers session.atRest operation
      ⟨step.session.atRest, step.effects, step.ending⟩ := by
  have ended : session.atRest.phase = .terminated := terminated
  cases outcome with
  | startIgnored begun => exact .startIgnored begun
  | startBroken created | startAccepted created | startRefused created =>
      cases terminated.symm.trans created
  | reactionBroken undone live | finished undone live | continued undone live =>
      exact absurd terminated live
  | stopped cancelling =>
      obtain rfl := cancelling.of_terminated terminated
      exact .stopped (.ended ended)
  | droppedAfterVerdict done => exact .droppedAfterVerdict done
  | droppedAfterDestroy undone _ => exact .droppedAfterDestroy undone ended
  | diedAfterDestroy destroyed => exact .diedAfterDestroy destroyed
  | deathBroken standing cancelling =>
      have nothing := cancelling.of_terminated terminated
      simp at nothing
  | deathHandled standing cancelling =>
      have nothing := cancelling.of_terminated terminated
      simp only [Step.mk.injEq] at nothing
      obtain ⟨same, only, _⟩ := nothing
      rw [same, only]
      exact .deathHandled (show session.atRest.destroyed = _ from standing) (.ended ended)
  | destroyed =>
      have left : session.destroyedSession.atRest = session.atRest.destroyedSession := by
        simp [destroyedSession, Session.atRest, terminated]
      rw [left]
      exact .destroyed

theorem locked_atRest {Value : Type} (session : Session Action) (step : Step Action Value)
    (visible : Effect → Bool) :
    (session.atRest.locked ⟨step.session.atRest, step.effects, step.ending⟩).seen atRest
        visible =
      (session.locked step).seen atRest visible := by
  have reports : session.atRest.recovery = session.recovery := rfl
  unfold Step.seen
  rw [locked_effects, locked_ending, locked_session, locked_effects, locked_ending,
    locked_session, reports]
  cases step.ending <;> simp [atRest]

end Session

namespace Veil

open Session

variable {Action : Type} [HardwareAction Action]

/-- Nothing depends on whether the lock is poisoned. -/
def lock : Veil Action where
  hide := cured
  visible := healthy
  notice_of_hidden := by
    intro effect hidden
    exact ⟨.recoveringLock, by simpa [healthy] using hidden⟩
  hide_hide _ := rfl
  hide_token _ := rfl
  hide_link _ := rfl
  perform_hide := by
    intro setting answers session operation
    obtain ⟨step, outcome, performed⟩ := perform_outcome setting answers session operation
    rw [performed, outcome.cured.perform_eq, locked_seen, locked_seen]
    rfl
  drop_hide _ _ _ := rfl

/-- Nothing depends on whether a session that has ended was cancelled before. -/
def rest : Veil Action where
  hide := atRest
  visible _ := true
  notice_of_hidden hidden := by cases hidden
  hide_hide := atRest_atRest
  hide_token _ := rfl
  hide_link _ := rfl
  perform_hide := by
    intro setting answers session operation
    by_cases terminated : session.phase = .terminated
    · obtain ⟨step, outcome, performed⟩ := perform_outcome setting answers session operation
      rw [performed, (outcome.atRest terminated).perform_eq, locked_atRest]
    · rw [atRest_of_live terminated]
  drop_hide _ _ _ := rfl

end Veil

end BiometricSession
