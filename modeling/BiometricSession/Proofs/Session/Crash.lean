import BiometricSession.Proofs.Session.Soundness

/-!
# Operations that are broken off

A collaborator that breaks an operation off leaves the session as the operation found
it.  Only two things may have happened before: the lock is poisoned, and the action has
taken the result into account.
-/

namespace BiometricSession.Session

variable {Action : Type} {session : Session Action} {answers : Answers} {crash : Crash}

variable [HardwareAction Action] {setting : Setting} {operation : Operation}

theorem Outcome.of_crashed {step : Step Action Reply}
    (outcome : Outcome setting answers session operation step)
    (crashed : step.ending = .crashed crash) :
    step.session = { session with action := step.session.action } := by
  cases outcome with
  | startBroken | reactionBroken => rfl
  | stopped cancelling =>
      cases cancelling with
      | broken => rfl
      | ended | repeated | accepted | refused => cases crashed
  | deathBroken standing cancelling =>
      cases cancelling with
      | broken => rfl
  | startIgnored | startAccepted | startRefused | droppedAfterVerdict | droppedAfterDestroy
  | finished | continued | diedAfterDestroy | deathHandled | destroyed => cases crashed

/-- An operation that is broken off leaves the session as it was, apart from its action
and its poisoned lock. -/
theorem perform_of_crashed
    (crashed : (session.perform setting answers operation).ending = .crashed crash) :
    let after := (session.perform setting answers operation).session
    after = { session with action := after.action, poisoned := true } := by
  obtain ⟨step, outcome, performed⟩ := perform_outcome setting answers session operation
  rw [performed, locked_ending] at crashed
  have same := outcome.of_crashed crashed
  rw [performed, locked_session, crashed]
  generalize step.session = after at same
  rw [same]

end BiometricSession.Session
