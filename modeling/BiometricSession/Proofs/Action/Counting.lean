import BiometricSession.Action.Builtin
import BiometricSession.Proofs.Session.Outcome

/-!
# What changes of an action

A session with one of the four actions changes its action in one way only: an
authentication counts one more rejection.  So whatever a session goes through, it
requests what it requested before.
-/

namespace BiometricSession

/-- An action is as before, or it is an authentication that counts one more
rejection. -/
inductive BuiltinAction.Counts : BuiltinAction → BuiltinAction → Prop
  | same (action : BuiltinAction) : Counts action action
  | rejection (authentication : Authentication) :
      Counts (.authenticate authentication) (.authenticate authentication.countRejection)

namespace BuiltinAction

theorem Counts.request_eq {before after : BuiltinAction} (counts : Counts before after) :
    after.request = before.request := by
  cases counts <;> rfl

theorem counts_respond (scope : Scope) (action : BuiltinAction) (result : HardwareResult) :
    action.Counts (action.respond scope result).action := by
  cases action with
  | authenticate authentication =>
      cases result with
      | authenticated identifier accepted token =>
          cases accepted with
          | true => exact .same _
          | false => exact .rejection authentication
      | enrolled | removed | enumerated => exact .same _
  | enroll | remove | enumerate => cases result <;> exact .same _

end BuiltinAction

namespace Session

variable {session : Session BuiltinAction} {setting : Setting} {answers : Answers}

theorem counts_reaction (setting : Setting) (answers : Answers)
    (session : Session BuiltinAction) (event : HardwareEvent) :
    session.action.Counts (session.reaction setting answers event).action := by
  cases event with
  | acquired | error => exact .same _
  | result result => exact BuiltinAction.counts_respond _ session.action result

theorem Cancelling.action_eq {Action : Type} {answers : Answers} {session : Session Action}
    {byClient : Bool} {step : Step Action Int32}
    (cancelling : Cancelling answers session byClient step) :
    step.session.action = session.action := by
  cases cancelling <;> rfl

theorem Outcome.counts {operation : Operation} {step : Step BuiltinAction Reply}
    (outcome : Outcome setting answers session operation step) :
    session.action.Counts step.session.action := by
  cases outcome with
  | reactionBroken | finished | continued => exact counts_reaction setting answers session _
  | stopped cancelling =>
      rw [Step.map_session, cancelling.action_eq]
      exact .same _
  | deathBroken standing cancelling | deathHandled standing cancelling =>
      have same := cancelling.action_eq
      simp only at same
      rw [same]
      exact .same _
  | _ => exact .same _

/-- Whatever a session goes through, its action is as before or has counted one more
rejection. -/
theorem counts_perform (setting : Setting) (answers : Answers)
    (session : Session BuiltinAction) (operation : Operation) :
    session.action.Counts (session.perform setting answers operation).session.action := by
  obtain ⟨step, outcome, performed⟩ := perform_outcome setting answers session operation
  rw [performed, locked_session]
  cases step.ending <;> exact outcome.counts

end Session

end BiometricSession
