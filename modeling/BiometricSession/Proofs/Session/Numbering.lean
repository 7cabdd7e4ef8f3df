import BiometricSession.Proofs.Action.Scoped

/-!
# The numbers of links

A session knows its link by a number, which its token has given out.  The number
goes back to the token when the link is to be removed, and nothing else hangs on
it: a session whose number is forgotten behaves like the session, in every
operation and when it is given up.
-/

namespace BiometricSession

namespace Effect

/-- An effect without the number of the session's link. -/
def unnumbered : Effect → Effect
  | unlink token _ refusal => unlink token 0 refusal
  | effect => effect

theorem map_unnumbered_of_inReach {effects : List Effect} {listening : Bool}
    (within : ∀ effect ∈ effects, effect.inReach listening = true) :
    effects.map (·.unnumbered) = effects := by
  rw [List.map_congr_left (g := id), List.map_id]
  intro effect member
  have reach := within effect member
  cases effect with
  | unlink => cases reach
  | _ => rfl

theorem attempts_unnumbered (effects : List Effect) :
    attempts (effects.map (·.unnumbered)) = attempts effects := by
  unfold attempts
  rw [List.filterMap_map]
  congr 1
  funext effect
  cases effect <;> rfl

end Effect

/-- A session without the number of its link. -/
def Session.unnumbered {Action : Type} (session : Session Action) : Session Action :=
  { session with link := session.link.map fun _ => 0 }

/-- A step without the number of the session's link. -/
def Step.unnumbered {Action Value : Type} (step : Step Action Value) : Step Action Value :=
  ⟨step.session.unnumbered, step.effects.map (·.unnumbered), step.ending⟩

theorem Step.map_unnumbered {Action First Second : Type} (convert : First → Second)
    (step : Step Action First) :
    (step.map convert).unnumbered = step.unnumbered.map convert :=
  rfl

namespace Session

variable {Action Value : Type}

/-- What a token says to the wish to be linked to it, without the number of the
link. -/
def unnumberedAnswer (linked : Nat × Except TokenError Nat) : Nat × Except TokenError Nat :=
  (linked.1, linked.2.map fun _ => 0)

theorem make_unnumbered (action : Action) (listening : Bool)
    (linked : Option (Nat × Except TokenError Nat)) :
    (make action listening (linked.map unnumberedAnswer)).1 =
        (make action listening linked).1.unnumbered ∧
      (make action listening (linked.map unnumberedAnswer)).2 =
        (make action listening linked).2.map (·.unnumbered) := by
  rcases linked with _ | ⟨token, error | link⟩ <;> exact ⟨rfl, rfl⟩

theorem recovery_unnumbered (session : Session Action) :
    session.recovery.map (·.unnumbered) = session.unnumbered.recovery := by
  unfold recovery
  change _ = if session.poisoned = true then _ else _
  split <;> rfl

theorem locked_unnumbered (session : Session Action) (step : Step Action Value) :
    (session.locked step).unnumbered = session.unnumbered.locked step.unnumbered := by
  unfold locked Step.unnumbered
  cases ended : step.ending <;> simp [recovery_unnumbered, unnumbered]

theorem unlinking_unnumbered (answers : Answers) (session : Session Action)
    (report : TokenError → Notice) :
    (session.unlinking answers report).map (·.unnumbered) =
      session.unnumbered.unlinking answers report := by
  have reported : (answers.unlinkRefusal.toList.map fun error =>
      Effect.notice (report error)).map (·.unnumbered) =
        answers.unlinkRefusal.toList.map fun error => .notice (report error) := by
    rw [List.map_map]
    rfl
  unfold unlinking unnumbered
  cases session.token with
  | none => rfl
  | some token =>
      cases session.link with
      | none => rfl
      | some link => exact congrArg (_ :: ·) reported

theorem cancel_unnumbered (answers : Answers) (session : Session Action) (byClient : Bool) :
    (session.cancel answers byClient).unnumbered =
      session.unnumbered.cancel answers byClient := by
  unfold cancel
  change _ = if session.phase = .terminated then _ else if session.cancelled = true then _ else _
  split
  · rfl
  split
  · rfl
  cases answers.stop with
  | crash => rfl
  | status code =>
      dsimp only
      split <;> rfl

section Action

variable [HardwareAction Action] (setting : Setting) (answers : Answers)
  (session : Session Action)

theorem start_unnumbered :
    (session.start setting answers).unnumbered = session.unnumbered.start setting answers := by
  unfold start
  rw [locked_unnumbered]
  congr 1
  change _ = if session.phase ≠ .created then _ else _
  split
  · rfl
  cases answers.start with
  | crash code => rfl
  | status code =>
      dsimp only
      split <;> rfl

theorem handle_unnumbered [ScopedAction Action] (event : HardwareEvent) :
    (session.handle setting answers event).unnumbered =
      session.unnumbered.handle setting answers event := by
  unfold handle
  rw [locked_unnumbered]
  congr 1
  change _ = if session.done = true then _ else if session.phase = .terminated then _ else _
  split
  · rfl
  split
  · rfl
  have kept := Effect.map_unnumbered_of_inReach (session.reaction_inReach setting answers event)
  rw [show react (session.unnumbered.scope setting answers) session.unnumbered.action event =
    session.reaction setting answers event from rfl]
  rw [show react (session.scope setting answers) session.action event =
    session.reaction setting answers event from rfl]
  generalize session.reaction setting answers event = reaction at kept
  obtain ⟨action, effects, ending⟩ := reaction
  rcases ending with (_ | _) | crash
  · exact congrArg (Step.mk _ · _) kept
  · exact congrArg (Step.mk _ · _) kept
  · exact congrArg (Step.mk _ · _) kept

omit [HardwareAction Action] in
theorem clientDied_unnumbered (clearListener : Bool) :
    (session.clientDied answers clearListener).unnumbered =
      session.unnumbered.clientDied answers clearListener := by
  unfold clientDied
  rw [locked_unnumbered, ← cancel_unnumbered]
  congr 1
  change _ = if session.destroyed = true then _ else _
  split
  · rfl
  rcases session.cancel answers false with ⟨after, effects, value | crash⟩ <;> rfl

theorem destroy_unnumbered :
    (session.destroy answers).unnumbered = session.unnumbered.destroy answers := by
  have removed : (session.destroyEffects answers).map (·.unnumbered) =
      session.unnumbered.destroyEffects answers := by
    unfold destroyEffects
    rw [List.map_append]
    congr 1
    · have unlinked := unlinking_unnumbered answers session .unlinkFailed
      cases token : session.token <;> cases link : session.link <;>
        simp_all [unnumbered, Effect.unnumbered]
    · change _ = if session.destroyed = true then _ else _
      split <;> rfl
  have left : session.destroyedSession.unnumbered = session.unnumbered.destroyedSession := by
    unfold destroyedSession unnumbered
    cases session.token <;> rfl
  change (session.locked ⟨session.destroyedSession, session.destroyEffects answers,
    .returned ()⟩).unnumbered = session.unnumbered.locked
      ⟨session.unnumbered.destroyedSession, session.unnumbered.destroyEffects answers,
        .returned ()⟩
  rw [locked_unnumbered, ← left, ← removed]
  rfl

/-- In every operation, a session whose number is forgotten behaves like the
session. -/
theorem perform_unnumbered [ScopedAction Action] (operation : Operation) :
    (session.perform setting answers operation).unnumbered =
      session.unnumbered.perform setting answers operation := by
  cases operation with
  | start => exact congrArg (Step.map _) (start_unnumbered setting answers session)
  | stop byClient =>
      simp only [perform, stop, Step.map_unnumbered, locked_unnumbered, cancel_unnumbered]
  | callback event => exact congrArg (Step.map _) (handle_unnumbered setting answers session event)
  | clientDied clearListener =>
      exact congrArg (Step.map _) (clientDied_unnumbered answers session clearListener)
  | destroy => exact congrArg (Step.map fun _ => Reply.none) (destroy_unnumbered answers session)

/-- A session whose number is forgotten behaves like the session when it is given
up. -/
theorem drop_unnumbered :
    session.unnumbered.drop setting answers =
      ⟨(session.drop setting answers).effects.map (·.unnumbered),
        (session.drop setting answers).ending⟩ := by
  have unlinked := unlinking_unnumbered answers session .leakUnlinkFailed
  unfold drop
  rw [show session.unnumbered.token = session.token from rfl]
  cases session.token with
  | none => rfl
  | some token =>
      have report := Effect.map_unnumbered_of_inReach
        ((session.scope setting answers).scoped_reportError (HardwareAction.kind session.action)
          (session.scope setting answers).device ErrorCode.hardwareUnavailable 0 [])
      change (if session.done = true then _ else _) = _
      cases session.done with
      | true => simp [← unlinked, Effect.unnumbered]
      | false =>
          simp only [← unlinked, Bool.false_eq_true, if_false, List.map_append, List.map_cons]
          exact congrArg (fun effects => Emission.mk (_ ++ effects) _) report.symm

end Action

end Session

end BiometricSession
