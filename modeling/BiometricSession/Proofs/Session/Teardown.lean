import BiometricSession.Proofs.Session.Mourning
import BiometricSession.Proofs.Session.Veil

/-!
# Sessions that are torn down

A session is torn down when it is destroyed: it has ended and holds neither its token
nor its listener.  A client's death that comes before leaves its trace in one place
only, the memory of a cancellation; one that comes after changes nothing any more.
-/

namespace BiometricSession

namespace Session

variable {Action : Type} {session : Session Action}

/-- The session without the memory of a cancellation. -/
def uncancelled (session : Session Action) : Session Action :=
  { session with cancelled := false }

/-- What a destroyed session looks like. -/
structure TornDown (session : Session Action) : Prop where
  destroyed : session.destroyed = true
  terminated : session.phase = .terminated
  token_eq : session.token = none
  link_eq : session.link = none
  listening_eq : session.listening = false

theorem Sound.tornDown (sound : session.Sound) (destroyed : session.destroyed = true) :
    session.TornDown :=
  have bare := sound.destroyed_bare destroyed
  ⟨destroyed, sound.terminated_iff.mpr (.inr destroyed), bare.1, bare.2.1, bare.2.2⟩

/-- Sessions that have ended and look the same at rest differ only in whether they were
cancelled. -/
theorem eq_of_atRest_eq {other : Session Action} (alike : session.atRest = other.atRest)
    (first : session.phase = .terminated) (second : other.phase = .terminated) :
    session = { other with cancelled := session.cancelled } := by
  unfold atRest at alike
  rw [first, second] at alike
  cases session
  cases other
  simp_all

/-- How handling a client's death changes a session that was not destroyed and whose
hardware answers. -/
theorem clientDied_session [HardwareAction Action] {answers : Answers} (setting : Setting)
    (clearListener : Bool) {code : Int32} (answering : answers.stop = .status code)
    (standing : session.destroyed = false) :
    ∃ cancelled,
      (session.perform setting answers (.clientDied clearListener)).session =
        { session with
          cancelled
          token := none
          link := none
          listening := session.listening && !clearListener } := by
  obtain ⟨step, outcome, performed⟩ :=
    perform_outcome setting answers session (.clientDied clearListener)
  rw [performed, locked_session]
  cases outcome with
  | diedAfterDestroy destroyed => simp [standing] at destroyed
  | deathBroken _ cancelling =>
      cases cancelling with
      | broken live first answer => simp [answering] at answer
  | deathHandled _ cancelling =>
      cases cancelling with
      | ended | repeated | refused => exact ⟨session.cancelled, rfl⟩
      | accepted => exact ⟨true, rfl⟩

section Action

variable [HardwareAction Action] {setting : Setting} {answers : Answers}

/-- What the hardware answers to the stop shows only in the memory of a cancellation. -/
theorem clientDied_uncancelled {others : Answers} (setting : Setting) (session : Session Action)
    (clearListener : Bool) {code other : Int32} (answering : answers.stop = .status code)
    (answeringToo : others.stop = .status other) :
    (session.perform setting answers (.clientDied clearListener)).session.uncancelled =
      (session.perform setting others (.clientDied clearListener)).session.uncancelled := by
  cases destroyed : session.destroyed with
  | true =>
      rw [(Outcome.diedAfterDestroy destroyed).perform_eq,
        (Outcome.diedAfterDestroy destroyed).perform_eq]
  | false =>
      obtain ⟨_, mourned⟩ := clientDied_session setting clearListener answering destroyed
      obtain ⟨_, mournedToo⟩ := clientDied_session setting clearListener answeringToo destroyed
      rw [mourned, mournedToo]
      rfl

theorem destroy_returned (setting : Setting) (answers : Answers) (session : Session Action) :
    (session.perform setting answers .destroy).ending = .returned .none ∧
      (session.perform setting answers .destroy).session = session.destroyedSession := by
  rw [Outcome.destroyed.perform_eq, locked_ending, locked_session]
  exact ⟨rfl, rfl⟩

theorem destroy_silent (setting : Setting) (answers : Answers) (session : Session Action) :
    ∀ effect ∈ (session.perform setting answers .destroy).effects,
      effect.callsOut = false := by
  intro effect member
  rw [Outcome.destroyed.perform_eq, locked_effects] at member
  rcases List.mem_append.mp member with recovering | done
  · exact recovery_callsOut recovering
  · exact destroyEffects_callsOut done

/-- To destroy a session always succeeds and leaves it torn down. -/
theorem tornDown_destroy (setting : Setting) (answers : Answers) (sound : session.Sound) :
    (session.perform setting answers .destroy).ending = .returned .none ∧
      (session.perform setting answers .destroy).session.TornDown := by
  obtain ⟨returned, left⟩ := session.destroy_returned setting answers
  exact ⟨returned, (sound_perform setting answers .destroy sound).tornDown (by rw [left]; rfl)⟩

omit [HardwareAction Action] in
theorem TornDown.destroyedSession_eq (tornDown : session.TornDown) :
    session.destroyedSession = session := by
  obtain ⟨destroyed, _, token_eq, _, listening_eq⟩ := tornDown
  cases session
  simp_all [destroyedSession]

/-- Nothing changes a session that is torn down, and what it does depends on no
collaborator. -/
theorem Outcome.of_tornDown {operation : Operation} {step : Step Action Reply}
    (outcome : Outcome setting answers session operation step) (tornDown : session.TornDown)
    (others : Answers) :
    step.session = session ∧ Outcome setting others session operation step := by
  have ended := tornDown.terminated
  cases outcome with
  | startIgnored begun => exact ⟨rfl, .startIgnored begun⟩
  | startBroken created | startAccepted created | startRefused created =>
      cases ended.symm.trans created
  | stopped cancelling =>
      obtain rfl := cancelling.of_terminated ended
      exact ⟨rfl, .stopped (.ended ended)⟩
  | droppedAfterVerdict done => exact ⟨rfl, .droppedAfterVerdict done⟩
  | droppedAfterDestroy undone _ => exact ⟨rfl, .droppedAfterDestroy undone ended⟩
  | reactionBroken _ live | finished _ live | continued _ live => exact absurd ended live
  | diedAfterDestroy destroyed => exact ⟨rfl, .diedAfterDestroy destroyed⟩
  | deathBroken standing | deathHandled standing =>
      cases tornDown.destroyed.symm.trans standing
  | destroyed =>
      have same : session.destroyEffects answers = session.destroyEffects others := by
        simp [destroyEffects, unlinking, tornDown.token_eq]
      rw [same]
      exact ⟨tornDown.destroyedSession_eq, .destroyed⟩

theorem TornDown.perform (tornDown : session.TornDown) (setting : Setting)
    (answers : Answers) (operation : Operation) :
    (session.perform setting answers operation).session = session := by
  obtain ⟨step, outcome, performed⟩ := perform_outcome setting answers session operation
  obtain ⟨_, _, answer⟩ := outcome.of_terminated tornDown.terminated
  rw [performed, locked_session, answer]
  exact (outcome.of_tornDown tornDown answers).1

theorem TornDown.perform_congr (tornDown : session.TornDown) (setting : Setting)
    (first second : Answers) (operation : Operation) :
    session.perform setting first operation = session.perform setting second operation := by
  obtain ⟨step, outcome, performed⟩ := perform_outcome setting first session operation
  rw [performed, (outcome.of_tornDown tornDown second).2.perform_eq]

/-- Sessions that are torn down and differ in the memory of a cancellation at most do
the same, whatever their collaborators answer. -/
theorem TornDown.perform_alike {other : Session Action} (tornDown : session.TornDown)
    (alike : session.atRest = other.atRest) (setting : Setting) (first second : Answers)
    (operation : Operation) :
    (session.perform setting first operation).effects =
        (other.perform setting second operation).effects ∧
      (session.perform setting first operation).ending =
        (other.perform setting second operation).ending := by
  have seen := calc
    (session.perform setting second operation).seen atRest (fun _ => true)
    _ = (session.atRest.perform setting second operation).seen atRest (fun _ => true) :=
        (Veil.rest.perform_hide setting second session operation).symm
    _ = (other.atRest.perform setting second operation).seen atRest (fun _ => true) := by
        rw [alike]
    _ = (other.perform setting second operation).seen atRest (fun _ => true) :=
        Veil.rest.perform_hide setting second other operation
  obtain ⟨_, effects, ending⟩ := Step.mk.inj seen
  have shown (effects : List Effect) : effects.filter (fun _ => true) = effects :=
    List.filter_eq_self.mpr fun _ _ => rfl
  rw [shown, shown] at effects
  rw [tornDown.perform_congr setting first second]
  exact ⟨effects, ending⟩

/-- Whether the client dies before a session is destroyed shows only in the memory of a
cancellation. -/
theorem destroy_after_death (setting : Setting) (sound : session.Sound) {code : Int32}
    (answering : answers.stop = .status code) :
    (session.perform setting answers (.clientDied true)).session.destroyedSession.atRest =
      session.destroyedSession.atRest := by
  cases destroyed : session.destroyed with
  | true => rw [(sound.tornDown destroyed).perform]
  | false =>
      obtain ⟨cancelled, mourned⟩ :=
        clientDied_session setting true answering destroyed
      have unlinked : session.token.elim session.link (fun _ => none) = none :=
        sound.bare_destroyedSession.link_eq
      rw [mourned]
      simp [destroyedSession, atRest, destroyed, unlinked]

theorem TornDown.drop (tornDown : session.TornDown) (setting : Setting) (answers : Answers) :
    session.drop setting answers = ⟨[], .returned ()⟩ := by
  simp [Session.drop, tornDown.token_eq]

omit [HardwareAction Action] in
theorem Cancelling.asksStart_eq_false {byClient : Bool} {step : Step Action Int32}
    (cancelling : Cancelling answers session byClient step) :
    ∀ effect ∈ step.effects, effect.asksStart = false := by
  cases cancelling <;> simp [Effect.asksStart]

/-- A session that lets go of its token does not ask the hardware to start. -/
theorem asksStart_of_releases (setting : Setting) (answers : Answers)
    (session : Session Action) {operation : Operation} (releases : operation.releases = true) :
    ∀ effect ∈ (session.perform setting answers operation).effects,
      effect.asksStart = false := by
  obtain ⟨step, outcome, performed⟩ := perform_outcome setting answers session operation
  rw [performed, locked_effects]
  intro effect member
  rcases List.mem_append.mp member with recovering | done
  · exact (Effect.unasked_of_quiet (recovery_callsOut recovering)).1
  cases outcome with
  | diedAfterDestroy =>
      obtain rfl := List.mem_singleton.mp done
      rfl
  | deathBroken _ cancelling | deathHandled _ cancelling =>
      rcases List.mem_cons.mp done with rfl | cancelled
      · rfl
      · exact cancelling.asksStart_eq_false effect cancelled
  | destroyed => exact (Effect.unasked_of_quiet (destroyEffects_callsOut done)).1
  | _ => cases releases

theorem deliveries_of_releases (setting : Setting) (answers : Answers)
    (session : Session Action) {operation : Operation} (releases : operation.releases = true) :
    Effect.deliveries (session.perform setting answers operation).effects = [] := by
  obtain ⟨step, outcome, performed⟩ := perform_outcome setting answers session operation
  rw [performed, locked_deliveries]
  cases outcome with
  | diedAfterDestroy => rfl
  | deathBroken _ cancelling | deathHandled _ cancelling => exact cancelling.deliveries_eq_nil
  | destroyed =>
      exact Effect.deliveries_eq_nil fun effect member => destroyEffects_callsOut member
  | _ => cases releases

end Action

end Session

end BiometricSession
