import BiometricSession.Proofs.Session.Life

/-!
# Soundness and the end of a session

The end of a session is recorded in three places: its phase, the flag of a
finishing verdict, and the flag of its destruction.  A session is sound if the
three agree and a destroyed session holds nothing.  New sessions are sound, and
no operation breaks soundness, however it goes.

A sound session that has ended stays so.  It answers every operation the same
way, and neither an operation nor giving it up reaches a collaborator.
-/

namespace BiometricSession

namespace Operation

/-- What a session that has ended answers to an operation. -/
def replyAfterEnd : Operation → Reply
  | start => .status alreadyInProgress
  | stop _ => .status 0
  | callback _ => .verdict false
  | clientDied _ | destroy => .none

end Operation

namespace Session

variable {Action : Type}

/-- What holds of a session at every moment of its life. -/
structure Sound (session : Session Action) : Prop where
  terminated_iff :
    session.phase = .terminated ↔ session.done = true ∨ session.destroyed = true
  destroyed_bare : session.destroyed = true →
    session.token = none ∧ session.link = none ∧ session.listening = false
  link_none : session.token = none → session.link = none

theorem sound_make (action : Action) (listening : Bool)
    (linked : Option (Nat × Except TokenError Nat)) :
    (make action listening linked).1.Sound := by
  rcases linked with _ | ⟨token, error | link⟩ <;>
    exact ⟨by simp [make], by simp [make], by simp [make]⟩

theorem make_action (action : Action) (listening : Bool)
    (linked : Option (Nat × Except TokenError Nat)) :
    (make action listening linked).1.action = action := by
  rcases linked with _ | ⟨token, error | link⟩ <;> rfl

theorem make_phase (action : Action) (listening : Bool)
    (linked : Option (Nat × Except TokenError Nat)) :
    (make action listening linked).1.phase = .created := by
  rcases linked with _ | ⟨token, error | link⟩ <;> rfl

/-- The making of a session reaches nobody. -/
theorem make_callsOut (action : Action) (listening : Bool)
    (linked : Option (Nat × Except TokenError Nat)) :
    ∀ effect ∈ (make action listening linked).2, effect.callsOut = false := by
  rcases linked with _ | ⟨token, error | link⟩ <;> simp [make, Effect.callsOut]

theorem Sound.standing_of_running {session : Session Action} (sound : session.Sound)
    (running : session.phase = .running) : session.destroyed = false := by
  cases destroyed : session.destroyed with
  | false => rfl
  | true => simp [sound.terminated_iff.mpr (.inr destroyed)] at running

theorem Sound.locked {Value : Type} {session : Session Action}
    {step : Step Action Value} (sound : step.session.Sound) :
    (session.locked step).session.Sound := by
  constructor
  · simpa using sound.terminated_iff
  · simpa using sound.destroyed_bare
  · simpa using sound.link_none

theorem Cancelling.sound {answers : Answers} {session : Session Action}
    {byClient : Bool} {step : Step Action Int32}
    (cancelling : Cancelling answers session byClient step) (sound : session.Sound) :
    step.session.Sound := by
  cases cancelling with
  | ended | repeated | broken | refused => exact sound
  | accepted => exact ⟨sound.terminated_iff, sound.destroyed_bare, sound.link_none⟩

/-- Once its death is handled, a session that stands is still sound. -/
theorem Sound.released {session : Session Action} (sound : session.Sound)
    (standing : session.destroyed = false) (listening : Bool) :
    Sound { session with token := none, link := none, listening := listening } := by
  refine ⟨sound.terminated_iff, ?_, fun _ => rfl⟩
  intro destroyed
  simp [standing] at destroyed

theorem Sound.destroyedSession {session : Session Action} (sound : session.Sound) :
    session.destroyedSession.Sound := by
  refine ⟨?_, ?_, ?_⟩
  · have ended := sound.terminated_iff.mpr
    cases destroyed : session.destroyed <;>
      simp_all [Session.destroyedSession]
  · intro _
    refine ⟨rfl, ?_, rfl⟩
    cases token : session.token with
    | none => simpa [Session.destroyedSession, token] using sound.link_none token
    | some token => simp [Session.destroyedSession, token]
  · intro _
    cases token : session.token with
    | none => simpa [Session.destroyedSession, token] using sound.link_none token
    | some token => simp [Session.destroyedSession, token]

theorem Cancelling.destroyed_eq {answers : Answers} {session : Session Action}
    {byClient : Bool} {step : Step Action Int32}
    (cancelling : Cancelling answers session byClient step) :
    step.session.destroyed = session.destroyed := by
  cases cancelling <;> rfl

/-- Nothing is cancelled once the session has ended. -/
theorem Cancelling.of_terminated {answers : Answers} {session : Session Action}
    {byClient : Bool} {step : Step Action Int32}
    (cancelling : Cancelling answers session byClient step)
    (terminated : session.phase = .terminated) :
    step = ⟨session, [.notice .stopAfterEnd], .returned 0⟩ := by
  cases cancelling with
  | ended => rfl
  | repeated live => exact absurd terminated live
  | broken live => exact absurd terminated live
  | accepted live => exact absurd terminated live
  | refused live => exact absurd terminated live

theorem recovery_callsOut {session : Session Action} {effect : Effect}
    (member : effect ∈ session.recovery) : effect.callsOut = false := by
  unfold recovery at member
  split at member <;> simp_all [Effect.callsOut]

theorem unlinking_callsOut {answers : Answers} {session : Session Action}
    {report : TokenError → Notice} {effect : Effect}
    (member : effect ∈ session.unlinking answers report) : effect.callsOut = false := by
  unfold unlinking at member
  split at member
  · rcases List.mem_cons.mp member with rfl | reported
    · rfl
    · obtain ⟨error, _, rfl⟩ := List.mem_map.mp reported
      rfl
  · cases member

section Action

variable [HardwareAction Action] {setting : Setting} {answers : Answers}
  {session : Session Action}

theorem destroyEffects_callsOut {effect : Effect}
    (member : effect ∈ session.destroyEffects answers) : effect.callsOut = false := by
  unfold destroyEffects at member
  rcases List.mem_append.mp member with unlinked | ended
  · split at unlinked
    · simp_all [Effect.callsOut]
    · exact unlinking_callsOut unlinked
  · split at ended
    · cases ended
    · simp_all [Effect.callsOut]

theorem Outcome.sound {operation : Operation} {step : Step Action Reply}
    (outcome : Outcome setting answers session operation step) (sound : session.Sound) :
    step.session.Sound := by
  cases outcome with
  | startIgnored | startBroken | startRefused | droppedAfterVerdict
  | droppedAfterDestroy | diedAfterDestroy => exact sound
  | reactionBroken | continued =>
      exact ⟨sound.terminated_iff, sound.destroyed_bare, sound.link_none⟩
  | startAccepted created =>
      have unended : ¬(session.done = true ∨ session.destroyed = true) := by
        rw [← sound.terminated_iff, created]
        decide
      exact ⟨⟨by simp, fun ended => absurd ended unended⟩, sound.destroyed_bare,
        sound.link_none⟩
  | stopped cancelling => exact cancelling.sound sound
  | finished => exact ⟨by simp, sound.destroyed_bare, sound.link_none⟩
  | deathBroken standing cancelling => exact cancelling.sound sound
  | deathHandled standing cancelling =>
      exact (cancelling.sound sound).released (cancelling.destroyed_eq.trans standing) _
  | destroyed => exact sound.destroyedSession

/-- No operation breaks soundness, however it goes. -/
theorem sound_perform (setting : Setting) (answers : Answers) (operation : Operation)
    (sound : session.Sound) :
    (session.perform setting answers operation).session.Sound := by
  obtain ⟨step, outcome, performed⟩ := perform_outcome setting answers session operation
  rw [performed]
  exact (outcome.sound sound).locked

/-- Destroying a session ends it. -/
theorem terminated_of_destroy (sound : session.Sound) :
    (session.perform setting answers .destroy).session.phase = .terminated := by
  have destroyed : (session.perform setting answers .destroy).session.destroyed = true := by
    simp [perform, destroy]
  exact (sound_perform setting answers .destroy sound).terminated_iff.mpr (.inr destroyed)

theorem Outcome.of_terminated {operation : Operation} {step : Step Action Reply}
    (outcome : Outcome setting answers session operation step)
    (terminated : session.phase = .terminated) :
    step.session.phase = .terminated ∧
      (∀ effect ∈ step.effects, effect.callsOut = false) ∧
        step.ending = .returned operation.replyAfterEnd := by
  cases outcome with
  | startIgnored => exact ⟨terminated, by simp [Effect.callsOut], rfl⟩
  | startBroken created => simp [terminated] at created
  | startAccepted created => simp [terminated] at created
  | startRefused created => simp [terminated] at created
  | stopped cancelling =>
      obtain rfl := cancelling.of_terminated terminated
      exact ⟨terminated, by simp [Effect.callsOut], rfl⟩
  | droppedAfterVerdict | droppedAfterDestroy | diedAfterDestroy =>
      exact ⟨terminated, by simp [Effect.callsOut], rfl⟩
  | reactionBroken _ live => exact absurd terminated live
  | finished _ live => exact absurd terminated live
  | continued _ live => exact absurd terminated live
  | deathBroken _ cancelling =>
      have nothing := cancelling.of_terminated terminated
      simp at nothing
  | deathHandled _ cancelling =>
      have nothing := cancelling.of_terminated terminated
      simp only [Step.mk.injEq] at nothing
      obtain ⟨rfl, rfl, _⟩ := nothing
      exact ⟨terminated, by simp [Effect.callsOut], rfl⟩
  | destroyed =>
      refine ⟨?_, fun effect member => destroyEffects_callsOut member, rfl⟩
      simp [destroyedSession, terminated]

/-- A session that has ended stays so, reaches nobody, and answers every
operation the same way. -/
theorem perform_of_terminated (setting : Setting) (answers : Answers)
    (operation : Operation) (terminated : session.phase = .terminated) :
    (session.perform setting answers operation).session.phase = .terminated ∧
      (∀ effect ∈ (session.perform setting answers operation).effects,
        effect.callsOut = false) ∧
        (session.perform setting answers operation).ending =
          .returned operation.replyAfterEnd := by
  obtain ⟨step, outcome, performed⟩ := perform_outcome setting answers session operation
  obtain ⟨stays, silent, answer⟩ := outcome.of_terminated terminated
  rw [performed]
  refine ⟨by simpa using stays, ?_, by simpa using answer⟩
  intro effect member
  rw [locked_effects] at member
  rcases List.mem_append.mp member with recovering | done
  · exact recovery_callsOut recovering
  · exact silent effect done

/-- Giving up a session that has ended reaches nobody. -/
theorem drop_of_terminated (setting : Setting) (answers : Answers)
    (sound : session.Sound) (terminated : session.phase = .terminated) :
    ∀ effect ∈ (session.drop setting answers).effects, effect.callsOut = false := by
  intro effect member
  unfold drop at member
  cases token : session.token with
  | none => simp [token] at member
  | some position =>
      have done : session.done = true := by
        rcases sound.terminated_iff.mp terminated with done | destroyed
        · exact done
        · simp [(sound.destroyed_bare destroyed).1] at token
      simp only [token, done, if_true] at member
      rcases List.mem_cons.mp member with rfl | unlinked
      · rfl
      · exact unlinking_callsOut unlinked

end Action

end Session

section Life

variable {Action : Type} [HardwareAction Action]

/-- Soundness of a session is an invariant of its life. -/
theorem soundInvariant :
    LifeInvariant fun (_ : Setting) (session : Session Action) (_ : List SessionDeed) =>
      session.Sound where
  made _ action listening linked := Session.sound_make action listening linked
  performed setting answers _ _ operation sound :=
    Session.sound_perform setting answers operation sound

namespace Course

variable {setting : Setting} {first last : Session Action} {life : List SessionDeed}

theorem sound (course : Course setting first life last) (sound : first.Sound) :
    last.Sound :=
  soundInvariant.course [] course sound

theorem of_terminated (course : Course setting first life last)
    (terminated : first.phase = .terminated) :
    last.phase = .terminated ∧
      ∀ deed ∈ life, ∀ effect ∈ deed.effects, effect.callsOut = false := by
  induction course with
  | start => exact ⟨terminated, by simp⟩
  | perform course answers operation ih =>
      obtain ⟨before, quiet⟩ := ih
      obtain ⟨stays, silent, _⟩ :=
        Session.perform_of_terminated setting answers operation before
      refine ⟨stays, ?_⟩
      intro deed member
      rcases List.mem_append.mp member with earlier | now
      · exact quiet deed earlier
      · obtain rfl := List.mem_singleton.mp now
        exact silent

end Course

end Life

end BiometricSession
