import BiometricSession.Proofs.Session.Life

/-!
# Sessions grow older

The life of a session has a direction.  Flags that are set stay set, the phase
never goes back, and what a session has let go of does not come back to it,
however an operation goes and even if it is broken off.

Only two things end a session: an event that finishes it, and its destruction.
The death of its client leaves the phase as it is.
-/

namespace BiometricSession

/-- The place of a stage in the life of a session. -/
def Phase.rank : Phase → Nat
  | created => 0
  | running => 1
  | terminated => 2

theorem Phase.rank_le_terminated (phase : Phase) : phase.rank ≤ Phase.terminated.rank := by
  cases phase <;> decide

namespace Session

variable {Action : Type} {first middle last session : Session Action}

/-- A session has grown from one moment to another: no flag was reset, the phase
has not gone back, and nothing that was gone has come back. -/
structure Ages (before after : Session Action) : Prop where
  cancelled : before.cancelled = true → after.cancelled = true
  done : before.done = true → after.done = true
  destroyed : before.destroyed = true → after.destroyed = true
  phase_le : before.phase.rank ≤ after.phase.rank
  token : before.token = none → after.token = none
  link : before.link = none → after.link = none
  listening : before.listening = false → after.listening = false

namespace Ages

theorem refl (session : Session Action) : session.Ages session :=
  ⟨id, id, id, Nat.le_refl _, id, id, id⟩

theorem trans (front : first.Ages middle) (back : middle.Ages last) : first.Ages last where
  cancelled := back.cancelled ∘ front.cancelled
  done := back.done ∘ front.done
  destroyed := back.destroyed ∘ front.destroyed
  phase_le := Nat.le_trans front.phase_le back.phase_le
  token := back.token ∘ front.token
  link := back.link ∘ front.link
  listening := back.listening ∘ front.listening

/-- A session that is created now was created all along. -/
theorem created (ages : first.Ages last) (isCreated : last.phase = .created) :
    first.phase = .created := by
  have early := ages.phase_le
  rw [isCreated] at early
  cases phase : first.phase with
  | created => rfl
  | running | terminated => simp [phase, Phase.rank] at early

theorem uncancelled (ages : first.Ages last) (isFirst : last.cancelled = false) :
    first.cancelled = false := by
  cases before : first.cancelled with
  | false => rfl
  | true => cases isFirst.symm.trans (ages.cancelled before)

theorem locked {Value : Type} {step : Step Action Value} (ages : first.Ages step.session) :
    first.Ages (session.locked step).session where
  cancelled := by simpa using ages.cancelled
  done := by simpa using ages.done
  destroyed := by simpa using ages.destroyed
  phase_le := by simpa using ages.phase_le
  token := by simpa using ages.token
  link := by simpa using ages.link
  listening := by simpa using ages.listening

end Ages

theorem Cancelling.ages {answers : Answers} {byClient : Bool} {step : Step Action Int32}
    (cancelling : Cancelling answers session byClient step) : session.Ages step.session := by
  cases cancelling with
  | ended | repeated | broken | refused => exact .refl session
  | accepted => exact { Ages.refl session with cancelled := fun _ => rfl }

theorem Cancelling.phase_eq {answers : Answers} {byClient : Bool} {step : Step Action Int32}
    (cancelling : Cancelling answers session byClient step) :
    step.session.phase = session.phase := by
  cases cancelling <;> rfl

theorem ages_destroyedSession (session : Session Action) :
    session.Ages session.destroyedSession where
  cancelled := id
  done := id
  destroyed _ := rfl
  phase_le := by
    unfold destroyedSession
    cases session.destroyed with
    | true => exact Nat.le_refl _
    | false => exact session.phase.rank_le_terminated
  token _ := rfl
  link absent := by
    unfold destroyedSession
    cases session.token with
    | none => exact absent
    | some token => rfl
  listening _ := rfl

section Action

variable [HardwareAction Action] {setting : Setting} {answers : Answers}
  {operation : Operation}

theorem Outcome.ages {step : Step Action Reply}
    (outcome : Outcome setting answers session operation step) :
    session.Ages step.session := by
  cases outcome with
  | startIgnored | startBroken | startRefused | droppedAfterVerdict | droppedAfterDestroy
  | diedAfterDestroy => exact .refl session
  | startAccepted created =>
      have forward : session.phase.rank ≤ Phase.running.rank := by
        rw [created]
        decide
      exact { Ages.refl session with phase_le := forward }
  | stopped cancelling => exact cancelling.ages
  | reactionBroken | continued => exact ⟨id, id, id, Nat.le_refl _, id, id, id⟩
  | finished =>
      exact ⟨id, fun _ => rfl, id, session.phase.rank_le_terminated, id, id, id⟩
  | deathBroken standing cancelling => exact cancelling.ages
  | @deathHandled _ _ after effects status cancelling =>
      have aged := cancelling.ages
      refine { aged with token := fun _ => rfl, link := fun _ => rfl, listening := ?_ }
      intro detached
      have still : after.listening = false := aged.listening detached
      simp [still]
  | destroyed => exact session.ages_destroyedSession

/-- Whatever a session goes through, it grows older. -/
theorem ages_perform (setting : Setting) (answers : Answers) (session : Session Action)
    (operation : Operation) :
    session.Ages (session.perform setting answers operation).session := by
  obtain ⟨step, outcome, performed⟩ := perform_outcome setting answers session operation
  rw [performed]
  exact outcome.ages.locked

theorem Outcome.ends {step : Step Action Reply}
    (outcome : Outcome setting answers session operation step)
    (live : session.phase ≠ .terminated) (terminated : step.session.phase = .terminated) :
    (∃ event, operation = .callback event ∧ step.ending = .returned (.verdict true)) ∨
      operation = .destroy ∧ step.ending = .returned .none := by
  cases outcome with
  | startIgnored | startBroken | startRefused | droppedAfterVerdict | droppedAfterDestroy
  | reactionBroken | continued | diedAfterDestroy => exact absurd terminated live
  | startAccepted => cases terminated
  | stopped cancelling => exact absurd (cancelling.phase_eq.symm.trans terminated) live
  | finished => exact .inl ⟨_, rfl, rfl⟩
  | deathBroken standing cancelling =>
      exact absurd (cancelling.phase_eq.symm.trans terminated) live
  | deathHandled standing cancelling =>
      exact absurd (cancelling.phase_eq.symm.trans terminated) live
  | destroyed => exact .inr ⟨rfl, rfl⟩

/-- Only an event that finishes it and its destruction end a session. -/
theorem ends_of_terminated (live : session.phase ≠ .terminated)
    (terminated : (session.perform setting answers operation).session.phase = .terminated) :
    (∃ event, operation = .callback event ∧
      (session.perform setting answers operation).ending = .returned (.verdict true)) ∨
      operation = .destroy ∧
        (session.perform setting answers operation).ending = .returned .none := by
  obtain ⟨step, outcome, performed⟩ := perform_outcome setting answers session operation
  rw [performed, locked_phase] at terminated
  rw [performed, locked_ending]
  exact outcome.ends live terminated

end Action

end Session

/-- A session that goes through deaths of its client only does not end. -/
theorem Course.terminated_of_deaths {Action : Type} [HardwareAction Action]
    {setting : Setting} {first last : Session Action} {life : List SessionDeed}
    (course : Course setting first life last)
    (deaths : ∀ deed ∈ life, deed.operation = .clientDied true)
    (terminated : last.phase = .terminated) : first.phase = .terminated := by
  induction course with
  | start => exact terminated
  | @perform middle earlier course answers operation ih =>
      have isDeath : operation = .clientDied true :=
        deaths _ (List.mem_append_right _ (List.mem_singleton_self _))
      have ended : middle.phase = .terminated := by
        by_cases live : middle.phase = .terminated
        · exact live
        rcases Session.ends_of_terminated live terminated with
          ⟨event, isEvent, _⟩ | ⟨isEnd, _⟩
        · cases isDeath.symm.trans isEvent
        · cases isDeath.symm.trans isEnd
      exact ih (fun deed member => deaths deed (List.mem_append_left _ member)) ended

end BiometricSession
