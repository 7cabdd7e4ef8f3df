import BiometricSession.Session.Basic

/-!
# Outcomes of an operation

An operation on a session can go in a handful of ways, which depend on the
session's state and on the answers of its collaborators.  This file lists them
once, each with everything that leads to it and everything that comes of it.

The main statement says that every operation is one of these outcomes, taken
under the lock.  All later facts about what an operation does are read off the
list by cases and never open the operations themselves.
-/

namespace BiometricSession

namespace Effect

/-- Whether an effect reaches a collaborator of the session: the hardware, the
listener, the metrics, the haptics, the sink of user activity, or what a
diagnostic action shows.  Notices and the session's own link do not. -/
def callsOut : Effect → Bool
  | notice _ | unlink .. => false
  | _ => true

/-- An effect that reaches nobody does not reach the hardware. -/
theorem unasked_of_quiet {effect : Effect} (quiet : effect.callsOut = false) :
    effect.asksStart = false ∧ effect.asksStop = false := by
  cases effect <;> first | exact ⟨rfl, rfl⟩ | cases quiet

end Effect

namespace Ending

theorem map_eq_returned {First Second : Type} {convert : First → Second}
    {ending : Ending First} {value : Second} :
    ending.map convert = .returned value ↔
      ∃ first, ending = .returned first ∧ convert first = value := by
  cases ending <;> simp [map]

end Ending

namespace Step

variable {Action First Second : Type}

@[simp]
theorem map_session (convert : First → Second) (step : Step Action First) :
    (step.map convert).session = step.session :=
  rfl

@[simp]
theorem map_effects (convert : First → Second) (step : Step Action First) :
    (step.map convert).effects = step.effects :=
  rfl

@[simp]
theorem map_ending (convert : First → Second) (step : Step Action First) :
    (step.map convert).ending = step.ending.map convert :=
  rfl

end Step

namespace Session

variable {Action Value : Type}

/-! ## The lock -/

section Lock

variable (session : Session Action) (step : Step Action Value)

@[simp]
theorem locked_effects :
    (session.locked step).effects = session.recovery ++ step.effects := by
  unfold locked
  cases step.ending <;> rfl

@[simp]
theorem locked_ending : (session.locked step).ending = step.ending := by
  unfold locked
  cases ended : step.ending <;> rfl

/-- A broken-off step leaves the lock poisoned, and the lock changes nothing
else. -/
theorem locked_session :
    (session.locked step).session =
      match step.ending with
      | .returned _ => step.session
      | .crashed _ => { step.session with poisoned := true } := by
  unfold locked
  cases step.ending <;> rfl

@[simp]
theorem locked_phase : (session.locked step).session.phase = step.session.phase := by
  rw [locked_session]
  cases step.ending <;> rfl

@[simp]
theorem locked_cancelled :
    (session.locked step).session.cancelled = step.session.cancelled := by
  rw [locked_session]
  cases step.ending <;> rfl

@[simp]
theorem locked_done : (session.locked step).session.done = step.session.done := by
  rw [locked_session]
  cases step.ending <;> rfl

@[simp]
theorem locked_token : (session.locked step).session.token = step.session.token := by
  rw [locked_session]
  cases step.ending <;> rfl

@[simp]
theorem locked_link : (session.locked step).session.link = step.session.link := by
  rw [locked_session]
  cases step.ending <;> rfl

@[simp]
theorem locked_listening :
    (session.locked step).session.listening = step.session.listening := by
  rw [locked_session]
  cases step.ending <;> rfl

@[simp]
theorem locked_destroyed :
    (session.locked step).session.destroyed = step.session.destroyed := by
  rw [locked_session]
  cases step.ending <;> rfl

theorem locked_map {Other : Type} (convert : Value → Other) :
    (session.locked step).map convert = session.locked (step.map convert) := by
  unfold locked Step.map
  cases step.ending <;> rfl

end Lock

/-! ## Cancelling -/

/-- Every way in which asking the hardware to cancel can go, with the lock
held. -/
inductive Cancelling (answers : Answers) (session : Session Action) (byClient : Bool) :
    Step Action Int32 → Prop
  | ended (terminated : session.phase = .terminated) :
      Cancelling answers session byClient
        ⟨session, [.notice .stopAfterEnd], .returned 0⟩
  | repeated (live : session.phase ≠ .terminated) (before : session.cancelled = true) :
      Cancelling answers session byClient
        ⟨session, [.notice .stopAlreadyCancelled], .returned 0⟩
  | broken (live : session.phase ≠ .terminated) (first : session.cancelled = false)
      {code : Int32} (answer : answers.stop = .crash code) :
      Cancelling answers session byClient
        ⟨session, [.halStop byClient (.crash code)], .crashed .halStop⟩
  | accepted (live : session.phase ≠ .terminated) (first : session.cancelled = false)
      (answer : answers.stop = .status 0) :
      Cancelling answers session byClient
        ⟨{ session with cancelled := true },
          [.halStop byClient (.status 0), .notice (.stopped byClient)], .returned 0⟩
  | refused (live : session.phase ≠ .terminated) (first : session.cancelled = false)
      {code : Int32} (nonzero : code ≠ 0) (answer : answers.stop = .status code) :
      Cancelling answers session byClient
        ⟨session, [.halStop byClient (.status code), .notice (.stopRefused code)],
          .returned code⟩

theorem cancelling (answers : Answers) (session : Session Action) (byClient : Bool) :
    Cancelling answers session byClient (session.cancel answers byClient) := by
  unfold cancel
  by_cases terminated : session.phase = .terminated
  · rw [if_pos terminated]
    exact .ended terminated
  rw [if_neg terminated]
  cases first : session.cancelled with
  | true => exact .repeated terminated first
  | false =>
      cases answer : answers.stop with
      | crash code => exact .broken terminated first answer
      | status code =>
          by_cases accepted : code = 0
          · subst accepted
            exact .accepted terminated first answer
          · have refused : Cancelling answers session byClient _ :=
              .refused terminated first accepted answer
            simpa [accepted] using refused

/-! ## Operations -/

section Action

variable [HardwareAction Action]

/-- What a session that has not ended makes of an event, with the answers of its
collaborators. -/
def reaction (setting : Setting) (answers : Answers) (session : Session Action)
    (event : HardwareEvent) : Reaction Action :=
  react (session.scope setting answers) session.action event

/-- What a session does about its link when it is destroyed. -/
def destroyEffects (answers : Answers) (session : Session Action) : List Effect :=
  (match session.token, session.link with
    | some _, none => [.notice (.unlinkFailed .notLinked)]
    | _, _ => session.unlinking answers .unlinkFailed) ++
    if session.destroyed then
      []
    else
      [.notice (.destroyed (HardwareAction.kind session.action))]

/-- What is left of a session when it is destroyed. -/
def destroyedSession (session : Session Action) : Session Action :=
  { session with
    token := none
    link := session.token.elim session.link fun _ => none
    listening := false
    destroyed := true
    phase := if session.destroyed then session.phase else .terminated }

/-- Every way in which an operation can go, with the lock held. -/
inductive Outcome (setting : Setting) (answers : Answers) (session : Session Action) :
    Operation → Step Action Reply → Prop
  | startIgnored (begun : session.phase ≠ .created) :
      Outcome setting answers session .start
        ⟨session, [.notice (.startIgnored session.phase)],
          .returned (.status alreadyInProgress)⟩
  | startBroken (created : session.phase = .created) {code : Int32}
      (answer : answers.start = .crash code) :
      Outcome setting answers session .start
        ⟨session,
          [.halStart setting.descriptor (HardwareAction.request session.action)
            (.crash code)],
          .crashed .halStart⟩
  | startAccepted (created : session.phase = .created)
      (answer : answers.start = .status 0) :
      Outcome setting answers session .start
        ⟨{ session with phase := .running },
          [.halStart setting.descriptor (HardwareAction.request session.action)
              (.status 0),
            .notice (.started (HardwareAction.request session.action))],
          .returned (.status 0)⟩
  | startRefused (created : session.phase = .created) {code : Int32} (nonzero : code ≠ 0)
      (answer : answers.start = .status code) :
      Outcome setting answers session .start
        ⟨session,
          [.halStart setting.descriptor (HardwareAction.request session.action)
              (.status code),
            .notice (.startRefused (HardwareAction.request session.action) code)],
          .returned (.status code)⟩
  | stopped {byClient : Bool} {step : Step Action Int32}
      (cancelling : Cancelling answers session byClient step) :
      Outcome setting answers session (.stop byClient) (step.map .status)
  | droppedAfterVerdict {event : HardwareEvent} (done : session.done = true) :
      Outcome setting answers session (.callback event)
        ⟨session, [.notice (.callbackAfterVerdict event.callback)],
          .returned (.verdict false)⟩
  | droppedAfterDestroy {event : HardwareEvent} (undone : session.done = false)
      (terminated : session.phase = .terminated) :
      Outcome setting answers session (.callback event)
        ⟨session, [.notice (.callbackAfterDestroy event.callback)],
          .returned (.verdict false)⟩
  | reactionBroken {event : HardwareEvent} (undone : session.done = false)
      (live : session.phase ≠ .terminated) {crash : Crash}
      (ending : (session.reaction setting answers event).emission.ending =
        .crashed crash) :
      Outcome setting answers session (.callback event)
        ⟨{ session with action := (session.reaction setting answers event).action },
          (session.reaction setting answers event).emission.effects, .crashed crash⟩
  | finished {event : HardwareEvent} (undone : session.done = false)
      (live : session.phase ≠ .terminated)
      (ending : (session.reaction setting answers event).emission.ending =
        .returned true) :
      Outcome setting answers session (.callback event)
        ⟨{ session with
            action := (session.reaction setting answers event).action
            done := true
            phase := .terminated },
          (session.reaction setting answers event).emission.effects,
          .returned (.verdict true)⟩
  | continued {event : HardwareEvent} (undone : session.done = false)
      (live : session.phase ≠ .terminated)
      (ending : (session.reaction setting answers event).emission.ending =
        .returned false) :
      Outcome setting answers session (.callback event)
        ⟨{ session with action := (session.reaction setting answers event).action },
          (session.reaction setting answers event).emission.effects,
          .returned (.verdict false)⟩
  | diedAfterDestroy {clearListener : Bool} (destroyed : session.destroyed = true) :
      Outcome setting answers session (.clientDied clearListener)
        ⟨session, [.notice .diedAfterDestroy], .returned .none⟩
  | deathBroken {clearListener : Bool} (standing : session.destroyed = false)
      {after : Session Action} {effects : List Effect} {crash : Crash}
      (cancelling : Cancelling answers session false ⟨after, effects, .crashed crash⟩) :
      Outcome setting answers session (.clientDied clearListener)
        ⟨after, .notice .clientDied :: effects, .crashed crash⟩
  | deathHandled {clearListener : Bool} (standing : session.destroyed = false)
      {after : Session Action} {effects : List Effect} {status : Int32}
      (cancelling : Cancelling answers session false ⟨after, effects, .returned status⟩) :
      Outcome setting answers session (.clientDied clearListener)
        ⟨{ after with
            token := none
            link := none
            listening := after.listening && !clearListener },
          .notice .clientDied :: effects, .returned .none⟩
  | destroyed :
      Outcome setting answers session .destroy
        ⟨session.destroyedSession, session.destroyEffects answers, .returned .none⟩

theorem start_outcome (setting : Setting) (answers : Answers) (session : Session Action) :
    ∃ step, Outcome setting answers session .start step ∧
      session.perform setting answers .start = session.locked step := by
  simp only [perform, start, locked_map]
  refine ⟨_, ?_, rfl⟩
  by_cases created : session.phase = .created
  · rw [if_neg (not_not_intro created)]
    cases answer : answers.start with
    | crash code => exact .startBroken created answer
    | status code =>
        by_cases accepted : code = 0
        · subst accepted
          exact .startAccepted created answer
        · simp only [if_neg accepted]
          exact .startRefused created accepted answer
  · rw [if_pos created]
    exact .startIgnored created

theorem callback_outcome (setting : Setting) (answers : Answers)
    (session : Session Action) (event : HardwareEvent) :
    ∃ step, Outcome setting answers session (.callback event) step ∧
      session.perform setting answers (.callback event) = session.locked step := by
  simp only [perform, handle, locked_map]
  refine ⟨_, ?_, rfl⟩
  by_cases done : session.done = true
  · rw [if_pos done]
    exact .droppedAfterVerdict done
  rw [if_neg done]
  have undone : session.done = false := Bool.eq_false_iff.mpr done
  by_cases live : session.phase = .terminated
  · rw [if_pos live]
    exact .droppedAfterDestroy undone live
  rw [if_neg live]
  cases ending : (react (session.scope setting answers) session.action event).emission.ending with
  | crashed crash => exact .reactionBroken undone live ending
  | returned verdict =>
      cases verdict with
      | true => exact .finished undone live ending
      | false => exact .continued undone live ending

theorem clientDied_outcome (setting : Setting) (answers : Answers)
    (session : Session Action) (clearListener : Bool) :
    ∃ step, Outcome setting answers session (.clientDied clearListener) step ∧
      session.perform setting answers (.clientDied clearListener) =
        session.locked step := by
  simp only [perform, clientDied, locked_map]
  refine ⟨_, ?_, rfl⟩
  by_cases destroyed : session.destroyed = true
  · rw [if_pos destroyed]
    exact .diedAfterDestroy destroyed
  rw [if_neg destroyed]
  have standing : session.destroyed = false := Bool.eq_false_iff.mpr destroyed
  have way := cancelling answers session false
  rcases stopping : session.cancel answers false with ⟨after, effects, status | crash⟩
  · rw [stopping] at way
    exact .deathHandled standing way
  · rw [stopping] at way
    exact .deathBroken standing way

/-- Every operation goes in one of the listed ways. -/
theorem perform_outcome (setting : Setting) (answers : Answers)
    (session : Session Action) (operation : Operation) :
    ∃ step, Outcome setting answers session operation step ∧
      session.perform setting answers operation = session.locked step := by
  cases operation with
  | start => exact start_outcome setting answers session
  | stop byClient =>
      refine ⟨_, .stopped (cancelling answers session byClient), ?_⟩
      simp only [perform, stop, locked_map]
  | callback event => exact callback_outcome setting answers session event
  | clientDied clearListener =>
      exact clientDied_outcome setting answers session clearListener
  | destroy =>
      refine ⟨_, .destroyed, ?_⟩
      simp only [perform, destroy, locked_map]
      rfl

/-! ## The lists are exact -/

omit [HardwareAction Action] in
theorem Cancelling.cancel_eq {answers : Answers} {session : Session Action} {byClient : Bool}
    {step : Step Action Int32} (cancelling : Cancelling answers session byClient step) :
    session.cancel answers byClient = step := by
  unfold cancel
  cases cancelling with
  | ended terminated => rw [if_pos terminated]
  | repeated live before => rw [if_neg live, if_pos before]
  | broken live first answer => simp [live, first, answer]
  | accepted live first answer => simp [live, first, answer]
  | refused live first nonzero answer => simp [live, first, answer, nonzero]

/-- An operation goes in no other way than the listed ones, so that any of them that
is possible is the way in which it goes. -/
theorem Outcome.perform_eq {setting : Setting} {answers : Answers}
    {session : Session Action} {operation : Operation} {step : Step Action Reply}
    (outcome : Outcome setting answers session operation step) :
    session.perform setting answers operation = session.locked step := by
  cases outcome with
  | startIgnored begun =>
      rw [perform, start, locked_map, if_pos begun]
      rfl
  | startBroken created answer =>
      rw [perform, start, locked_map, if_neg (not_not_intro created), answer]
      rfl
  | startAccepted created answer =>
      rw [perform, start, locked_map, if_neg (not_not_intro created), answer]
      rfl
  | startRefused created nonzero answer =>
      rw [perform, start, locked_map, if_neg (not_not_intro created), answer]
      simp only [if_neg nonzero]
      rfl
  | stopped cancelling => rw [perform, stop, locked_map, cancelling.cancel_eq]
  | droppedAfterVerdict done =>
      rw [perform, handle, locked_map, if_pos done]
      rfl
  | droppedAfterDestroy undone terminated =>
      rw [perform, handle, locked_map, if_neg (by simp [undone]), if_pos terminated]
      rfl
  | reactionBroken undone live ending | finished undone live ending
  | continued undone live ending =>
      unfold reaction at ending
      rw [perform, handle, locked_map, if_neg (by simp [undone]), if_neg live]
      simp only [ending]
      rfl
  | diedAfterDestroy destroyed =>
      rw [perform, clientDied, locked_map, if_pos destroyed]
      rfl
  | deathBroken standing cancelling | deathHandled standing cancelling =>
      rw [perform, clientDied, locked_map, if_neg (by simp [standing]), cancelling.cancel_eq]
      rfl
  | destroyed =>
      rw [perform, destroy, locked_map]
      rfl

end Action

end Session

end BiometricSession
