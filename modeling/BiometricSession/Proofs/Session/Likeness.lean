import BiometricSession.Proofs.Action.Counting
import BiometricSession.Proofs.Action.Scoped

/-!
# Sessions that are alike

Two sessions are alike if they are in the same state but for their actions, request the same
of the hardware as far as that is shown, get the same answers, and make of every event the
same but for effects that are not shown and for actions that are again related.  Whatever
is asked of them, they do the same but for what is not shown, they ask the hardware equally
often, and they are in the same state afterwards but for related actions.
-/

namespace BiometricSession

variable {Action : Type}

/-- Whether an effect tells what a session requests when it starts. -/
def Effect.tellsRequest : Effect → Bool
  | halStart .. | notice (.started _) | notice (.startRefused ..) => true
  | _ => false

/-- Effects that ask the hardware for as many starts and as many stops. -/
structure Effect.AskAlike (first second : List Effect) : Prop where
  starts_eq : first.countP (·.asksStart) = second.countP (·.asksStart)
  stops_eq : first.countP (·.asksStop) = second.countP (·.asksStop)

namespace Effect.AskAlike

theorem refl (effects : List Effect) : AskAlike effects effects :=
  ⟨rfl, rfl⟩

theorem append {first second front back : List Effect} (fronts : AskAlike first front)
    (backs : AskAlike second back) : AskAlike (first ++ second) (front ++ back) := by
  constructor
  · rw [List.countP_append, List.countP_append, fronts.starts_eq, backs.starts_eq]
  · rw [List.countP_append, List.countP_append, fronts.stops_eq, backs.stops_eq]

/-- Where all calls of the hardware are shown, effects that do not differ in what is shown
ask alike. -/
theorem of_filter_eq {shown : Effect → Bool} {first second : List Effect}
    (starts : ∀ effect, effect.asksStart = true → shown effect = true)
    (stops : ∀ effect, effect.asksStop = true → shown effect = true)
    (same : first.filter shown = second.filter shown) : AskAlike first second := by
  have counted {asks : Effect → Bool} (shows : ∀ effect, asks effect = true → shown effect = true)
      (effects : List Effect) : (effects.filter shown).countP asks = effects.countP asks := by
    rw [List.countP_filter]
    apply List.countP_congr
    intro effect _
    cases asked : asks effect with
    | false => simp
    | true => simp [shows effect asked]
  constructor
  · rw [← counted starts first, same, counted starts]
  · rw [← counted stops first, same, counted stops]

/-- A scope does not lend the hardware. -/
theorem of_inReach {first second : List Effect} {listening heard : Bool}
    (within : ∀ effect ∈ first, effect.inReach listening = true)
    (withinToo : ∀ effect ∈ second, effect.inReach heard = true) : AskAlike first second := by
  have silent {effects : List Effect} {reach : Bool}
      (within : ∀ effect ∈ effects, effect.inReach reach = true) :
      effects.countP (·.asksStart) = 0 ∧ effects.countP (·.asksStop) = 0 := by
    simp only [List.countP_eq_zero]
    refine ⟨fun effect member => ?_, fun effect member => ?_⟩ <;>
      have reached := within effect member <;>
      cases effect <;> first | exact Bool.false_ne_true | cases reached
  obtain ⟨noStart, noStop⟩ := silent within
  obtain ⟨noStartToo, noStopToo⟩ := silent withinToo
  exact ⟨noStart.trans noStartToo.symm, noStop.trans noStopToo.symm⟩

end Effect.AskAlike

/-- The session with another action. -/
def Session.recast (session : Session Action) (action : Action) : Session Action :=
  { session with action }

@[simp]
theorem Session.recast_action (session : Session Action) :
    session.recast session.action = session :=
  rfl

/-- Reactions that end in the same way and do not differ in what is shown or in how often
the hardware is asked. -/
structure Reaction.Alike (shown : Effect → Bool) (related : Action → Action → Prop)
    (first second : Reaction Action) : Prop where
  action : related first.action second.action
  effects : first.emission.effects.filter shown = second.emission.effects.filter shown
  asks : Effect.AskAlike first.emission.effects second.emission.effects
  ending : first.emission.ending = second.emission.ending

/-- Steps that end in the same way, do not differ in what is shown or in how often the
hardware is asked, and lead to sessions that do not differ but in their actions. -/
structure Step.Alike {Value : Type} (shown : Effect → Bool)
    (related : Action → Action → Prop) (first second : Step Action Value) : Prop where
  session : ∃ action, second.session = first.session.recast action ∧
    related first.session.action action
  effects : first.effects.filter shown = second.effects.filter shown
  asks : Effect.AskAlike first.effects second.effects
  ending : first.ending = second.ending

namespace Session

variable {shown : Effect → Bool} {related : Action → Action → Prop}
  {setting otherSetting : Setting} {answers otherAnswers : Answers} {session : Session Action}
  {other : Action}

/-- Under the lock, steps that are alike stay so. -/
theorem locked_alike {Value : Type} {first second : Step Action Value}
    (alike : first.Alike shown related second) :
    (session.locked first).Alike shown related ((session.recast other).locked second) := by
  obtain ⟨⟨action, session_eq, kept⟩, effects_eq, asks, ending_eq⟩ := alike
  have recovery_eq : (session.recast other).recovery = session.recovery := rfl
  refine ⟨⟨action, ?_, ?_⟩, by simp [recovery_eq, effects_eq], ?_, by simp [ending_eq]⟩
  · rw [locked_session, locked_session, ← ending_eq, session_eq]
    cases first.ending <;> rfl
  · rw [locked_session]
    cases first.ending <;> exact kept
  · rw [locked_effects, locked_effects]
    exact (Effect.AskAlike.refl _).append asks

theorem Cancelling.recast {byClient : Bool} {step : Step Action Int32}
    (cancelling : Cancelling answers session byClient step)
    (stop_eq : otherAnswers.stop = answers.stop) :
    Cancelling otherAnswers (session.recast other) byClient
      ⟨step.session.recast other, step.effects, step.ending⟩ := by
  cases cancelling with
  | ended terminated => exact .ended terminated
  | repeated live before => exact .repeated live before
  | broken live first answer =>
      exact .broken (show (session.recast other).phase ≠ _ from live) first
        (stop_eq.trans answer)
  | accepted live first answer => exact .accepted live first (stop_eq.trans answer)
  | refused live first nonzero answer =>
      exact .refused (show (session.recast other).phase ≠ _ from live) first nonzero
        (stop_eq.trans answer)

section Action

variable [HardwareAction Action]

/-- What the session says when it is given up unfinished. -/
def lastWords (setting : Setting) (answers : Answers) (session : Session Action) :
    Emission Unit :=
  ((session.scope setting answers).reportError (HardwareAction.kind session.action)
    (session.scope setting answers).device ErrorCode.hardwareUnavailable 0).run

theorem scoped_lastWords (setting : Setting) (answers : Answers) (session : Session Action) :
    ∀ effect ∈ (session.lastWords setting answers).effects,
      effect.inReach session.listening = true :=
  (session.scope setting answers).scoped_reportError (HardwareAction.kind session.action)
    (session.scope setting answers).device ErrorCode.hardwareUnavailable 0 []

/-- A session and the same session with another action, each with its setting and its
answers, have no way to behave differently but in what is not shown. -/
structure Alike (shown : Effect → Bool) (related : Action → Action → Prop)
    (setting otherSetting : Setting) (answers otherAnswers : Answers)
    (session : Session Action) (other : Action) : Prop where
  action : related session.action other
  kind_eq : HardwareAction.kind other = HardwareAction.kind session.action
  request_eq : (∃ effect, Effect.tellsRequest effect = true ∧ shown effect = true) →
    HardwareAction.request other = HardwareAction.request session.action
  descriptor_eq : otherSetting.descriptor = setting.descriptor
  start_eq : otherAnswers.start = answers.start
  stop_eq : otherAnswers.stop = answers.stop
  refusal_eq : otherAnswers.unlinkRefusal = answers.unlinkRefusal
  reaction : ∀ event, (session.reaction setting answers event).Alike shown related
    ((session.recast other).reaction otherSetting otherAnswers event)
  lastWords_effects : (session.lastWords setting answers).effects.filter shown =
    ((session.recast other).lastWords otherSetting otherAnswers).effects.filter shown
  lastWords_ending : (session.lastWords setting answers).ending =
    ((session.recast other).lastWords otherSetting otherAnswers).ending

namespace Alike

theorem unlinking_eq
    (alike : Alike shown related setting otherSetting answers otherAnswers session other)
    (report : TokenError → Notice) :
    (session.recast other).unlinking otherAnswers report =
      session.unlinking answers report := by
  unfold unlinking
  rw [alike.refusal_eq]
  rfl

theorem destroyEffects_eq
    (alike : Alike shown related setting otherSetting answers otherAnswers session other) :
    (session.recast other).destroyEffects otherAnswers = session.destroyEffects answers := by
  unfold destroyEffects
  rw [alike.unlinking_eq]
  change _ ++ (if session.destroyed then _ else
    [Effect.notice (.destroyed (HardwareAction.kind other))]) = _
  rw [alike.kind_eq]
  rfl

/-- A step that leaves the action alone is alike to itself with the other action. -/
theorem unmoved
    (alike : Alike shown related setting otherSetting answers otherAnswers session other)
    {Value : Type} {step : Step Action Value} (kept : step.session.action = session.action) :
    step.Alike shown related ⟨step.session.recast other, step.effects, step.ending⟩ :=
  ⟨⟨other, rfl, kept ▸ alike.action⟩, rfl, .refl _, rfl⟩

/-- Of what the sessions request, the same is shown. -/
theorem filter_request
    (alike : Alike shown related setting otherSetting answers otherAnswers session other)
    (effects : HalRequest → List Effect)
    (tells : ∀ request, ∀ effect ∈ effects request, effect.tellsRequest = true) :
    (effects (HardwareAction.request session.action)).filter shown =
      (effects (HardwareAction.request (session.recast other).action)).filter shown := by
  by_cases shows : ∃ effect, Effect.tellsRequest effect = true ∧ shown effect = true
  · rw [show HardwareAction.request (session.recast other).action = _ from
      alike.request_eq shows]
  · have nothing (request : HalRequest) : (effects request).filter shown = [] := by
      refine List.filter_eq_nil_iff.mpr ?_
      intro effect member isShown
      exact shows ⟨effect, tells request effect member, isShown⟩
    rw [nothing, nothing]

/-- To each outcome of the one session there is an outcome of the other that is alike. -/
theorem outcome
    (alike : Alike shown related setting otherSetting answers otherAnswers session other)
    {operation : Operation} {step : Step Action Reply}
    (outcome : Outcome setting answers session operation step) :
    ∃ image, Outcome otherSetting otherAnswers (session.recast other) operation image ∧
      step.Alike shown related image := by
  cases outcome with
  | startIgnored begun =>
      exact ⟨_, .startIgnored (show (session.recast other).phase ≠ _ from begun),
        alike.unmoved rfl⟩
  | startBroken created answer =>
      refine ⟨_, .startBroken (show (session.recast other).phase = _ from created)
        (alike.start_eq.trans answer), ⟨other, rfl, alike.action⟩, ?_, ⟨rfl, rfl⟩, rfl⟩
      rw [alike.descriptor_eq]
      exact alike.filter_request (fun request => [.halStart _ request _])
        (by simp [Effect.tellsRequest])
  | startAccepted created answer =>
      refine ⟨_, .startAccepted (show (session.recast other).phase = _ from created)
        (alike.start_eq.trans answer), ⟨other, rfl, alike.action⟩, ?_, ⟨rfl, rfl⟩, rfl⟩
      rw [alike.descriptor_eq]
      exact alike.filter_request
        (fun request => [.halStart _ request _, .notice (.started request)])
        (by simp [Effect.tellsRequest])
  | startRefused created nonzero answer =>
      refine ⟨_, .startRefused (show (session.recast other).phase = _ from created) nonzero
        (alike.start_eq.trans answer), ⟨other, rfl, alike.action⟩, ?_, ⟨rfl, rfl⟩, rfl⟩
      rw [alike.descriptor_eq]
      exact alike.filter_request
        (fun request => [.halStart _ request _, .notice (.startRefused request _)])
        (by simp [Effect.tellsRequest])
  | stopped cancelling =>
      exact ⟨_, .stopped (cancelling.recast alike.stop_eq),
        alike.unmoved cancelling.action_eq⟩
  | droppedAfterVerdict done =>
      exact ⟨_, .droppedAfterVerdict (show (session.recast other).done = _ from done),
        alike.unmoved rfl⟩
  | droppedAfterDestroy undone terminated =>
      exact ⟨_, .droppedAfterDestroy (show (session.recast other).done = _ from undone)
        terminated, alike.unmoved rfl⟩
  | @reactionBroken event undone live crash ending =>
      obtain ⟨action, effects, asks, ends⟩ := alike.reaction event
      exact ⟨_, .reactionBroken (show (session.recast other).done = _ from undone) live
        (ends.symm.trans ending), ⟨_, rfl, action⟩, effects, asks, rfl⟩
  | @finished event undone live ending =>
      obtain ⟨action, effects, asks, ends⟩ := alike.reaction event
      exact ⟨_, .finished (show (session.recast other).done = _ from undone) live
        (ends.symm.trans ending), ⟨_, rfl, action⟩, effects, asks, rfl⟩
  | @continued event undone live ending =>
      obtain ⟨action, effects, asks, ends⟩ := alike.reaction event
      exact ⟨_, .continued (show (session.recast other).done = _ from undone) live
        (ends.symm.trans ending), ⟨_, rfl, action⟩, effects, asks, rfl⟩
  | diedAfterDestroy destroyed =>
      exact ⟨_, .diedAfterDestroy (show (session.recast other).destroyed = _ from destroyed),
        alike.unmoved rfl⟩
  | deathBroken standing cancelling =>
      exact ⟨_, .deathBroken (show (session.recast other).destroyed = _ from standing)
        (cancelling.recast alike.stop_eq), ⟨other, rfl, cancelling.action_eq ▸ alike.action⟩,
        rfl, .refl _, rfl⟩
  | deathHandled standing cancelling =>
      exact ⟨_, .deathHandled (show (session.recast other).destroyed = _ from standing)
        (cancelling.recast alike.stop_eq), ⟨other, rfl, cancelling.action_eq ▸ alike.action⟩,
        rfl, .refl _, rfl⟩
  | destroyed =>
      refine ⟨_, .destroyed, ?_⟩
      rw [alike.destroyEffects_eq]
      exact alike.unmoved rfl

/-- Whatever is asked of two sessions that are alike, they do the same but for what is not
shown. -/
theorem perform
    (alike : Alike shown related setting otherSetting answers otherAnswers session other)
    (operation : Operation) :
    (session.perform setting answers operation).Alike shown related
      ((session.recast other).perform otherSetting otherAnswers operation) := by
  obtain ⟨step, outcome, performed⟩ := perform_outcome setting answers session operation
  obtain ⟨image, imageOutcome, same⟩ := alike.outcome outcome
  rw [performed, imageOutcome.perform_eq]
  exact locked_alike same

/-- When they are given up, they do the same but for what is not shown. -/
theorem drop
    (alike : Alike shown related setting otherSetting answers otherAnswers session other) :
    (session.drop setting answers).effects.filter shown =
        ((session.recast other).drop otherSetting otherAnswers).effects.filter shown ∧
      Effect.AskAlike (session.drop setting answers).effects
        ((session.recast other).drop otherSetting otherAnswers).effects ∧
      (session.drop setting answers).ending =
        ((session.recast other).drop otherSetting otherAnswers).ending := by
  have effects := alike.lastWords_effects
  have ending := alike.lastWords_ending
  have asks : Effect.AskAlike (session.lastWords setting answers).effects
      ((session.recast other).lastWords otherSetting otherAnswers).effects :=
    .of_inReach (scoped_lastWords setting answers session)
      (scoped_lastWords otherSetting otherAnswers (session.recast other))
  unfold lastWords at effects asks ending
  unfold Session.drop
  rw [alike.unlinking_eq, show (session.recast other).token = session.token from rfl,
    show (session.recast other).done = session.done from rfl]
  cases session.token with
  | none => exact ⟨rfl, .refl _, rfl⟩
  | some token =>
      cases session.done with
      | true => exact ⟨rfl, .refl _, rfl⟩
      | false =>
          simp only [Bool.false_eq_true, if_false, List.filter_append, effects, ending]
          exact ⟨trivial, (Effect.AskAlike.refl _).append asks, trivial⟩

end Alike

end Action

end Session

end BiometricSession
