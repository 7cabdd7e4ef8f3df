import BiometricSession.Proofs.Session.Filtering
import BiometricSession.Proofs.World.Likeness
import BiometricSession.Proofs.World.Vetted
import Mathlib.Data.List.Forall2

/-!
# Filters only hide

A filter on acquisitions changes nothing but what the client hears.  A run in which a
session is made with a filter, and the run in which it is made with a filter that keeps
nothing back, have the same answers, leave all sessions in the same states, and make the same
calls in the same order, except that the client of the session hears of no acquisition that
the filter lists.  The listener of that session has to take everything, or it could tell the
two runs apart by itself.
-/

namespace BiometricSession

/-- A listener that never fails. -/
def Listener.TakesAll (listener : Listener) : Prop :=
  ∀ told event, listener.answer told event = .sent

theorem Listener.takesAll_after (listener : Listener) (events : List ListenerEvent) :
    (listener.after events).TakesAll ↔ listener.TakesAll :=
  Iff.rfl

/-- A listener that takes everything answers like none. -/
theorem Answers.given_of_takesAll {listener : Option Listener}
    (taken : ∀ taker ∈ listener, taker.TakesAll) (hal : Hal) (tastes : Preferences)
    (refusal : Option TokenError) :
    Answers.given hal tastes listener refusal = .given hal tastes none refusal := by
  cases listener with
  | none => rfl
  | some taker =>
      have same : (fun earlier event => taker.answer (taker.told ++ earlier) event) =
          fun _ _ => DeliveryAnswer.sent := by
        funext earlier event
        exact taken taker rfl _ _
      unfold given
      rw [same]

theorem AcquireFilter.lists_of_vetted {filter : AcquireFilter} {terms : Terms}
    (filtered : terms.filter = some filter) {effects : List Effect}
    (vetted : Effect.Vetted terms effects) {effect : Effect} (member : effect ∈ effects) :
    filter.lists effect = false := by
  cases effect with
  | delivery event answer =>
      cases event with
      | acquired device info vendor =>
          have passes := vetted.passes member
          rw [filtered] at passes
          exact (filter.lists_acquired device info vendor answer).trans passes
      | _ => rfl
  | _ => rfl

/-- A session that differs from another in nothing is alike to it. -/
theorem Session.alike_self {Action : Type} [HardwareAction Action] (shown : Effect → Bool)
    (setting : Setting) (answers : Answers) (session : Session Action) :
    Alike shown Eq setting setting answers answers session session.action where
  action := rfl
  kind_eq := rfl
  request_eq _ := rfl
  descriptor_eq := rfl
  start_eq := rfl
  stop_eq := rfl
  refusal_eq := rfl
  reaction _ := ⟨rfl, rfl, .refl _, rfl⟩
  lastWords_effects := rfl
  lastWords_ending := rfl

/-- A world in which the session at a position has a filter, and a world in which it has one
that keeps nothing back. -/
def Likeness.filtering (position : Nat) (filter : AcquireFilter) (sentinel : Int32) :
    Likeness BuiltinAction where
  shown place effect := !(place = position && filter.hides effect)
  settings := Eq
  actions place :=
    if place = position then BuiltinAction.Unfiltered filter sentinel else Eq
  listeners place listener other :=
    if place = position then
      (∀ taker ∈ listener, taker.TakesAll) ∧ ∀ taker ∈ other, taker.TakesAll
    else
      listener = other
  preferences := Eq
  shown_unlink place _ _ _ := by simp [AcquireFilter.hides, AcquireFilter.lists]
  told := by
    intro place listener other effects others same shows
    by_cases here : place = position
    · simp only [here, if_true] at same ⊢
      exact ⟨by simpa [Listener.takesAll_after] using same.1,
        by simpa [Listener.takesAll_after] using same.2⟩
    · have all (list : List Effect) :
          list.filter (fun effect => !(place = position && filter.hides effect)) = list :=
        List.filter_eq_self.mpr (by simp [here])
      rw [all, all] at shows
      simp only [here, if_false] at same ⊢
      rw [same, shows]
  sessions := by
    intro place setting otherSetting session other listener otherListener tastes otherTastes
      hal refusal settings actions listeners preferences
    subst settings preferences
    by_cases here : place = position
    · simp only [here, if_true, decide_true, Bool.true_and] at actions listeners ⊢
      rw [Answers.given_of_takesAll listeners.1, Answers.given_of_takesAll listeners.2]
      exact Session.unfiltered_alike (fun _ _ => rfl) actions
    · simp only [here, if_false] at actions listeners ⊢
      subst actions listeners
      exact Session.alike_self ..

namespace World

/-- The calls of their collaborators that sessions make, each with the position of the
session, in order. -/
def calls (happenings : List Happening) : List (Nat × Effect) :=
  (trace happenings).filter fun (_, effect) => effect.callsOut

theorem mem_effectsOf {position : Nat} {happenings : List Happening} {effect : Effect}
    (member : (position, effect) ∈ trace happenings) :
    effect ∈ effectsOf position happenings := by
  obtain ⟨happening, happens, part⟩ := List.mem_filterMap.mp member
  refine List.mem_filterMap.mpr ⟨happening, happens, ?_⟩
  cases happening with
  | effect place setting done =>
      cases part
      exact if_pos rfl
  | logged => cases part

end World

/-- The first deed does what the second does, except that it makes none of the deliveries of
acquisitions that the filter of the session at a position lists. -/
structure WorldDeed.Hides (position : Nat) (filter : AcquireFilter) (sentinel : Int32)
    (deed other : WorldDeed BuiltinAction) : Prop where
  ending : deed.step.ending = other.step.ending
  tokens : deed.step.world.tokens = other.step.world.tokens
  /-- All sessions are in the same states, but for the filter. -/
  sessions : ∀ place, (other.step.world.monitor? place).map (·.session) =
    (deed.step.world.monitor? place).map fun monitor =>
      if place = position then
        monitor.session.recast (monitor.session.action.refiltered (.empty sentinel))
      else
        monitor.session
  calls : World.calls deed.step.happenings =
    (World.calls other.step.happenings).filter fun (place, effect) =>
      !(place = position && filter.lists effect)

namespace World

variable {position : Nat} {filter : AcquireFilter} {sentinel : Int32}
  {world other : World BuiltinAction}

/-- What is shown of two steps is the calls of the one, and those of the other without the
acquisitions that the filter lists. -/
theorem calls_of_steps {Value : Type} {step image : WorldStep BuiltinAction Value}
    (steps : (Likeness.filtering position filter sentinel).Steps step image)
    (unlisted : ∀ effect ∈ effectsOf position step.happenings, filter.lists effect = false) :
    calls step.happenings = (calls image.happenings).filter fun (place, effect) =>
      !(place = position && filter.lists effect) := by
  have kept : calls step.happenings = (calls step.happenings).filter
      (Likeness.filtering position filter sentinel).partShown := by
    refine (List.filter_eq_self.mpr ?_).symm
    rintro ⟨place, effect⟩ member
    obtain ⟨happens, callsOut⟩ := List.mem_filter.mp member
    change (!(decide (place = position) && filter.hides effect)) = true
    by_cases here : place = position
    · subst here
      rw [filter.hides_eq_lists callsOut, unlisted effect (mem_effectsOf happens)]
      simp
    · simp [here]
  rw [kept, calls, List.filter_comm, steps.trace, List.filter_comm]
  refine List.filter_congr ?_
  rintro ⟨place, effect⟩ member
  have same := filter.hides_eq_lists (List.mem_filter.mp member).2
  exact congrArg (fun hidden => !(decide (place = position) && hidden)) same

theorem hides_of_steps {deed image : WorldDeed BuiltinAction}
    (steps : (Likeness.filtering position filter sentinel).Steps deed.step image.step)
    (unlisted : ∀ effect ∈ effectsOf position deed.step.happenings,
      filter.lists effect = false) : deed.Hides position filter sentinel image where
  ending := steps.ending
  tokens := steps.world.tokens_eq
  sessions place := by
    rcases steps.world.absent_or_pair place with
      ⟨absent, absentToo⟩ | ⟨monitor, twin, found, foundToo, pair⟩
    · rw [absent, absentToo]
      rfl
    · obtain ⟨action, recast, related⟩ := pair.session
      rw [found, foundToo, Option.map_some, Option.map_some, recast]
      change (if place = position then BuiltinAction.Unfiltered filter sentinel else Eq)
        monitor.session.action action at related
      by_cases here : place = position
      · rw [if_pos here] at related ⊢
        rw [related.refiltered]
      · rw [if_neg here] at related ⊢
        rw [← related, Session.recast_action]
  calls := calls_of_steps steps unlisted

/-- Runs of worlds that differ in nothing but the filter. -/
theorem hides_deeds (alike : (Likeness.filtering position filter sentinel).Worlds world other)
    (made : position < world.monitors.length) {commands : List (WorldCommand BuiltinAction)}
    (takers : ∀ listener, .setListener position listener ∈ commands → listener.TakesAll)
    (unlisted : ∀ deed ∈ world.deeds commands,
      ∀ effect ∈ effectsOf position deed.step.happenings, filter.lists effect = false) :
    List.Forall₂ (WorldDeed.Hides position filter sentinel) (world.deeds commands)
      (other.deeds commands) := by
  induction commands generalizing world other with
  | nil => exact .nil
  | cons command commands ih =>
      have same : (Likeness.filtering position filter sentinel).Commands
          world.monitors.length command command := by
        have elsewhere : world.monitors.length ≠ position := Nat.ne_of_gt made
        cases command with
        | make setting action token listener =>
            exact .make token rfl (by simp [Likeness.filtering, elsewhere])
              (by simp [Likeness.filtering, elsewhere]) rfl
        | setListener number listener =>
            refine .setListener ?_
            by_cases here : number = position
            · have taker := takers listener (by simp [here])
              simp [Likeness.filtering, here, taker]
            · simp [Likeness.filtering, here]
        | setPreference key user value =>
            refine .setPreference ?_
            intro tastes others same
            rw [show tastes = others from same]
            rfl
        | _ => constructor
      have steps := alike.obey same
      refine .cons (hides_of_steps steps (unlisted _ List.mem_cons_self)) ?_
      refine ih steps.world (made_obey made command) ?_ ?_
      · intro listener member
        exact takers listener (List.mem_cons_of_mem _ member)
      · intro deed member
        exact unlisted deed (List.mem_cons_of_mem _ member)

/-- A filter on acquisitions only hides them.  A session is made with a filter, and whatever
a run does after that, as long as the session's listener takes everything, the run goes
deed by deed like the run in which the session is made with a filter that keeps nothing
back, and its calls are those of that run without the deliveries of listed acquisitions to
the session's client. -/
theorem filter_only_hides_acquisitions (world : World BuiltinAction) (setting : Setting)
    (action : BuiltinAction) (filter : AcquireFilter) (filtered : action.filter = some filter)
    (sentinel : Int32) (token : Option Nat) (listener : Option Listener)
    (commands : List (WorldCommand BuiltinAction))
    (first : ∀ taker ∈ listener, taker.TakesAll)
    (later : ∀ taker, .setListener world.monitors.length taker ∈ commands → taker.TakesAll) :
    List.Forall₂ (WorldDeed.Hides world.monitors.length filter sentinel)
      (world.deeds (.make setting action token listener :: commands))
      (world.deeds
        (.make setting (action.refiltered (.empty sentinel)) token listener :: commands)) := by
  have alike : (Likeness.filtering world.monitors.length filter sentinel).Worlds world world := by
    refine ⟨rfl, rfl, rfl, rfl, rfl, ?_⟩
    intro place
    cases found : world.monitor? place with
    | none => exact .none
    | some monitor =>
        have elsewhere : place ≠ world.monitors.length :=
          Nat.ne_of_lt (lt_length_of_monitor? found)
        exact .some ⟨rfl, ⟨monitor.session.action, rfl, by simp [Likeness.filtering, elsewhere]⟩,
          by simp [Likeness.filtering, elsewhere]⟩
  have making : (Likeness.filtering world.monitors.length filter sentinel).Commands
      world.monitors.length (.make setting action token listener)
      (.make setting (action.refiltered (.empty sentinel)) token listener) := by
    refine .make token rfl ?_ ?_ rfl
    · simpa [Likeness.filtering] using ⟨filtered, rfl⟩
    · simpa [Likeness.filtering] using first
  have steps := alike.obey making
  have unlisted : ∀ deed ∈ world.deeds (.make setting action token listener :: commands),
      ∀ effect ∈ effectsOf world.monitors.length deed.step.happenings,
        filter.lists effect = false := by
    intro deed member effect happens
    have vetted := vetted_run world setting action token listener commands
    exact AcquireFilter.lists_of_vetted filtered vetted
      (List.mem_flatMap.mpr ⟨deed, member, happens⟩)
  refine .cons (hides_of_steps steps (unlisted _ List.mem_cons_self)) ?_
  refine hides_deeds steps.world (by simp [obey, make]) later ?_
  · intro deed member
    exact unlisted deed (List.mem_cons_of_mem _ member)

/-- Of four acquisitions, two are listed, one by its standard code and one by its vendor
code, and the client hears of the other two. -/
theorem filter_only_hides_acquisitions_enrolling :
    let setting : Setting := ⟨⟨10, 20, false, "owner", 42, 1⟩, .fingerprint, .standard true⟩
    let filter : AcquireFilter := ⟨6, [1], [2]⟩
    let action : BuiltinAction := .enroll ⟨[], 60, filter⟩
    let listener : Listener := .failingAfter none .sent
    let acquired (info vendor : Int32) : WorldCommand BuiltinAction :=
      .perform 0 (.callback (.acquired info vendor))
    let commands := [.perform 0 .start, acquired 1 0, acquired 6 2, acquired 6 1, acquired 2 2,
      .drop 0]
    let run (action : BuiltinAction) :=
      (fresh []).deeds (.make setting action none (some listener) :: commands)
    let unfiltered := action.refiltered (.empty 6)
    action.filter = some filter ∧ listener.TakesAll ∧
      Effect.attempts (effectsDuring 0 (run action)) = [.acquired 1 6 1, .acquired 1 2 2] ∧
        Effect.attempts (effectsDuring 0 (run unfiltered)) =
          [.acquired 1 1 0, .acquired 1 6 2, .acquired 1 6 1, .acquired 1 2 2] ∧
          List.Forall₂ (WorldDeed.Hides 0 filter 6) (run action) (run unfiltered) := by
  intro setting filter action listener acquired commands run unfiltered
  have takes : listener.TakesAll := fun _ _ => rfl
  refine ⟨rfl, takes, by decide, by decide, ?_⟩
  refine filter_only_hides_acquisitions (fresh []) setting action filter rfl 6 none
    (some listener) commands ?_ ?_
  · intro taker isTaker
    obtain rfl := Option.some.inj isTaker
    exact takes
  · intro taker member
    simp [commands, acquired] at member

end World

end BiometricSession
