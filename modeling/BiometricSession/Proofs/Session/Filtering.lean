import BiometricSession.Proofs.Session.Likeness
import BiometricSession.Proofs.Session.Vetted

/-!
# Sessions with and without a filter

A filter on acquisitions does one thing: it keeps deliveries back.  As long as the listener
takes everything, a session with a filter is alike to the same session with a filter that
keeps nothing back, but for the acquisitions that the filter lists and the notices that one
was ignored.
-/

namespace BiometricSession

/-- Whether an effect tells the client of an acquisition that a filter lists: one of the
vendor's own kind by its vendor code, any other by its standard code. -/
def AcquireFilter.lists (filter : AcquireFilter) : Effect → Bool
  | .delivery (.acquired _ info vendor) _ =>
      (info = filter.vendorSentinel ∧ vendor ∈ filter.vendor) ∨
        (info ≠ filter.vendorSentinel ∧ info ∈ filter.standard)
  | _ => false

theorem AcquireFilter.lists_acquired (filter : AcquireFilter) (device : UInt64)
    (info vendor : Int32) (answer : DeliveryAnswer) :
    filter.lists (.delivery (.acquired device info vendor) answer) =
      filter.ignores info vendor := by
  unfold lists ignores
  by_cases own : info = filter.vendorSentinel
  · simp [own]
  · simp [own]

theorem AcquireFilter.ignores_empty (sentinel info vendor : Int32) :
    (AcquireFilter.empty sentinel).ignores info vendor = false := by
  simp [AcquireFilter.ignores, AcquireFilter.empty]

/-- Whether an effect shows neither in the run with a filter nor in the run without: a
listed acquisition, or the notice that an acquisition was ignored. -/
def AcquireFilter.hides (filter : AcquireFilter) : Effect → Bool
  | .notice (.acquisitionIgnored ..) => true
  | effect => filter.lists effect

theorem AcquireFilter.hides_eq_lists (filter : AcquireFilter) {effect : Effect}
    (callsOut : effect.callsOut = true) : filter.hides effect = filter.lists effect := by
  cases effect with
  | notice => cases callsOut
  | _ => rfl

namespace BuiltinAction

/-- The action with another filter, if it is one that filters. -/
def refiltered (filter : AcquireFilter) : BuiltinAction → BuiltinAction
  | enroll enrollment => enroll { enrollment with filter }
  | authenticate authentication => authenticate { authentication with filter }
  | action => action

/-- The filter plays no role for a result. -/
theorem respond_refiltered (scope : Scope) (filter : AcquireFilter) (action : BuiltinAction)
    (result : HardwareResult) :
    (action.refiltered filter).respond scope result =
      ⟨(action.respond scope result).action.refiltered filter,
        (action.respond scope result).emission⟩ := by
  cases action with
  | authenticate authentication =>
      cases result with
      | authenticated identifier accepted token => cases accepted <;> rfl
      | enrolled | removed | enumerated => rfl
  | enroll | remove | enumerate => cases result <;> rfl

/-- The second action is the first with a filter that keeps nothing back in place of the
given one. -/
structure Unfiltered (filter : AcquireFilter) (sentinel : Int32)
    (action other : BuiltinAction) : Prop where
  filtered : action.filter = some filter
  refiltered : other = action.refiltered (.empty sentinel)

theorem filter_refiltered {filter : AcquireFilter} {action : BuiltinAction}
    (filtered : action.filter = some filter) (other : AcquireFilter) :
    (action.refiltered other).filter = some other := by
  cases action <;> first | rfl | cases filtered

theorem Unfiltered.kind_eq {filter : AcquireFilter} {sentinel : Int32}
    {action other : BuiltinAction} (unfiltered : action.Unfiltered filter sentinel other) :
    HardwareAction.kind other = HardwareAction.kind action := by
  rw [unfiltered.refiltered]
  cases action <;> rfl

theorem Unfiltered.request_eq {filter : AcquireFilter} {sentinel : Int32}
    {action other : BuiltinAction} (unfiltered : action.Unfiltered filter sentinel other) :
    HardwareAction.request other = HardwareAction.request action := by
  rw [unfiltered.refiltered]
  cases action <;> rfl

end BuiltinAction

namespace Session

variable {filter : AcquireFilter} {sentinel : Int32} {setting : Setting} {answers : Answers}
  {session : Session BuiltinAction}

/-- With or without the filter, a listener that takes everything is told of an acquisition
unless the filter lists it. -/
theorem acquisitionTold_unfiltered (scope : Scope)
    (taken : ∀ told event, scope.answers.delivery told event = .sent)
    {action other : BuiltinAction} (unfiltered : action.Unfiltered filter sentinel other)
    (info vendor : Int32) (earlier : List ListenerEvent) :
    (acquisitionTold scope action info vendor earlier).effects.filter (!filter.hides ·) =
        (acquisitionTold scope other info vendor earlier).effects.filter (!filter.hides ·) ∧
      (acquisitionTold scope action info vendor earlier).ending = .returned false ∧
        (acquisitionTold scope other info vendor earlier).ending = .returned false := by
  obtain ⟨filtered, rfl⟩ := unfiltered
  have nothing : (HardwareAction.filter (action.refiltered (.empty sentinel))).any
      (·.ignores info vendor) = false := by
    change (action.refiltered _).filter.any _ = false
    rw [BuiltinAction.filter_refiltered filtered, Option.any_some,
      AcquireFilter.ignores_empty]
  have kept : (HardwareAction.filter action).any (·.ignores info vendor) =
      filter.ignores info vendor := by
    change action.filter.any _ = _
    rw [filtered, Option.any_some]
  have listed := filter.lists_acquired scope.device info vendor .sent
  unfold acquisitionTold
  rw [nothing, kept, Scope.deliverOrNote_eq, taken]
  cases ignored : filter.ignores info vendor with
  | false => cases scope.listening <;> exact ⟨rfl, rfl, rfl⟩
  | true =>
      rw [ignored] at listed
      cases scope.listening with
      | false => exact ⟨rfl, rfl, rfl⟩
      | true =>
          have hidden : filter.hides
              (.delivery (.acquired scope.device info vendor) .sent) = true := listed
          simp [hidden, show filter.hides (.notice (.acquisitionIgnored info vendor)) = true
            from rfl]

theorem acquired_unfiltered (scope : Scope)
    (taken : ∀ told event, scope.answers.delivery told event = .sent)
    {action other : BuiltinAction} (unfiltered : action.Unfiltered filter sentinel other)
    (info vendor : Int32) :
    (acquired scope action info vendor []).effects.filter (!filter.hides ·) =
        (acquired scope other info vendor []).effects.filter (!filter.hides ·) ∧
      (acquired scope action info vendor []).ending =
        (acquired scope other info vendor []).ending := by
  obtain ⟨effects, ending, endingToo⟩ :=
    acquisitionTold_unfiltered scope taken unfiltered info vendor []
  rw [acquired_eq, acquired_eq, unfiltered.kind_eq]
  simp only [ending, endingToo, List.filter_append, effects, and_self]

theorem lastWords_unfiltered {other : BuiltinAction}
    (unfiltered : session.action.Unfiltered filter sentinel other) :
    (session.recast other).lastWords setting answers = session.lastWords setting answers := by
  unfold lastWords
  rw [show HardwareAction.kind (session.recast other).action = _ from unfiltered.kind_eq]
  rfl

/-- As long as the listener takes everything, the filter only hides acquisitions. -/
theorem unfiltered_alike (taken : ∀ told event, answers.delivery told event = .sent)
    {other : BuiltinAction} (unfiltered : session.action.Unfiltered filter sentinel other) :
    Alike (!filter.hides ·) (BuiltinAction.Unfiltered filter sentinel) setting setting answers
      answers session other where
  action := unfiltered
  kind_eq := unfiltered.kind_eq
  request_eq _ := unfiltered.request_eq
  descriptor_eq := rfl
  start_eq := rfl
  stop_eq := rfl
  refusal_eq := rfl
  reaction event := by
    cases event with
    | acquired info vendor =>
        obtain ⟨effects, ending⟩ := acquired_unfiltered (session.scope setting answers) taken
          unfiltered info vendor
        exact ⟨unfiltered, effects, .of_inReach (session.reaction_inReach setting answers _)
          ((session.recast other).reaction_inReach setting answers _), ending⟩
    | error device error vendor =>
        have same : (session.recast other).reaction setting answers
              (.error device error vendor) =
            ⟨other, (session.reaction setting answers (.error device error vendor)).emission⟩ := by
          unfold reaction react failed
          rw [show HardwareAction.kind (session.recast other).action = _ from
            unfiltered.kind_eq]
          rfl
        rw [same]
        exact ⟨unfiltered, rfl, .refl _, rfl⟩
    | result result =>
        have same : (session.recast other).reaction setting answers (.result result) =
            ⟨(session.reaction setting answers (.result result)).action.refiltered
                (.empty sentinel),
              (session.reaction setting answers (.result result)).emission⟩ := by
          rw [unfiltered.refiltered]
          exact session.action.respond_refiltered _ _ result
        rw [same]
        refine ⟨⟨?_, rfl⟩, rfl, .refl _, rfl⟩
        have same := (counts_reaction setting answers session (.result result)).terms_eq setting
        exact (congrArg Terms.filter same).trans unfiltered.filtered
  lastWords_effects := by rw [lastWords_unfiltered unfiltered]
  lastWords_ending := by rw [lastWords_unfiltered unfiltered]

end Session

end BiometricSession
