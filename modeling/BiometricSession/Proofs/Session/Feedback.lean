import BiometricSession.Proofs.Action.Muted
import BiometricSession.Proofs.Session.Hardware
import BiometricSession.Proofs.Session.Verdict

/-!
# Haptic feedback

A session confirms the results that it expects by a vibration: a click for success and a
double click for failure, unless there is no vibrator or the user has turned the feedback
off.  The vibration is the first call that is made for a result, so that no delivery has a say
in it, and no other event and no other operation lets the device vibrate.
-/

namespace BiometricSession

namespace HapticEffect

/-- The setting that turns a vibration on or off. -/
def key : HapticEffect → PreferenceKey
  | click => .successHaptics
  | doubleClick => .errorHaptics

end HapticEffect

namespace HapticGate

/-- What stands in for a user's missing preference about a vibration. -/
def default (gate : HapticGate) : HapticEffect → Bool
  | .click => gate.successDefault
  | .doubleClick => gate.errorDefault

/-- Whether a vibration passes a gate. -/
def passes (gate : HapticGate) (preferences : Preferences) (user : Int32)
    (effect : HapticEffect) : Bool :=
  gate.hasVibrator && preferences.get effect.key user (gate.default effect)

end HapticGate

/-- The vibration that confirms an event, if a session of a kind expects the event and the
gate lets the vibration pass. -/
def HardwareEvent.feedback (kind : ClientKind) (passes : HapticEffect → Bool) :
    HardwareEvent → Option HapticEffect
  | .result outcome => if outcome.kind = kind then outcome.vibration?.filter passes else none
  | .acquired .. | .error .. => none

/-- Without a vibrator no event is confirmed; otherwise the user's preference decides. -/
theorem HardwareEvent.feedback_passes (event : HardwareEvent) (kind : ClientKind)
    (gate : HapticGate) (preferences : Preferences) (user : Int32) :
    event.feedback kind (gate.passes preferences user) =
      if gate.hasVibrator then
        event.feedback kind fun effect => preferences.get effect.key user (gate.default effect)
      else
        none := by
  unfold HapticGate.passes
  cases gate.hasVibrator with
  | true => simp only [Bool.true_and, if_true]
  | false =>
      cases event with
      | acquired | error => rfl
      | result outcome => simp [feedback]

/-- Some calls begin with a vibration, if there is one to make, and make no other. -/
def Effect.Feels (felt : Option HapticEffect) (calls : List Effect) : Prop :=
  ∃ rest, calls = vibrations felt ++ rest ∧ ∀ effect ∈ rest, effect.vibrates = false

namespace Effect

theorem filter_vibrates_vibrations (felt : Option HapticEffect) :
    (vibrations felt).filter (·.vibrates) = vibrations felt := by
  cases felt <;> rfl

theorem feels_none {calls : List Effect} (still : ∀ effect ∈ calls, effect.vibrates = false) :
    Feels none calls :=
  ⟨calls, rfl, still⟩

theorem Feels.filter_eq {felt : Option HapticEffect} {calls : List Effect}
    (feels : Feels felt calls) : calls.filter (·.vibrates) = vibrations felt := by
  obtain ⟨rest, rfl, still⟩ := feels
  have nothing : rest.filter (·.vibrates) = [] :=
    List.filter_eq_nil_iff.mpr fun effect member => by simp [still effect member]
  rw [List.filter_append, filter_vibrates_vibrations, nothing, List.append_nil]

/-- The vibrations come first. -/
theorem Feels.calls_eq {felt : Option HapticEffect} {calls : List Effect}
    (feels : Feels felt calls) :
    calls = calls.filter (·.vibrates) ++ calls.filter (!·.vibrates) := by
  have first := feels.filter_eq
  obtain ⟨rest, rfl, still⟩ := feels
  have others : (vibrations felt ++ rest).filter (!·.vibrates) = rest := by
    have all : rest.filter (!·.vibrates) = rest :=
      List.filter_eq_self.mpr fun effect member => by simp [still effect member]
    rw [List.filter_append, all]
    cases felt <;> rfl
  rw [first, others]

theorem vibrates_of_callsOut {effect : Effect} (inside : effect.callsOut = false) :
    effect.vibrates = false := by
  cases effect with
  | notice | unlink => rfl
  | _ => cases inside

/-- Vibrations are calls. -/
theorem filter_vibrates_callsOut (effects : List Effect) :
    (effects.filter (·.callsOut)).filter (·.vibrates) = effects.filter (·.vibrates) := by
  rw [List.filter_filter]
  refine List.filter_congr ?_
  intro effect member
  cases effect <;> rfl

end Effect

/-! ## Results -/

theorem Scope.still_told (scope : Scope) (earlier : List ListenerEvent) (event : ListenerEvent) :
    ∀ effect ∈ scope.told earlier event, effect.vibrates = false := by
  unfold told
  split <;> simp [Effect.vibrates]

theorem Scope.still_deliverOrNote (scope : Scope) (event : ListenerEvent)
    (earlier : List ListenerEvent) :
    ∀ effect ∈ (scope.deliverOrNote event earlier).effects, effect.vibrates = false := by
  rw [deliverOrNote_eq]
  split
  · split <;> simp [Effect.vibrates]
  · simp

theorem Scope.still_reportError (scope : Scope) (kind : ClientKind) (device : UInt64)
    (error vendor : Int32) (earlier : List ListenerEvent) :
    ∀ effect ∈ (scope.reportError kind device error vendor earlier).effects,
      effect.vibrates = false := by
  rw [reportError_eq]
  exact List.forall_mem_cons.mpr ⟨rfl, scope.still_deliverOrNote _ earlier⟩

theorem Call.calls_noteIf {Value : Type} {condition : Prop} [Decidable condition]
    (notice : Notice) (next : Unit → Call Value) (earlier : List ListenerEvent) :
    ((if condition then note notice >>= next else next ()) earlier).effects.filter
        (·.callsOut) =
      (next () earlier).effects.filter (·.callsOut) := by
  by_cases holds : condition
  · rw [if_pos holds, note_bind, List.filter_cons_of_neg (by simp [Effect.callsOut])]
  · rw [if_neg holds]

/-- The calls that handle the progress of an enrollment: a signal of success, then the
delivery. -/
theorem Enrollment.calls_enrolled (scope : Scope) (identifier : BiometricIdentifier)
    (remaining : Int32) :
    (enrolled scope identifier remaining []).effects.filter (·.callsOut) =
      Effect.vibrations (scope.setting.haptics.success scope.answers.preferences scope.user) ++
        scope.told [] (.enrollResult identifier remaining) := by
  unfold enrolled Scope.signalSuccess
  refine (Call.calls_noteIf _ _ []).trans ((Call.calls_noteIf _ _ []).trans ?_)
  rw [Scope.calls_vibrate_bind, Call.calls_bind_pure, Scope.calls_deliverOrNote]

theorem Removal.calls_removed (scope : Scope) (identifier : BiometricIdentifier)
    (remaining : Int32) :
    (removed scope identifier remaining []).effects.filter (·.callsOut) =
      scope.told [] (.removed identifier remaining) := by
  unfold removed
  rw [Call.note_bind, List.filter_cons_of_neg (by simp [Effect.callsOut]),
    Call.calls_bind_pure, Scope.calls_deliverOrNote]

theorem Enumeration.calls_enumerated (scope : Scope) (identifier : BiometricIdentifier)
    (remaining : Int32) :
    (enumerated scope identifier remaining []).effects.filter (·.callsOut) =
      scope.told [] (.enumerated identifier remaining) := by
  unfold enumerated
  rw [Call.calls_bind_pure, Scope.calls_deliverOrNote]

theorem Authentication.feels_rejectionCalls (scope : Scope) (locksOut : Bool) :
    Effect.Feels (scope.setting.haptics.failure scope.answers.preferences scope.user)
      (rejectionCalls scope locksOut) := by
  refine ⟨_, rfl, ?_⟩
  rw [List.forall_mem_append]
  refine ⟨scope.still_told _ _, ?_⟩
  split
  · exact List.forall_mem_cons.mpr ⟨rfl, scope.still_told _ _⟩
  · simp

/-- An action begins the answer to a result that it expects with the vibration that confirms
the result, and makes no other. -/
theorem BuiltinAction.feels_respond (scope : Scope) {action : BuiltinAction}
    {result : HardwareResult} (own : result.kind = action.kind) :
    Effect.Feels
      (result.vibration?.filter
        (scope.setting.haptics.passes scope.answers.preferences scope.user))
      ((action.respond scope result).emission.effects.filter (·.callsOut)) := by
  cases action with
  | enroll enrollment =>
      cases result with
      | enrolled identifier remaining =>
          exact ⟨_, Enrollment.calls_enrolled scope identifier remaining,
            scope.still_told _ _⟩
      | authenticated | removed | enumerated => cases own
  | authenticate authentication =>
      cases result with
      | authenticated identifier accepted token =>
          cases accepted with
          | true =>
              exact ⟨_, Authentication.calls_accepted scope identifier token,
                scope.still_told _ _⟩
          | false =>
              have rejected := Authentication.calls_rejected scope authentication.countRejection
              exact rejected ▸ Authentication.feels_rejectionCalls scope _
      | enrolled | removed | enumerated => cases own
  | remove removal =>
      cases result with
      | removed identifier remaining =>
          exact ⟨_, Removal.calls_removed scope identifier remaining, scope.still_told _ _⟩
      | enrolled | authenticated | enumerated => cases own
  | enumerate =>
      cases result with
      | enumerated identifier remaining =>
          exact ⟨_, Enumeration.calls_enumerated scope identifier remaining,
            scope.still_told _ _⟩
      | enrolled | authenticated | removed => cases own

/-! ## Sessions -/

namespace Session

section Action

variable {Action : Type} [HardwareAction Action] {setting : Setting} {answers : Answers}
  {session : Session Action}

/-- While a session passes an acquisition on, nothing vibrates. -/
theorem still_acquired (scope : Scope) (action : Action) (info vendor : Int32) :
    ∀ effect ∈ (acquired scope action info vendor []).effects, effect.vibrates = false := by
  have told : ∀ effect ∈ (acquisitionTold scope action info vendor []).effects,
      effect.vibrates = false := by
    unfold acquisitionTold
    split
    · simp [Effect.vibrates]
    · exact scope.still_deliverOrNote _ []
  have woken : ∀ effect ∈ wake scope.user info, effect.vibrates = false := by
    unfold wake
    split <;> simp [Effect.vibrates]
  rw [acquired_eq]
  dsimp only
  split <;> simp only [List.forall_mem_append, List.forall_mem_cons]
  · exact ⟨⟨rfl, rfl, List.forall_mem_nil _⟩, told, woken⟩
  · exact ⟨⟨rfl, rfl, List.forall_mem_nil _⟩, told⟩

omit [HardwareAction Action] in
theorem Cancelling.still {byClient : Bool} {step : Step Action Int32}
    (cancelling : Cancelling answers session byClient step) :
    ∀ effect ∈ step.effects, effect.vibrates = false := by
  cases cancelling <;> simp [Effect.vibrates]

theorem Outcome.still {operation : Operation} {step : Step Action Reply}
    (outcome : Outcome setting answers session operation step)
    (noEvent : operation.isEvent = false) :
    ∀ effect ∈ step.effects, effect.vibrates = false := by
  cases outcome with
  | startIgnored | startBroken | startAccepted | startRefused | diedAfterDestroy =>
      simp [Effect.vibrates]
  | stopped cancelling => exact cancelling.still
  | deathBroken standing cancelling | deathHandled standing cancelling =>
      exact List.forall_mem_cons.mpr ⟨rfl, cancelling.still⟩
  | destroyed =>
      exact fun effect member => Effect.vibrates_of_callsOut (destroyEffects_callsOut member)
  | droppedAfterVerdict | droppedAfterDestroy | reactionBroken | finished | continued =>
      cases noEvent

/-- Nothing vibrates during an operation that is not an event. -/
theorem still_perform (setting : Setting) (answers : Answers) (session : Session Action)
    {operation : Operation} (noEvent : operation.isEvent = false) :
    ∀ effect ∈ (session.perform setting answers operation).effects,
      effect.vibrates = false := by
  obtain ⟨step, outcome, performed⟩ := perform_outcome setting answers session operation
  rw [performed, locked_effects, List.forall_mem_append]
  exact ⟨fun effect member => Effect.vibrates_of_callsOut (recovery_callsOut member),
    outcome.still noEvent⟩

/-- Nothing vibrates when a session is given up. -/
theorem still_drop (setting : Setting) (answers : Answers) (session : Session Action) :
    ∀ effect ∈ (session.drop setting answers).effects, effect.vibrates = false := by
  unfold drop
  cases session.token with
  | none => simp
  | some token =>
      have opening : ∀ effect ∈ Effect.notice .leaked ::
          session.unlinking answers .leakUnlinkFailed, effect.vibrates = false :=
        List.forall_mem_cons.mpr ⟨rfl, fun effect member =>
          Effect.vibrates_of_callsOut (unlinking_callsOut member)⟩
      dsimp only
      split
      · exact opening
      · exact List.forall_mem_append.mpr ⟨opening, Scope.still_reportError _ _ _ _ _ []⟩

end Action

variable {setting : Setting} {answers : Answers} {session : Session BuiltinAction}

/-- What a session makes of an event begins with the vibration that confirms it. -/
theorem feels_reaction (setting : Setting) (answers : Answers) (session : Session BuiltinAction)
    (event : HardwareEvent) :
    Effect.Feels
      (event.feedback session.action.kind
        (setting.haptics.passes answers.preferences setting.descriptor.targetUser))
      ((session.reaction setting answers event).emission.effects.filter (·.callsOut)) := by
  cases event with
  | acquired info vendor =>
      exact Effect.feels_none fun effect member =>
        still_acquired _ session.action info vendor effect (List.mem_filter.mp member).1
  | error device error vendor =>
      refine Effect.feels_none fun effect member => ?_
      have reported : effect ∈ (failed (session.scope setting answers) session.action device
        error vendor []).effects := (List.mem_filter.mp member).1
      rw [failed_eq] at reported
      exact Scope.still_reportError _ _ _ _ _ [] effect reported
  | result result =>
      simp only [HardwareEvent.feedback]
      by_cases own : result.kind = session.action.kind
      · rw [if_pos own]
        exact BuiltinAction.feels_respond (session.scope setting answers) own
      · rw [if_neg own, callsOut_foreign own]
        exact Effect.feels_none (by simp)

/-- The calls for an event begin with the vibration that confirms it, if the session still
handles events. -/
theorem feels_callback (setting : Setting) (answers : Answers) (session : Session BuiltinAction)
    (event : HardwareEvent) :
    Effect.Feels
      (if session.isOpen then
        event.feedback session.action.kind
          (setting.haptics.passes answers.preferences setting.descriptor.targetUser)
      else
        none)
      ((session.perform setting answers (.callback event)).effects.filter (·.callsOut)) := by
  rw [calls_callback]
  split
  · exact feels_reaction setting answers session event
  · exact Effect.feels_none (by simp)

end Session

/-- While a session hears of deaths of its client only, nothing vibrates. -/
theorem Course.still_of_deaths {Action : Type} [HardwareAction Action] {setting : Setting}
    {first last : Session Action} {life : List SessionDeed}
    (course : Course setting first life last)
    (deaths : ∀ deed ∈ life, deed.operation = .clientDied true) :
    ∀ effect ∈ life.flatMap (·.effects), effect.vibrates = false := by
  induction course with
  | start => simp
  | @perform middle life course answers operation ih =>
      rw [List.forall_mem_append] at deaths
      obtain rfl : operation = .clientDied true := deaths.2 _ (List.mem_singleton.mpr rfl)
      rw [List.flatMap_append, List.flatMap_singleton, List.forall_mem_append]
      exact ⟨ih deaths.1, Session.still_perform setting answers middle rfl⟩

end BiometricSession
