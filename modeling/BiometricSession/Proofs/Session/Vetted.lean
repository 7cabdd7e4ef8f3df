import BiometricSession.Proofs.Action.Composed
import BiometricSession.Proofs.Action.Counting
import BiometricSession.Proofs.Action.Reports
import BiometricSession.Proofs.Session.Life
import BiometricSession.Proofs.Session.Soundness

/-!
# What a client may be told

A session vets what it tells its client.  The client hears of no acquisition that the
session's filter keeps back, and whenever it hears of an error, the error was recorded right
before and comes with the session's cookie.  That is so of every call of the four actions,
of every operation, and of a session's whole life.
-/

namespace BiometricSession

/-- Whether an effect tells the client of an acquisition or of an error. -/
def Effect.tells : Effect → Bool
  | delivery (.acquired ..) _ | delivery (.error ..) _ => true
  | _ => false

/-- What a session goes by when it tells its client of something. -/
structure Terms where
  kind : ClientKind
  filter : Option AcquireFilter
  descriptor : SessionDescriptor

def Scope.terms (scope : Scope) (kind : ClientKind) (filter : Option AcquireFilter) : Terms :=
  ⟨kind, filter, scope.setting.descriptor⟩

def BuiltinAction.terms (action : BuiltinAction) (setting : Setting) : Terms :=
  ⟨action.kind, action.filter, setting.descriptor⟩

/-- Effects among which the client hears of no acquisition that is kept back, and of errors
only right after their record and with the cookie of the session. -/
inductive Effect.Vetted (terms : Terms) : List Effect → Prop
  | nil : Vetted terms []
  | other {effect : Effect} {later : List Effect} (silent : effect.tells = false)
      (vetted : Vetted terms later) : Vetted terms (effect :: later)
  | acquisition {device : UInt64} {info vendor : Int32} {answer : DeliveryAnswer}
      {later : List Effect} (passes : terms.filter.any (·.ignores info vendor) = false)
      (vetted : Vetted terms later) :
      Vetted terms (.delivery (.acquired device info vendor) answer :: later)
  | error {device : UInt64} {error vendor : Int32}
      {answer : DeliveryAnswer} {later : List Effect}
      (vetted : Vetted terms later) :
      Vetted terms
        (.errorMetric terms.kind error vendor terms.descriptor.targetUser ::
          .delivery (.error device error vendor terms.descriptor.cookie) answer :: later)

namespace Effect

variable {terms : Terms}

theorem Vetted.append {first second : List Effect} (front : Vetted terms first)
    (back : Vetted terms second) : Vetted terms (first ++ second) := by
  induction front with
  | nil => exact back
  | other silent _ ih => exact .other silent ih
  | acquisition passes _ ih => exact .acquisition passes ih
  | error _ ih => exact .error ih

theorem vetted_of_silent {effects : List Effect}
    (silent : ∀ effect ∈ effects, effect.tells = false) : Vetted terms effects := by
  induction effects with
  | nil => exact .nil
  | cons effect effects ih =>
      rw [List.forall_mem_cons] at silent
      exact .other silent.1 (ih silent.2)

/-- What is vetted delivers no acquisition that the filter keeps back. -/
theorem Vetted.passes {effects : List Effect} (vetted : Vetted terms effects)
    {device : UInt64} {info vendor : Int32} {answer : DeliveryAnswer}
    (member : .delivery (.acquired device info vendor) answer ∈ effects) :
    terms.filter.any (·.ignores info vendor) = false := by
  induction vetted with
  | nil => cases member
  | other silent _ ih =>
      rcases List.mem_cons.mp member with rfl | later
      · cases silent
      · exact ih later
  | acquisition passes _ ih =>
      rcases List.mem_cons.mp member with same | later
      · cases same
        exact passes
      · exact ih later
  | error _ ih => exact ih (by simpa using member)

/-- In what is vetted, an error is delivered right after its record. -/
theorem Vetted.recorded {effects : List Effect} (vetted : Vetted terms effects)
    {earlier later : List Effect} {device : UInt64} {error vendor cookie : Int32}
    {answer : DeliveryAnswer}
    (split : effects = earlier ++ .delivery (.error device error vendor cookie) answer :: later) :
    cookie = terms.descriptor.cookie ∧ ∃ before, earlier =
      before ++ [.errorMetric terms.kind error vendor terms.descriptor.targetUser] := by
  induction vetted generalizing earlier with
  | nil => simp at split
  | @other effect rest silent _ ih =>
      rcases earlier with _ | ⟨first, earlier⟩
      · cases split
        cases silent
      · obtain ⟨rfl, rfl⟩ := List.cons.inj split
        obtain ⟨same, before, rfl⟩ := ih rfl
        exact ⟨same, _ :: before, rfl⟩
  | acquisition passes _ ih =>
      rcases earlier with _ | ⟨first, earlier⟩
      · cases split
      · obtain ⟨rfl, rfl⟩ := List.cons.inj split
        obtain ⟨same, before, rfl⟩ := ih rfl
        exact ⟨same, _ :: before, rfl⟩
  | error _ ih =>
      rcases earlier with _ | ⟨first, _ | ⟨second, earlier⟩⟩
      · cases split
      · cases split
        exact ⟨rfl, [], rfl⟩
      · simp only [List.cons_append, List.cons.injEq] at split
        obtain ⟨rfl, rfl, rfl⟩ := split
        obtain ⟨same, before, rfl⟩ := ih rfl
        exact ⟨same, _ :: _ :: before, rfl⟩

end Effect

/-! ## Calls -/

namespace Call

variable {First Second Value : Type} {terms : Terms}

/-- A call does only what is vetted. -/
def Vetted (terms : Terms) (call : Call Value) : Prop :=
  ∀ earlier, Effect.Vetted terms (call earlier).effects

namespace Vetted

theorem pure (value : Value) : (Pure.pure value : Call Value).Vetted terms :=
  fun _ => .nil

theorem emit {effects : List Effect} (silent : ∀ effect ∈ effects, effect.tells = false) :
    (Call.emit effects).Vetted terms :=
  fun _ => Effect.vetted_of_silent silent

theorem note (notice : Notice) : (Call.note notice).Vetted terms :=
  emit (by simp [Effect.tells])

theorem bind {first : Call First} {next : First → Call Second}
    (front : first.Vetted terms)
    (back : ∀ value, (next value).Vetted terms) :
    (first >>= next).Vetted terms := by
  intro earlier
  cases ended : (first earlier).ending with
  | crashed crash =>
      rw [bind_eq_of_crashed ended]
      exact front earlier
  | returned value =>
      obtain ⟨between, joined⟩ := bind_eq_of_returned next ended
      rw [joined]
      exact (front earlier).append (back value between)

end Vetted

end Call

namespace Scope

variable (scope : Scope) {kind : ClientKind} {filter : Option AcquireFilter}

theorem vetted_vibrate (effect : Option HapticEffect) :
    (vibrate effect).Vetted (scope.terms kind filter) :=
  Call.Vetted.emit (by cases effect <;> simp [Effect.tells])

/-- A delivery may be made if it would be vetted. -/
theorem vetted_deliverOrNote {event : ListenerEvent}
    (vetted : ∀ answer, Effect.Vetted (scope.terms kind filter) [.delivery event answer]) :
    (scope.deliverOrNote event).Vetted (scope.terms kind filter) := by
  intro earlier
  rw [deliverOrNote_eq]
  split
  · split
    · exact vetted _
    · exact (vetted _).append (.other rfl .nil)
    · exact vetted _
  · exact .nil

theorem vetted_reportError (kind : ClientKind) (device : UInt64) (error vendor : Int32) :
    (scope.reportError kind device error vendor).Vetted (scope.terms kind filter) := by
  intro earlier
  rw [reportError_eq, deliverOrNote_eq]
  dsimp only
  split
  · split
    · exact .error .nil
    · exact .error (.other rfl .nil)
    · exact .error .nil
  · exact .other rfl .nil

end Scope

/-! ## The four actions -/

/-- The event that tells the client of a result tells of neither an acquisition nor an
error. -/
theorem HardwareResult.tells_news (result : HardwareResult) (device : UInt64)
    (answer : DeliveryAnswer) :
    (Effect.delivery (result.news device) answer).tells = false := by
  cases result with
  | authenticated identifier accepted token => cases accepted <;> rfl
  | enrolled | removed | enumerated => rfl

theorem Scope.composes_vetted (scope : Scope) (kind : ClientKind)
    (filter : Option AcquireFilter) (result : HardwareResult) :
    scope.Composes kind result fun call => call.Vetted (scope.terms kind filter) where
  pure := Call.Vetted.pure
  bind := Call.Vetted.bind
  note := Call.Vetted.note
  vibrate effect _ := scope.vetted_vibrate effect
  tell := scope.vetted_deliverOrNote fun _ => .other (result.tells_news _ _) .nil
  lockout _ _ := scope.vetted_reportError _ _ _ _

theorem BuiltinAction.vetted_respond (scope : Scope) (action : BuiltinAction)
    (result : HardwareResult) :
    Effect.Vetted (action.terms scope.setting)
      (action.respond scope result).emission.effects := by
  obtain ⟨call, vetted, answer⟩ :=
    respond_composed (scope.composes_vetted action.kind action.filter result)
  rw [answer]
  exact vetted []

theorem BuiltinAction.Counts.terms_eq {before after : BuiltinAction}
    (counts : before.Counts after) (setting : Setting) :
    after.terms setting = before.terms setting := by
  cases counts <;> rfl

/-! ## Sessions -/

namespace Session

variable {setting : Setting} {answers : Answers} {session : Session BuiltinAction}
  {terms : Terms}

theorem vetted_wake (user info : Int32) : Effect.Vetted terms (wake user info) := by
  unfold wake
  split
  · exact .other rfl .nil
  · exact .nil

theorem vetted_acquired (scope : Scope) (action : BuiltinAction) (info vendor : Int32)
    (earlier : List ListenerEvent) :
    Effect.Vetted (action.terms scope.setting)
      (acquired scope action info vendor earlier).effects := by
  have told : Effect.Vetted (action.terms scope.setting)
      (acquisitionTold scope action info vendor earlier).effects := by
    unfold acquisitionTold
    cases ignored : (HardwareAction.filter action).any (·.ignores info vendor) with
    | true => exact .other rfl .nil
    | false =>
        exact scope.vetted_deliverOrNote (fun _ => .acquisition ignored .nil) earlier
  rw [acquired_eq]
  dsimp only
  split
  · exact .other rfl (.other rfl (told.append (vetted_wake _ _)))
  · exact .other rfl (.other rfl told)

theorem vetted_reaction (setting : Setting) (answers : Answers)
    (session : Session BuiltinAction) (event : HardwareEvent) :
    Effect.Vetted (session.action.terms setting)
      (session.reaction setting answers event).emission.effects := by
  let scope := session.scope setting answers
  cases event with
  | acquired info vendor => exact vetted_acquired scope session.action info vendor []
  | error device error vendor =>
      have report : Effect.Vetted (session.action.terms setting) _ :=
        scope.vetted_reportError session.action.kind device error vendor []
      change Effect.Vetted _ (failed scope session.action device error vendor []).effects
      rw [failed_eq]
      exact report
  | result result => exact BuiltinAction.vetted_respond scope session.action result

/-- What reaches nobody tells the client of nothing. -/
theorem vetted_of_callsOut {effects : List Effect}
    (silent : ∀ effect ∈ effects, effect.callsOut = false) : Effect.Vetted terms effects := by
  refine Effect.vetted_of_silent ?_
  intro effect member
  have quiet := silent effect member
  cases effect with
  | delivery => cases quiet
  | _ => rfl

theorem Cancelling.vetted {byClient : Bool} {step : Step BuiltinAction Int32}
    (cancelling : Cancelling answers session byClient step) :
    Effect.Vetted terms step.effects := by
  cases cancelling <;> exact Effect.vetted_of_silent (by simp [Effect.tells])

theorem Outcome.vetted {operation : Operation} {step : Step BuiltinAction Reply}
    (outcome : Outcome setting answers session operation step) :
    Effect.Vetted (session.action.terms setting) step.effects := by
  cases outcome with
  | startIgnored | startBroken | startAccepted | startRefused | droppedAfterVerdict
  | droppedAfterDestroy | diedAfterDestroy =>
      exact Effect.vetted_of_silent (by simp [Effect.tells])
  | stopped cancelling => exact cancelling.vetted
  | reactionBroken | finished | continued => exact vetted_reaction setting answers session _
  | deathBroken standing cancelling | deathHandled standing cancelling =>
      exact .other rfl cancelling.vetted
  | destroyed => exact vetted_of_callsOut fun effect member => destroyEffects_callsOut member

theorem vetted_perform (setting : Setting) (answers : Answers)
    (session : Session BuiltinAction) (operation : Operation) :
    Effect.Vetted (session.action.terms setting)
      (session.perform setting answers operation).effects := by
  obtain ⟨step, outcome, performed⟩ := perform_outcome setting answers session operation
  rw [performed, locked_effects]
  exact (vetted_of_callsOut fun effect member => recovery_callsOut member).append
    outcome.vetted

theorem vetted_drop (setting : Setting) (answers : Answers) (session : Session BuiltinAction) :
    Effect.Vetted (session.action.terms setting) (session.drop setting answers).effects := by
  have opening : Effect.Vetted (session.action.terms setting)
      (.notice .leaked :: session.unlinking answers .leakUnlinkFailed) :=
    .other rfl (vetted_of_callsOut fun effect member => unlinking_callsOut member)
  unfold Session.drop
  split
  · exact .nil
  · dsimp only
    split
    · exact opening
    · exact opening.append ((session.scope setting answers).vetted_reportError _ _ _ _ [])

end Session

/-- All that a session does in its life is vetted, on the terms that it began with. -/
theorem Course.vetted {setting : Setting} {first last : Session BuiltinAction}
    {life : List SessionDeed} (course : Course setting first life last) :
    last.action.terms setting = first.action.terms setting ∧
      Effect.Vetted (first.action.terms setting) (life.flatMap (·.effects)) := by
  induction course with
  | start => exact ⟨rfl, .nil⟩
  | @perform middle life course answers operation ih =>
      obtain ⟨same, past⟩ := ih
      have counts := Session.counts_perform setting answers middle operation
      have now := Session.vetted_perform setting answers middle operation
      rw [same] at now
      refine ⟨(counts.terms_eq setting).trans same, ?_⟩
      rw [List.flatMap_append, List.flatMap_singleton]
      exact past.append now

end BiometricSession
