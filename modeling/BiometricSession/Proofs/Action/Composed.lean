import BiometricSession.Action.Builtin

/-!
# What the four actions are composed of

The four actions answer every result by a call that is put together from a few calls which
the scope offers: notes, the vibration that fits the result, the delivery of the result, and
the report of a lockout.  So a property of calls that these parts have and that composition
keeps is a property of every answer, and to prove it no action has to be opened.  Likewise for
a relation between calls in a scope and calls in the same scope with another listener.
-/

namespace BiometricSession

namespace HardwareResult

/-- The event by which the client is told of a result. -/
def news (device : UInt64) : HardwareResult → ListenerEvent
  | enrolled identifier remaining => .enrollResult identifier remaining
  | authenticated identifier true token => .authenticationSucceeded identifier token
  | authenticated _ false _ => .authenticationFailed device
  | removed identifier remaining => .removed identifier remaining
  | enumerated identifier remaining => .enumerated identifier remaining

/-- The vibration that can confirm a result. -/
def vibration? : HardwareResult → Option HapticEffect
  | enrolled .. | authenticated _ true _ => some .click
  | authenticated _ false _ => some .doubleClick
  | removed .. | enumerated .. => none

/-- Whether a result rejects an attempt. -/
def isRejection : HardwareResult → Bool
  | authenticated _ false _ => true
  | _ => false

end HardwareResult

/-- The scope with a listener that answers in another way. -/
def Scope.answering (scope : Scope)
    (delivery : List ListenerEvent → ListenerEvent → DeliveryAnswer) : Scope :=
  { scope with answers := { scope.answers with delivery } }

/-- A relation of calls which composition keeps, and which holds between the calls that a scope
offers to an action of some kind for its answer to a result, and those that the scope offers
with another listener. -/
structure Scope.Compares (scope : Scope)
    (delivery : List ListenerEvent → ListenerEvent → DeliveryAnswer) (kind : ClientKind)
    (result : HardwareResult)
    (related : ∀ {Value : Type}, Call Value → Call Value → Prop) : Prop where
  pure : ∀ {Value : Type} (value : Value),
    related (Pure.pure value : Call Value) (Pure.pure value)
  bind : ∀ {First Second : Type} {first other : Call First} {next goesOn : First → Call Second},
    related first other → (∀ value, related (next value) (goesOn value)) →
      related (first >>= next) (other >>= goesOn)
  note : ∀ notice, related (Call.note notice) (Call.note notice)
  vibrate : ∀ effect : Option HapticEffect, (∀ known ∈ effect, result.vibration? = some known) →
    related (Scope.vibrate effect) (Scope.vibrate effect)
  tell : related (scope.deliverOrNote (result.news scope.device))
    ((scope.answering delivery).deliverOrNote (result.news scope.device))
  lockout : kind = .authenticate → result.isRejection = true →
    related (scope.reportError kind scope.device ErrorCode.lockout 0)
      ((scope.answering delivery).reportError kind scope.device ErrorCode.lockout 0)

namespace Scope.Compares

variable {scope : Scope} {delivery : List ListenerEvent → ListenerEvent → DeliveryAnswer}
  {kind : ClientKind} {result : HardwareResult}
  {related : ∀ {Value : Type}, Call Value → Call Value → Prop}

theorem noteIf (compares : scope.Compares delivery kind result related) {Value : Type}
    {condition : Prop} [Decidable condition] (notice : Notice)
    {next goesOn : Unit → Call Value} (rest : related (next ()) (goesOn ())) :
    related (if condition then Call.note notice >>= next else next ())
      (if condition then Call.note notice >>= goesOn else goesOn ()) := by
  by_cases holds : condition
  · rw [if_pos holds, if_pos holds]
    exact compares.bind (compares.note notice) fun _ => rest
  · rw [if_neg holds, if_neg holds]
    exact rest

theorem signalSuccess (compares : scope.Compares delivery kind result related)
    (fits : result.vibration? = some .click) :
    related scope.signalSuccess (scope.answering delivery).signalSuccess := by
  refine compares.vibrate _ ?_
  intro known isKnown
  unfold HapticGate.success at isKnown
  split at isKnown <;> simp_all

theorem signalFailure (compares : scope.Compares delivery kind result related)
    (fits : result.vibration? = some .doubleClick) :
    related scope.signalFailure (scope.answering delivery).signalFailure := by
  refine compares.vibrate _ ?_
  intro known isKnown
  unfold HapticGate.failure at isKnown
  split at isKnown <;> simp_all

end Scope.Compares

section Actions

variable {scope : Scope} {delivery : List ListenerEvent → ListenerEvent → DeliveryAnswer}
  {kind : ClientKind} {related : ∀ {Value : Type}, Call Value → Call Value → Prop}
  {identifier : BiometricIdentifier} {remaining : Int32}

theorem Enrollment.enrolled_compared
    (compares : scope.Compares delivery kind (.enrolled identifier remaining) related) :
    related (enrolled scope identifier remaining)
      (enrolled (scope.answering delivery) identifier remaining) := by
  unfold enrolled
  refine compares.noteIf _ (compares.noteIf _ ?_)
  refine compares.bind (compares.signalSuccess rfl) ?_
  intro _
  exact compares.bind compares.tell fun _ => compares.pure _

theorem Authentication.accepted_compared {token : List UInt8}
    (compares : scope.Compares delivery kind (.authenticated identifier true token) related) :
    related (accepted scope identifier token)
      (accepted (scope.answering delivery) identifier token) := by
  unfold accepted
  refine compares.bind (compares.note _) ?_
  intro _
  refine compares.bind (compares.signalSuccess rfl) ?_
  intro _
  exact compares.bind compares.tell fun _ => compares.pure _

theorem Authentication.rejected_compared {token : List UInt8}
    (compares : scope.Compares delivery .authenticate (.authenticated identifier false token)
      related) (authentication : Authentication) :
    related (rejected scope authentication)
      (rejected (scope.answering delivery) authentication) := by
  unfold rejected
  refine compares.bind (compares.note _) ?_
  intro _
  refine compares.bind (compares.signalFailure rfl) ?_
  intro _
  refine compares.bind compares.tell ?_
  intro failed
  split
  · exact compares.pure _
  · split
    · refine compares.bind (compares.note _) ?_
      intro _
      exact compares.bind (compares.lockout rfl rfl) fun _ => compares.pure _
    · exact compares.pure _

theorem Removal.removed_compared
    (compares : scope.Compares delivery kind (.removed identifier remaining) related) :
    related (removed scope identifier remaining)
      (removed (scope.answering delivery) identifier remaining) := by
  unfold removed
  refine compares.bind (compares.note _) ?_
  intro _
  exact compares.bind compares.tell fun _ => compares.pure _

theorem Enumeration.enumerated_compared
    (compares : scope.Compares delivery kind (.enumerated identifier remaining) related) :
    related (enumerated scope identifier remaining)
      (enumerated (scope.answering delivery) identifier remaining) :=
  compares.bind compares.tell fun _ => compares.pure _

end Actions

/-- The four actions answer a result by calls composed of what the scope offers for it, and do
so in the same way whatever the listener is. -/
theorem BuiltinAction.respond_compared {scope : Scope}
    {delivery : List ListenerEvent → ListenerEvent → DeliveryAnswer} {action : BuiltinAction}
    {result : HardwareResult} {related : ∀ {Value : Type}, Call Value → Call Value → Prop}
    (compares : scope.Compares delivery action.kind result related) :
    ∃ (next : BuiltinAction) (call other : Call Bool), related call other ∧
      action.respond scope result = ⟨next, call.run⟩ ∧
      action.respond (scope.answering delivery) result = ⟨next, other.run⟩ := by
  have unexpected : ∃ (next : BuiltinAction) (call other : Call Bool), related call other ∧
      HardwareAction.unexpected action action.kind result = ⟨next, call.run⟩ ∧
      HardwareAction.unexpected action action.kind result = ⟨next, other.run⟩ :=
    ⟨_, _, _, compares.bind (compares.note (.unexpectedCallback result.callback action.kind))
      fun _ => compares.pure true, rfl, rfl⟩
  cases action with
  | enroll enrollment =>
      cases result with
      | enrolled => exact ⟨_, _, _, Enrollment.enrolled_compared compares, rfl, rfl⟩
      | authenticated | removed | enumerated => exact unexpected
  | authenticate authentication =>
      cases result with
      | authenticated identifier accepted token =>
          cases accepted with
          | true => exact ⟨_, _, _, Authentication.accepted_compared compares, rfl, rfl⟩
          | false => exact ⟨_, _, _, Authentication.rejected_compared compares _, rfl, rfl⟩
      | enrolled | removed | enumerated => exact unexpected
  | remove removal =>
      cases result with
      | removed => exact ⟨_, _, _, Removal.removed_compared compares, rfl, rfl⟩
      | enrolled | authenticated | enumerated => exact unexpected
  | enumerate =>
      cases result with
      | enumerated => exact ⟨_, _, _, Enumeration.enumerated_compared compares, rfl, rfl⟩
      | enrolled | authenticated | removed => exact unexpected

/-- A property of calls which composition keeps, and which the calls have that a scope offers
to an action of some kind for its answer to a result. -/
structure Scope.Composes (scope : Scope) (kind : ClientKind) (result : HardwareResult)
    (good : ∀ {Value : Type}, Call Value → Prop) : Prop where
  pure : ∀ {Value : Type} (value : Value), good (Pure.pure value : Call Value)
  bind : ∀ {First Second : Type} {first : Call First} {next : First → Call Second},
    good first → (∀ value, good (next value)) → good (first >>= next)
  note : ∀ notice, good (Call.note notice)
  vibrate : ∀ effect : Option HapticEffect, (∀ known ∈ effect, result.vibration? = some known) →
    good (Scope.vibrate effect)
  tell : good (scope.deliverOrNote (result.news scope.device))
  lockout : kind = .authenticate → result.isRejection = true →
    good (scope.reportError kind scope.device ErrorCode.lockout 0)

/-- Every answer of the four actions is composed of what the scope offers for it. -/
theorem BuiltinAction.respond_composed {scope : Scope} {action : BuiltinAction}
    {result : HardwareResult} {good : ∀ {Value : Type}, Call Value → Prop}
    (composes : scope.Composes action.kind result good) :
    ∃ call : Call Bool, good call ∧ (action.respond scope result).emission = call.run := by
  have compares : scope.Compares scope.answers.delivery action.kind result
      fun call _ => good call :=
    ⟨composes.pure, composes.bind, composes.note, composes.vibrate, composes.tell,
      composes.lockout⟩
  obtain ⟨_, call, _, isGood, answer, _⟩ := respond_compared compares
  exact ⟨call, isGood, congrArg Reaction.emission answer⟩

end BiometricSession
