import BiometricSession.Action.Builtin

/-!
# Orderly calls

What a client hears is orderly if it hears nothing after an event that ends its
session and nothing after an event that it could not be told.  Calls keep that
order among themselves: a call that lets its session go on has told the client
only routine events, which were taken; any other call has done so with every
event but its last.

The order of a call is read off its parts.  The four actions follow rule by
rule, in the order in which they are written.
-/

namespace BiometricSession

namespace ListenerEvent

/-- Whether an event tells the client that its session is over. -/
def isTerminal : ListenerEvent → Bool
  | error .. | authenticationSucceeded .. => true
  | enrollResult _ remaining | removed _ remaining | enumerated _ remaining =>
      remaining = 0
  | acquired .. | authenticationFailed _ => false

end ListenerEvent

/-- An attempt to tell the client of an event. -/
structure DeliveryAttempt where
  event : ListenerEvent
  answer : DeliveryAnswer
  deriving DecidableEq

namespace DeliveryAttempt

/-- Whether a delivery was taken and leaves more to come. -/
def routine (delivery : DeliveryAttempt) : Bool :=
  delivery.answer = .sent && !delivery.event.isTerminal

/-- Routine deliveries may come before others, of which the last is free. -/
theorem routine_upToLast {first second : List DeliveryAttempt}
    (before : ∀ delivery ∈ first, delivery.routine = true)
    (after : ∀ delivery ∈ second.dropLast, delivery.routine = true) :
    ∀ delivery ∈ (first ++ second).dropLast, delivery.routine = true := by
  intro delivery member
  rw [List.dropLast_append] at member
  split at member
  · exact before delivery (List.dropLast_subset _ member)
  · rcases List.mem_append.mp member with earlier | later
    · exact before delivery earlier
    · exact after delivery later

end DeliveryAttempt

namespace Effect

/-- The delivery that an effect is. -/
def delivery? : Effect → Option DeliveryAttempt
  | delivery event answer => some ⟨event, answer⟩
  | _ => none

/-- The deliveries among some effects, in order. -/
def deliveries (effects : List Effect) : List DeliveryAttempt :=
  effects.filterMap delivery?

@[simp]
theorem deliveries_nil : deliveries [] = [] :=
  rfl

@[simp]
theorem deliveries_append (first second : List Effect) :
    deliveries (first ++ second) = deliveries first ++ deliveries second :=
  List.filterMap_append

theorem attempts_eq_map_deliveries (effects : List Effect) :
    attempts effects = (deliveries effects).map (·.event) := by
  unfold attempts deliveries
  rw [List.map_filterMap]
  congr 1
  funext effect
  cases effect <;> rfl

end Effect

/-- A call's effects and ending are orderly with respect to the values that let
the session go on.  Only the listener may have broken it off. -/
structure Emission.Orderly {Value : Type} (goesOn : Value → Prop)
    (emission : Emission Value) : Prop where
  broken : ∀ crash, emission.ending = .crashed crash →
    ∃ delivery ∈ Effect.deliveries emission.effects, delivery.answer = .crash
  upToLast : ∀ value, emission.ending = .returned value →
    ∀ delivery ∈ (Effect.deliveries emission.effects).dropLast, delivery.routine = true
  throughout : ∀ value, emission.ending = .returned value → goesOn value →
    ∀ delivery ∈ Effect.deliveries emission.effects, delivery.routine = true

namespace Call

variable {First Second Value : Type}

/-- A call is orderly whatever was delivered before it. -/
def Orderly (goesOn : Value → Prop) (call : Call Value) : Prop :=
  ∀ earlier, (call earlier).Orderly goesOn

/-- A call delivers nothing and returns a value of some kind. -/
def Silent (kind : Value → Prop) (call : Call Value) : Prop :=
  ∀ earlier, Effect.deliveries (call earlier).effects = [] ∧
    ∃ value, (call earlier).ending = .returned value ∧ kind value

theorem bind_eq_after_returned {first : Call First} (next : First → Call Second)
    {earlier : List ListenerEvent} {value : First}
    (returned : (first earlier).ending = .returned value) :
    (first >>= next) earlier =
      let rest := next value (earlier ++ Effect.attempts (first earlier).effects)
      ⟨(first earlier).effects ++ rest.effects, rest.ending⟩ := by
  change Call.bind first next earlier = _
  unfold Call.bind
  rcases done : first earlier with ⟨effects, ending⟩
  rw [done] at returned
  subst returned
  rfl

theorem bind_eq_of_returned {first : Call First} (next : First → Call Second)
    {earlier : List ListenerEvent} {value : First}
    (returned : (first earlier).ending = .returned value) :
    ∃ between, (first >>= next) earlier =
      ⟨(first earlier).effects ++ (next value between).effects,
        (next value between).ending⟩ :=
  ⟨_, bind_eq_after_returned next returned⟩

theorem bind_eq_of_crashed {first : Call First} {next : First → Call Second}
    {earlier : List ListenerEvent} {crash : Crash}
    (crashed : (first earlier).ending = .crashed crash) :
    (first >>= next) earlier = ⟨(first earlier).effects, .crashed crash⟩ := by
  change Call.bind first next earlier = _
  unfold Call.bind
  rcases done : first earlier with ⟨effects, ending⟩
  rw [done] at crashed
  subst crashed
  rfl

namespace Silent

theorem pure {kind : Value → Prop} {value : Value} (isKind : kind value) :
    Silent kind (Pure.pure value : Call Value) :=
  fun _ => ⟨rfl, value, rfl, isKind⟩

theorem returning (value : Value) : Silent (· = value) (Pure.pure value : Call Value) :=
  pure rfl

theorem finish : Silent (fun last => ¬ last = false) (Pure.pure true : Call Bool) :=
  pure nofun

theorem emit {effects : List Effect} (none : Effect.deliveries effects = []) :
    Silent (fun _ => True) (Call.emit effects) :=
  fun _ => ⟨none, (), rfl, trivial⟩

theorem note (notice : Notice) : Silent (fun _ => True) (Call.note notice) :=
  emit rfl

theorem bind {between : First → Prop} {kind : Second → Prop} {first : Call First}
    {next : First → Call Second} (front : first.Silent between)
    (back : ∀ value, between value → (next value).Silent kind) :
    (first >>= next).Silent kind := by
  intro earlier
  obtain ⟨none, value, returned, isBetween⟩ := front earlier
  obtain ⟨inBetween, joined⟩ := bind_eq_of_returned next returned
  obtain ⟨noneLater, last, ended, isKind⟩ := back value isBetween inBetween
  rw [joined]
  exact ⟨by simp [none, noneLater], last, ended, isKind⟩

theorem afterIf {condition : Prop} [Decidable condition] {between : Unit → Prop}
    {kind : Value → Prop} {first : Call Unit} {next : Unit → Call Value}
    (front : first.Silent between) (back : ∀ value, (next value).Silent kind) :
    (if condition then first >>= next else next ()).Silent kind := by
  by_cases holds : condition
  · rw [if_pos holds]
    exact front.bind fun value _ => back value
  · rw [if_neg holds]
    exact back ()

/-- A call that delivers nothing is orderly. -/
theorem orderly {kind : Value → Prop} {call : Call Value} (silent : call.Silent kind)
    (goesOn : Value → Prop) : call.Orderly goesOn := by
  intro earlier
  obtain ⟨none, value, returned, _⟩ := silent earlier
  refine ⟨?_, ?_, ?_⟩
  · intro crash crashed
    simp [returned] at crashed
  · simp [none]
  · simp [none]

end Silent

namespace Orderly

variable {goesOn : Value → Prop}

theorem pure (value : Value) : (Pure.pure value : Call Value).Orderly goesOn :=
  (Silent.returning value).orderly goesOn

/-- A call may follow in good order if the session goes on; after the end, all
that may follow is silence. -/
theorem bind {between : First → Prop} {first : Call First} {next : First → Call Value}
    (front : first.Orderly between)
    (on : ∀ value, between value → (next value).Orderly goesOn)
    (past : ∀ value, ¬ between value → (next value).Silent fun last => ¬ goesOn last) :
    (first >>= next).Orderly goesOn := by
  intro earlier
  cases ended : (first earlier).ending with
  | crashed crash =>
      rw [bind_eq_of_crashed ended]
      refine ⟨fun _ _ => (front earlier).broken crash ended, ?_, ?_⟩ <;>
        intro value returned <;> cases returned
  | returned value =>
      obtain ⟨inBetween, joined⟩ := bind_eq_of_returned next ended
      rw [joined]
      by_cases goes : between value
      · have routine := (front earlier).throughout value ended goes
        have rest := on value goes inBetween
        refine ⟨?_, ?_, ?_⟩
        · intro crash crashed
          obtain ⟨delivery, member, isCrash⟩ := rest.broken crash crashed
          exact ⟨delivery, by simp [member], isCrash⟩
        · intro last returned
          rw [Effect.deliveries_append]
          exact DeliveryAttempt.routine_upToLast routine (rest.upToLast last returned)
        · intro last returned goesLast delivery member
          rw [Effect.deliveries_append] at member
          rcases List.mem_append.mp member with before | after
          · exact routine delivery before
          · exact rest.throughout last returned goesLast delivery after
      · obtain ⟨none, last, returned, isOver⟩ := past value goes inBetween
        refine ⟨?_, ?_, ?_⟩
        · intro crash crashed
          simp [returned] at crashed
        · rw [Effect.deliveries_append, none, List.append_nil]
          exact fun _ _ => (front earlier).upToLast value ended
        · intro other isOther goesOther
          obtain rfl := Ending.returned.inj (returned.symm.trans isOther)
          exact absurd goesOther isOver

/-- Silence before a call changes nothing about its order. -/
theorem after {kind : First → Prop} {first : Call First} {next : First → Call Value}
    (silent : first.Silent kind) (rest : ∀ value, (next value).Orderly goesOn) :
    (first >>= next).Orderly goesOn :=
  (silent.orderly fun _ => True).bind (fun value _ => rest value)
    fun _ past => absurd trivial past

theorem afterIf {condition : Prop} [Decidable condition] {kind : Unit → Prop}
    {first : Call Unit} {next : Unit → Call Value} (silent : first.Silent kind)
    (rest : ∀ value, (next value).Orderly goesOn) :
    (if condition then first >>= next else next ()).Orderly goesOn := by
  by_cases holds : condition
  · rw [if_pos holds]
    exact after silent rest
  · rw [if_neg holds]
    exact rest ()

end Orderly

end Call

/-! ## What an action may reach -/

namespace Scope

variable (scope : Scope)

theorem silent_vibrate (effect : Option HapticEffect) :
    (vibrate effect).Silent fun _ => True :=
  Call.Silent.emit (by cases effect <;> rfl)

theorem orderly_deliver (event : ListenerEvent) :
    (scope.deliver event).Orderly fun failure =>
      failure = none ∧ event.isTerminal = false := by
  intro earlier
  unfold deliver
  cases scope.listening with
  | false =>
      simp only [Bool.false_eq_true, if_false]
      exact ⟨by simp, by simp, by simp⟩
  | true =>
      simp only [if_true]
      cases answer : scope.answers.delivery earlier event with
      | sent =>
          refine ⟨by simp, by simp [Effect.deliveries, Effect.delivery?], ?_⟩
          rintro failure _ ⟨_, more⟩ delivery member
          obtain rfl : delivery = ⟨event, .sent⟩ := by
            simpa [Effect.deliveries, Effect.delivery?] using member
          simp [DeliveryAttempt.routine, more]
      | refused error =>
          refine ⟨by simp, by simp [Effect.deliveries, Effect.delivery?], ?_⟩
          rintro failure returned ⟨isNone, _⟩
          simp [← Ending.returned.inj returned] at isNone
      | crash =>
          refine ⟨?_, by simp, by simp⟩
          intro crash _
          exact ⟨⟨event, .crash⟩, by simp [Effect.deliveries, Effect.delivery?], rfl⟩

theorem orderly_deliverOrNote (event : ListenerEvent) :
    (scope.deliverOrNote event).Orderly fun failed =>
      failed = false ∧ event.isTerminal = false := by
  unfold deliverOrNote
  apply (scope.orderly_deliver event).bind
  · rintro failure ⟨rfl, more⟩
    exact .pure _
  · intro failure past
    cases failure with
    | none =>
        apply Call.Silent.pure
        exact fun ⟨_, more⟩ => past ⟨rfl, more⟩
    | some error =>
        apply (Call.Silent.note _).bind
        intro _ _
        apply Call.Silent.pure
        simp

/-- A routine event after which the session does not go on could not be
delivered. -/
theorem failed_of_past {failed : Bool} {event : ListenerEvent}
    (more : event.isTerminal = false)
    (past : ¬(failed = false ∧ event.isTerminal = false)) : failed = true := by
  cases failed with
  | false => exact absurd ⟨rfl, more⟩ past
  | true => rfl

/-- An error that is reported is the last that the client hears. -/
theorem orderly_reportError (kind : ClientKind) (device : UInt64) (error vendor : Int32) :
    (scope.reportError kind device error vendor).Orderly fun _ => False := by
  unfold reportError
  apply Call.Orderly.after (Call.Silent.emit rfl)
  intro _
  apply (scope.orderly_deliverOrNote _).bind
  · rintro failed ⟨_, more⟩
    simp [ListenerEvent.isTerminal] at more
  · intro failed _
    exact Call.Silent.pure id

end Scope

/-! ## The four actions -/

/-- A result with a count of what remains ends the session if it cannot be
delivered or leaves nothing. -/
theorem orderly_counted (scope : Scope) {event : ListenerEvent} {remaining : Int32}
    (terminal : event.isTerminal = decide (remaining = 0)) :
    (do
      let failed ← scope.deliverOrNote event
      return failed || remaining = 0 : Call Bool).Orderly (· = false) := by
  apply (scope.orderly_deliverOrNote event).bind
  · intro failed _
    exact .pure _
  · intro failed past
    apply Call.Silent.pure
    intro goes
    obtain ⟨taken, more⟩ := Bool.or_eq_false_iff.mp goes
    exact past ⟨taken, terminal.trans more⟩

theorem Enrollment.orderly_enrolled (scope : Scope) (identifier : BiometricIdentifier)
    (remaining : Int32) :
    (Enrollment.enrolled scope identifier remaining).Orderly (· = false) := by
  unfold Enrollment.enrolled
  apply Call.Orderly.afterIf (Call.Silent.note _)
  intro _
  apply Call.Orderly.afterIf (Call.Silent.note _)
  intro _
  apply Call.Orderly.after (Scope.silent_vibrate _)
  intro _
  exact orderly_counted scope rfl

namespace Authentication

theorem orderly_accepted (scope : Scope) (identifier : BiometricIdentifier)
    (token : List UInt8) :
    (accepted scope identifier token).Orderly (· = false) := by
  unfold accepted
  apply Call.Orderly.after (Call.Silent.note _)
  intro _
  apply Call.Orderly.after (Scope.silent_vibrate _)
  intro _
  apply (scope.orderly_deliverOrNote _).bind
  · intro failed _
    exact .pure _
  · intro failed _
    exact Call.Silent.finish

theorem orderly_rejected (scope : Scope) (authentication : Authentication) :
    (rejected scope authentication).Orderly (· = false) := by
  unfold rejected
  apply Call.Orderly.after (Call.Silent.note _)
  intro _
  apply Call.Orderly.after (Scope.silent_vibrate _)
  intro _
  apply (scope.orderly_deliverOrNote _).bind
  · rintro failed ⟨rfl, _⟩
    simp only [Bool.false_eq_true, if_false]
    split
    · apply Call.Orderly.after (Call.Silent.note _)
      intro _
      apply (scope.orderly_reportError _ _ _ _).bind
      · intro _ none
        exact none.elim
      · intro _ _
        exact Call.Silent.finish
    · exact .pure _
  · intro failed past
    rw [if_pos (Scope.failed_of_past rfl past)]
    exact Call.Silent.finish

end Authentication

theorem Removal.orderly_removed (scope : Scope) (identifier : BiometricIdentifier)
    (remaining : Int32) :
    (Removal.removed scope identifier remaining).Orderly (· = false) := by
  unfold Removal.removed
  apply Call.Orderly.after (Call.Silent.note _)
  intro _
  exact orderly_counted scope rfl

theorem Enumeration.orderly_enumerated (scope : Scope) (identifier : BiometricIdentifier)
    (remaining : Int32) :
    (Enumeration.enumerated scope identifier remaining).Orderly (· = false) :=
  orderly_counted scope rfl

/-- Whatever result an action is given, it answers in good order. -/
theorem BuiltinAction.orderly_respond (scope : Scope) (action : BuiltinAction)
    (result : HardwareResult) :
    (HardwareAction.respond scope action result).emission.Orderly (· = false) := by
  have unexpected : ∀ notice : Notice,
      Emission.Orderly (· = false) ⟨[.notice notice], .returned true⟩ := by
    intro notice
    have none : Effect.deliveries [.notice notice] = [] := rfl
    exact ⟨by simp, by simp [none], by simp⟩
  cases action with
  | enroll enrollment =>
      cases result with
      | enrolled identifier remaining =>
          exact Enrollment.orderly_enrolled scope identifier remaining []
      | authenticated | removed | enumerated => exact unexpected _
  | authenticate authentication =>
      cases result with
      | authenticated identifier accepted token =>
          cases accepted with
          | true => exact Authentication.orderly_accepted scope identifier token []
          | false =>
              exact Authentication.orderly_rejected scope authentication.countRejection []
      | enrolled | removed | enumerated => exact unexpected _
  | remove removal =>
      cases result with
      | removed identifier remaining =>
          exact Removal.orderly_removed scope identifier remaining []
      | enrolled | authenticated | enumerated => exact unexpected _
  | enumerate =>
      cases result with
      | enumerated identifier remaining =>
          exact Enumeration.orderly_enumerated scope identifier remaining []
      | enrolled | authenticated | removed => exact unexpected _

end BiometricSession
