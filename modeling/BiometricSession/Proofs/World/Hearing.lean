import BiometricSession.Proofs.Session.Hearing
import BiometricSession.Proofs.World.Life

/-!
# One end for every client

In every run, from the making of a session to its being given up, its client is
told of routine events only, until at last one delivery fails or says that the
session is over.  Nothing is delivered after that, and the event that brought it
about has finished the session.
-/

namespace BiometricSession

theorem DeliveryAttempt.isError_of_routine {delivery : DeliveryAttempt}
    (routine : delivery.routine = true) : delivery.event.isError = false := by
  obtain ⟨event, answer⟩ := delivery
  cases event with
  | error => simp [DeliveryAttempt.routine, ListenerEvent.isTerminal] at routine
  | _ => rfl

theorem countP_isError_le_one {deliveries : List DeliveryAttempt}
    (routine : ∀ delivery ∈ deliveries.dropLast, delivery.routine = true) :
    deliveries.countP (·.event.isError) ≤ 1 := by
  rcases List.eq_nil_or_concat deliveries with rfl | ⟨before, last, rfl⟩
  · simp
  · rw [List.concat_eq_append] at routine ⊢
    rw [List.dropLast_concat] at routine
    have none : before.countP (·.event.isError) = 0 := by
      rw [List.countP_eq_zero]
      intro delivery member
      simp [DeliveryAttempt.isError_of_routine (routine delivery member)]
    rw [List.countP_append, none, Nat.zero_add]
    exact List.countP_le_length

namespace WorldDeed

variable {Action : Type} {position : Nat} {deed : WorldDeed Action}

/-- What the session at a position tries to deliver during a deed, in order. -/
def deliveries (position : Nat) (deed : WorldDeed Action) : List DeliveryAttempt :=
  Effect.deliveries (World.effectsOf position deed.step.happenings)

theorem deliveries_eq_of_calls {calls : List Effect}
    (same : World.callsOf position deed.step.happenings = calls) :
    deed.deliveries position = Effect.deliveries calls := by
  rw [← same]
  exact (Effect.deliveries_filter_callsOut _).symm

end WorldDeed

theorem Recounts.deliveries_eq {Action : Type} {position : Nat}
    {deeds : List (WorldDeed Action)} {life : List SessionDeed}
    (recounts : Recounts position deeds life) :
    deeds.flatMap (·.deliveries position) = life.flatMap (·.deliveries) := by
  have ofCalls : (fun deed : WorldDeed Action => deed.deliveries position) =
      fun deed => Effect.deliveries (World.callsOf position deed.step.happenings) :=
    funext fun deed => WorldDeed.deliveries_eq_of_calls rfl
  have ofPast : (fun past : SessionDeed => Effect.deliveries past.calls) =
      (·.deliveries) :=
    funext fun past => Effect.deliveries_filter_callsOut past.effects
  calc deeds.flatMap (·.deliveries position)
      = deeds.flatMap fun deed =>
          Effect.deliveries (World.callsOf position deed.step.happenings) := by rw [ofCalls]
    _ = Effect.deliveries
          (deeds.flatMap fun deed => World.callsOf position deed.step.happenings) :=
        List.filterMap_flatMap.symm
    _ = Effect.deliveries (life.flatMap (·.calls)) := by rw [recounts.calls_eq]
    _ = life.flatMap fun past => Effect.deliveries past.calls := List.filterMap_flatMap
    _ = life.flatMap (·.deliveries) := by rw [ofPast]

namespace World

/-- What the session at a position tries to deliver during some deeds. -/
def deliveries {Action : Type} (position : Nat) (deeds : List (WorldDeed Action)) :
    List DeliveryAttempt :=
  deeds.flatMap (·.deliveries position)

/-- If the listener breaks off nothing during some deeds, it breaks off nothing during one. -/
theorem steady_of_mem {Action : Type} {position : Nat} {deeds : List (WorldDeed Action)}
    (steady : Steady (deliveries position deeds)) {deed : WorldDeed Action}
    (member : deed ∈ deeds) : Steady (deed.deliveries position) :=
  fun delivery isDelivery => steady delivery (List.mem_flatMap.mpr ⟨deed, member, isDelivery⟩)

variable {processes : List (Option UInt32)} {commands : List (WorldCommand BuiltinAction)}
  {position : Nat}

/-- All deliveries to a client but the last are routine. -/
theorem routine_upToLast
    (steady : Steady (deliveries position ((fresh processes).deeds commands))) :
    ∀ delivery ∈ (deliveries position ((fresh processes).deeds commands)).dropLast,
      delivery.routine = true := by
  have lived := lived_run heardInvariant processes commands position
  unfold deliveries at steady ⊢
  cases found : ((fresh processes).after commands).monitor? position with
  | some monitor =>
      obtain ⟨life, recounts, heard⟩ := lived.present monitor found
      rw [recounts.deliveries_eq] at steady ⊢
      exact (heard steady).upToLast
  | none =>
      rcases lived.absent found with nothing | ended
      · rw [nothing.deliveries_eq]
        simp
      · obtain ⟨setting, session, answers, earlier, last, later, life, deeds, _, recounts,
          heard, calls, since⟩ := ended
        rw [deeds, List.flatMap_append, List.flatMap_cons, recounts.deliveries_eq,
          since.deliveries_eq, WorldDeed.deliveries_eq_of_calls calls,
          Effect.deliveries_filter_callsOut, List.flatMap_nil, List.append_nil] at steady ⊢
        obtain ⟨before, dropped⟩ := steady.of_append
        exact (heard before).drop dropped

/-- An event that makes a terminal or failing delivery finishes its session. -/
theorem done_of_unroutine
    (steady : Steady (deliveries position ((fresh processes).deeds commands)))
    {deed : WorldDeed BuiltinAction} (member : deed ∈ (fresh processes).deeds commands)
    {event : HardwareEvent} (isEvent : deed.command = .perform position (.callback event))
    {delivery : DeliveryAttempt} (delivered : delivery ∈ deed.deliveries position)
    (unroutine : delivery.routine = false) :
    ∃ monitor, deed.step.world.monitor? position = some monitor ∧
      monitor.session.done = true := by
  have calm := steady_of_mem steady member
  obtain ⟨earlier, later, split⟩ := List.append_of_mem member
  obtain ⟨first, second, _, _, before, step, _⟩ := deeds_split split
  obtain ⟨world, command, done⟩ := deed
  simp only at isEvent step
  subst isEvent step
  cases found : world.monitor? position with
  | none => simp [WorldDeed.deliveries, obey, found] at delivered
  | some monitor =>
      obtain ⟨listener, present⟩ := monitor?_perform found (.callback event)
      simp only [obey_perform found, WorldDeed.deliveries, perform, WorldStep.map_happenings,
        effectsOf_effects, if_true] at calm delivered
      rw [obey_perform found]
      exact ⟨_, present, Session.done_of_unroutine calm delivered unroutine⟩

/-- In every run whose listener breaks off no call of the session at a position,
every delivery of that session but the last was taken and is not terminal, at
most one error is delivered, and every event that makes a terminal or failing
delivery leaves the session finished. -/
theorem client_hears_one_end (processes : List (Option UInt32))
    (commands : List (WorldCommand BuiltinAction)) (position : Nat)
    (steady : Steady (deliveries position ((fresh processes).deeds commands))) :
    (∀ delivery ∈ (deliveries position ((fresh processes).deeds commands)).dropLast,
      delivery.answer = .sent ∧ delivery.event.isTerminal = false) ∧
      (deliveries position ((fresh processes).deeds commands)).countP (·.event.isError) ≤ 1 ∧
        ∀ deed ∈ (fresh processes).deeds commands, ∀ event,
          deed.command = .perform position (.callback event) →
            (∃ delivery ∈ deed.deliveries position,
              delivery.answer ≠ .sent ∨ delivery.event.isTerminal = true) →
                ∃ monitor, deed.step.world.monitor? position = some monitor ∧
                  monitor.session.done = true := by
  have routine := routine_upToLast steady
  refine ⟨?_, countP_isError_le_one routine, ?_⟩
  · intro delivery member
    simpa [DeliveryAttempt.routine] using routine delivery member
  · rintro deed member event isEvent ⟨delivery, delivered, last⟩
    have unroutine : delivery.routine = false := by
      rcases last with lost | terminal
      · simp [DeliveryAttempt.routine, lost]
      · simp [DeliveryAttempt.routine, terminal]
    exact done_of_unroutine steady member isEvent delivered unroutine

/-- A client whose only attempt is rejected hears of the rejection and of the
lockout, which ends the session; then it hears nothing more. -/
theorem client_hears_one_end_lockout :
    let opening : List (WorldCommand BuiltinAction) :=
      [.make ⟨⟨10, 20, false, "owner", 42, 1⟩, .fingerprint, .standard true⟩
          (.authenticate (.fresh 7 (.empty 6) 1)) none
          (some (.failingAfter none (.refused .channelClosed))),
        .perform 0 .start]
    let attempt : WorldCommand BuiltinAction :=
      .perform 0 (.callback (.result (.authenticated default false [])))
    let closing : List (WorldCommand BuiltinAction) := [attempt, .perform 0 (.stop true), .drop 0]
    let deeds := (fresh []).deeds (opening ++ attempt :: closing)
    Steady (deliveries 0 deeds) ∧ (deliveries 0 deeds).length = 2 ∧
      (deliveries 0 deeds).countP (·.event.isError) ≤ 1 ∧
        ∃ monitor, (((fresh []).after opening).obey attempt).world.monitor? 0 = some monitor ∧
          monitor.session.done = true := by
  intro opening attempt closing deeds
  have steady : Steady (deliveries 0 deeds) := by decide
  have orderly := client_hears_one_end [] (opening ++ attempt :: closing) 0 steady
  have member : ⟨(fresh []).after opening, attempt, ((fresh []).after opening).obey attempt⟩ ∈
      deeds := by
    rw [show deeds = _ from deeds_append (fresh []) opening (attempt :: closing)]
    exact List.mem_append_right _ List.mem_cons_self
  exact ⟨steady, by decide, orderly.2.1, orderly.2.2 _ member _ rfl (by decide)⟩

end World

end BiometricSession
