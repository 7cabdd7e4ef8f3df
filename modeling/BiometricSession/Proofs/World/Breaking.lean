import BiometricSession.Proofs.Session.Breaking
import BiometricSession.Proofs.World.Life

/-!
# Worlds whose listeners break

An operation that a session goes through in the same way for both listeners takes the world
to the same place, where only the listener's patience differs.  So does a client's death, which
tells the client nothing.
-/

namespace BiometricSession

/-- The listener, if its channel breaks after so many events. -/
def Listener.breakingAfter (limit : Nat) (listener : Listener) : Listener :=
  { listener with answer := (failingAfter (some limit) (.refused .channelClosed)).answer }

def Monitor.breakingAfter (limit : Nat) (monitor : Monitor BuiltinAction) :
    Monitor BuiltinAction :=
  { monitor with listener := monitor.listener.map (·.breakingAfter limit) }

/-- The listener takes everything and has heard so many events. -/
def Monitor.Attends (heard : Nat) (monitor : Monitor BuiltinAction) : Prop :=
  ∃ told, monitor.listener =
    some ((Listener.failingAfter none (.refused .channelClosed)).after told) ∧
      told.length = heard

theorem Monitor.Attends.performed {heard : Nat} {monitor : Monitor BuiltinAction}
    (attends : monitor.Attends heard) (answers : Answers) (operation : Operation) :
    (monitor.performed answers operation).Attends (heard + (Effect.attempts
      (monitor.session.perform monitor.setting answers operation).effects).length) := by
  obtain ⟨told, listener, rfl⟩ := attends
  refine ⟨told ++ Effect.attempts
    (monitor.session.perform monitor.setting answers operation).effects, ?_, List.length_append⟩
  simp only [Monitor.performed, listener, Option.map_some]
  rfl

namespace World

variable {world : World BuiltinAction} {monitor : Monitor BuiltinAction} {limit heard : Nat}

/-- The world, if the channels of all listeners break after so many events. -/
def breakingAfter (limit : Nat) (world : World BuiltinAction) : World BuiltinAction :=
  { world with monitors := world.monitors.map (Option.map (·.breakingAfter limit)) }

/-- The session of a replay has a listener that takes everything and has heard so many
events. -/
def Attends (heard : Nat) (world : World BuiltinAction) : Prop :=
  ∀ monitor, world.monitor? 0 = some monitor → monitor.Attends heard

theorem monitor?_breakingAfter (limit : Nat) (world : World BuiltinAction) (position : Nat) :
    (world.breakingAfter limit).monitor? position =
      (world.monitor? position).map (·.breakingAfter limit) := by
  unfold monitor? breakingAfter
  rw [List.getElem?_map]
  rcases world.monitors[position]? with _ | _ | monitor <;> rfl

theorem answers_of_attends (attends : monitor.Attends heard) (world : World BuiltinAction) :
    (world.answers monitor).TakesAll ∧
      (world.breakingAfter limit).answers (monitor.breakingAfter limit) =
        (world.answers monitor).upTo limit heard := by
  obtain ⟨setting, session, listener⟩ := monitor
  obtain ⟨told, rfl, rfl⟩ := attends
  refine ⟨fun _ _ => rfl, ?_⟩
  simp only [answers, Monitor.breakingAfter, Listener.breakingAfter, Listener.after,
    Listener.failingAfter, Answers.upTo, Option.map_some, Answers.mk.injEq]
  refine ⟨rfl, rfl, ?_, rfl, rfl⟩
  funext earlier event
  simp [DeliveryAnswer.upTo]

end World

/-- The same step, if the channels of all listeners break after so many events. -/
def WorldStep.breakingAfter {Value : Type} (limit : Nat)
    (step : WorldStep BuiltinAction Value) : WorldStep BuiltinAction Value :=
  { step with world := step.world.breakingAfter limit }

namespace World

variable {world : World BuiltinAction} {monitor : Monitor BuiltinAction} {limit heard : Nat}
  {position : Nat} {operation : Operation}

/-- An operation that a session goes through in the same way changes the world in the same
way. -/
theorem perform_breakingAfter
    (same : monitor.session.perform monitor.setting
        ((world.breakingAfter limit).answers (monitor.breakingAfter limit)) operation =
      monitor.session.perform monitor.setting (world.answers monitor) operation) :
    (world.breakingAfter limit).perform position (monitor.breakingAfter limit) operation =
      (world.perform position monitor operation).breakingAfter limit := by
  have step : (monitor.breakingAfter limit).session.perform
      (monitor.breakingAfter limit).setting _ operation = _ := same
  have listeners (events : List ListenerEvent) :
      (monitor.breakingAfter limit).listener.map (·.after events) =
        (monitor.listener.map (·.after events)).map (·.breakingAfter limit) := by
    unfold Monitor.breakingAfter
    cases monitor.listener <;> rfl
  unfold perform
  simp only [step, listeners]
  simp only [WorldStep.breakingAfter, breakingAfter, settle, List.map_set, Option.map_some]
  rfl

theorem perform_breakingAfter_of_noEvent (noEvent : ∀ event, operation ≠ .callback event)
    (world : World BuiltinAction) (position : Nat) (monitor : Monitor BuiltinAction) :
    (world.breakingAfter limit).perform position (monitor.breakingAfter limit) operation =
      (world.perform position monitor operation).breakingAfter limit :=
  perform_breakingAfter (Session.perform_of_delivery noEvent monitor.setting
    (world.answers monitor) monitor.session
      ((world.breakingAfter limit).answers (monitor.breakingAfter limit)).delivery)

theorem attends_perform (attends : world.Attends heard)
    (found : world.monitor? position = some monitor)
    (noEvent : ∀ event, operation ≠ .callback event) :
    (world.perform position monitor operation).world.Attends heard := by
  intro other present
  by_cases here : position = 0
  · subst here
    rw [monitor?_performed found] at present
    obtain rfl := Option.some.inj present
    have none := Session.deliveries_of_noEvent noEvent monitor.setting (world.answers monitor)
      monitor.session
    rw [Monitor.performed_of_untold (by rw [Effect.attempts_eq_map_deliveries, none]; rfl)]
    exact attends monitor found
  · rw [(perform_other found operation here).1] at present
    exact attends other present

theorem tellAll_breakingAfter (links : List (DeathLink Nat)) (world : World BuiltinAction) :
    tellAll links (world.breakingAfter limit) = (tellAll links world).breakingAfter limit := by
  induction links generalizing world with
  | nil => rfl
  | cons link links ih =>
      unfold tellAll
      rw [monitor?_breakingAfter]
      cases world.monitor? link.recipient with
      | none => exact congrArg (WorldStep.map _) (ih world)
      | some monitor =>
          have noEvent (event : HardwareEvent) : Operation.clientDied true ≠ .callback event := by
            simp
          have first : (world.breakingAfter limit).perform link.recipient
              (monitor.breakingAfter limit) (.clientDied true) = _ :=
            perform_breakingAfter_of_noEvent noEvent world link.recipient monitor
          simp only [Option.map_some, first]
          cases ended : (world.perform link.recipient monitor (.clientDied true)).ending with
          | crashed crash => simp only [WorldStep.breakingAfter, ended]
          | returned reply => simp only [WorldStep.breakingAfter, ended, ih]

theorem attends_tellAll (links : List (DeathLink Nat)) {world : World BuiltinAction}
    (attends : world.Attends heard) : (tellAll links world).world.Attends heard := by
  induction links generalizing world with
  | nil => exact attends
  | cons link links ih =>
      unfold tellAll
      cases found : world.monitor? link.recipient with
      | none => exact ih attends
      | some monitor =>
          have noEvent (event : HardwareEvent) : Operation.clientDied true ≠ .callback event := by
            simp
          have first := attends_perform attends found noEvent
          simp only
          split
          · exact first
          · exact ih first

theorem notifyDeath_breakingAfter (world : World BuiltinAction) (token : Nat) :
    (world.breakingAfter limit).notifyDeath token =
      (world.notifyDeath token).breakingAfter limit := by
  unfold notifyDeath
  rw [show (world.breakingAfter limit).tokens = world.tokens from rfl]
  cases world.tokens[token]?.bind ClientToken.die with
  | none => rfl
  | some death =>
      exact tellAll_breakingAfter death.1 { world with tokens := world.tokens.set token death.2 }

theorem attends_notifyDeath (attends : world.Attends heard) (token : Nat) :
    (world.notifyDeath token).world.Attends heard := by
  unfold notifyDeath
  cases world.tokens[token]?.bind ClientToken.die with
  | none => exact attends
  | some death => exact attends_tellAll death.1 attends

end World

end BiometricSession
