import BiometricSession.Proofs.Session.Teardown
import BiometricSession.Proofs.World.Life

/-!
# Sessions that are torn down in two worlds

A session that is torn down asks nobody anything, so that it does the same in two worlds
in which its hardware, its listener and its token answer differently.  Two such sessions
that differ at most in the memory of a cancellation answer every later operation alike,
and also their being given up.
-/

namespace BiometricSession

variable {Action : Type}

/-- Whether a command is about the session at a position: it operates it or gives it up,
or sets how collaborators answer it. -/
def WorldCommand.isAbout (position : Nat) : WorldCommand Action → Bool
  | .perform number _ | .drop number | .setListener number _ => number == position
  | .setHal _ | .setPreference .. => true
  | _ => false

namespace World

/-- In two worlds, the session at a position is torn down, and only the memory of a
cancellation differs; or there is none any more. -/
inductive TornAlike (position : Nat) (first second : World Action) : Prop
  | gone (none_first : first.monitor? position = none)
      (none_second : second.monitor? position = none)
  | torn {setting : Setting} {mourned spared : Session Action} {listener : Option Listener}
      (found_first : first.monitor? position = some ⟨setting, mourned, listener⟩)
      (found_second : second.monitor? position = some ⟨setting, spared, listener⟩)
      (tornDown_first : mourned.TornDown) (tornDown_second : spared.TornDown)
      (alike : mourned.atRest = spared.atRest)

variable [HardwareAction Action] {world first second : World Action} {position : Nat}
  {monitor : Monitor Action}

/-- An operation leaves a session that is torn down as it is. -/
theorem monitor?_perform_tornDown (found : world.monitor? position = some monitor)
    (tornDown : monitor.session.TornDown) (operation : Operation) :
    (world.perform position monitor operation).world.monitor? position = some monitor := by
  have untold : Effect.attempts
      (monitor.session.perform monitor.setting (world.answers monitor) operation).effects =
        [] := by
    refine List.filterMap_eq_nil_iff.mpr fun effect member => ?_
    have quiet := (Session.perform_of_terminated monitor.setting (world.answers monitor)
      operation tornDown.terminated).2.1 effect member
    cases effect <;> first | rfl | cases quiet
  rw [monitor?_performed found, Monitor.performed_of_untold untold, tornDown.perform]

omit [HardwareAction Action] in
theorem monitor?_setListener (found : world.monitor? position = some monitor)
    (listener : Listener) :
    (world.setListener position monitor listener).monitor? position =
      some { monitor with listener := some listener } := by
  have settled := monitor?_settle (lt_length_of_monitor? found)
    (some { monitor with listener := some listener }) [] position
  rwa [if_pos rfl] at settled

/-- A command that is about a session that is torn down has the same answer in both
worlds, and the same happens. -/
theorem TornAlike.obey (alike : TornAlike position first second)
    {command : WorldCommand Action} (own : command.isAbout position = true) :
    TornAlike position (first.obey command).world (second.obey command).world ∧
      (first.obey command).ending = (second.obey command).ending ∧
        (first.obey command).happenings = (second.obey command).happenings := by
  cases alike with
  | gone none_first none_second =>
      cases command with
      | setHal | setPreference => exact ⟨.gone none_first none_second, rfl, rfl⟩
      | perform number | drop number | setListener number =>
          obtain rfl := eq_of_beq own
          simp only [World.obey, none_first, none_second]
          exact ⟨.gone none_first none_second, rfl, rfl⟩
      | _ => cases own
  | @torn setting mourned spared listener found_first found_second tornDown_first tornDown_second
      alike =>
      cases command with
      | setHal | setPreference =>
          exact ⟨.torn found_first found_second tornDown_first tornDown_second alike, rfl, rfl⟩
      | perform number operation =>
          obtain rfl := eq_of_beq own
          obtain ⟨effects, ending⟩ := tornDown_first.perform_alike alike setting
            (first.answers ⟨setting, mourned, listener⟩)
            (second.answers ⟨setting, spared, listener⟩) operation
          rw [obey_perform found_first, obey_perform found_second]
          refine ⟨.torn (monitor?_perform_tornDown found_first tornDown_first operation)
            (monitor?_perform_tornDown found_second tornDown_second operation)
            tornDown_first tornDown_second alike, ?_, ?_⟩
          · exact congrArg (Ending.map _) ending
          · exact congrArg (List.map _) effects
      | drop number =>
          obtain rfl := eq_of_beq own
          have left {world : World Action} {monitor : Monitor Action}
              (found : world.monitor? number = some monitor) :
              (world.drop number monitor).world.monitor? number = none :=
            (monitor?_settle (lt_length_of_monitor? found) none _ number).trans (if_pos rfl)
          rw [obey_drop found_first, obey_drop found_second]
          refine ⟨.gone (left found_first) (left found_second), ?_, ?_⟩ <;>
            simp [World.drop, tornDown_first.drop, tornDown_second.drop]
      | setListener number newcomer =>
          obtain rfl := eq_of_beq own
          simp only [World.obey, found_first, found_second]
          exact ⟨.torn (monitor?_setListener found_first newcomer)
            (monitor?_setListener found_second newcomer) tornDown_first tornDown_second alike,
            rfl, rfl⟩
      | _ => cases own

/-- Whatever the collaborators answer, all that is asked of a session that is torn down is
answered alike in both worlds, and the same happens. -/
theorem TornAlike.deeds (alike : TornAlike position first second)
    (later : List (WorldCommand Action))
    (own : ∀ command ∈ later, command.isAbout position = true) :
    (first.deeds later).map (fun deed => (deed.step.ending, deed.step.happenings)) =
      (second.deeds later).map fun deed => (deed.step.ending, deed.step.happenings) := by
  induction later generalizing first second with
  | nil => rfl
  | cons command later ih =>
      obtain ⟨next, ending, happenings⟩ := alike.obey (own command List.mem_cons_self)
      have rest := ih next fun other member => own other (List.mem_cons_of_mem command member)
      simp only [World.deeds, List.map_cons, ending, happenings, rest]

end World

end BiometricSession
