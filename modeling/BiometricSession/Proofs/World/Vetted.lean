import BiometricSession.Proofs.Session.Vetted
import BiometricSession.Proofs.World.Lifetime

/-!
# What clients are told in a run

A session that is made in a world keeps its setting and its terms for as long as it stands,
whatever a run does.  All that the run shows of it from its making to its being given up is
vetted on those terms.
-/

namespace BiometricSession

namespace World

variable {world : World BuiltinAction} {position : Nat} {setting : Setting}
  {action : BuiltinAction} {token : Option Nat} {listener : Option Listener}

/-- The making of a session is silent but for a notice. -/
theorem effects_make_silent {Action : Type} [HardwareAction Action] (world : World Action)
    (setting : Setting) (action : Action) (token : Option Nat) (listener : Option Listener)
    (position : Nat) :
    ∀ effect ∈ effectsOf position
        (world.obey (.make setting action token listener)).happenings,
      effect.callsOut = false := by
  obtain ⟨linked, _, happened⟩ := make_eq world setting action token listener
  intro effect member
  simp only [obey, WorldStep.map_happenings, happened, effectsOf_effects] at member
  split at member
  · exact Session.make_callsOut action _ linked effect member
  · cases member

/-- What becomes of a session from its making on. -/
theorem lifetime_make (world : World BuiltinAction) (setting : Setting)
    (action : BuiltinAction) (token : Option Nat) (listener : Option Listener)
    (commands : List (WorldCommand BuiltinAction)) :
    ∃ session : Session BuiltinAction, session.action = action ∧
      Lifetime world.monitors.length setting session
        (world.after (.make setting action token listener :: commands))
        (effectsDuring world.monitors.length
          ((world.obey (.make setting action token listener)).world.deeds commands)) := by
  obtain ⟨linked, monitors, _⟩ := make_eq world setting action token listener
  have found : (world.obey (.make setting action token listener)).world.monitor?
      world.monitors.length =
        some ⟨setting, (Session.make action listener.isSome linked).1, listener⟩ :=
    (monitor?_append world _ monitors _).trans (if_pos rfl)
  exact ⟨_, Session.make_action action _ linked, lifetime found commands⟩

/-- As long as it stands, a session has the setting and the terms that it was made with. -/
theorem standing_make (world : World BuiltinAction) (setting : Setting)
    (action : BuiltinAction) (token : Option Nat) (listener : Option Listener)
    (commands : List (WorldCommand BuiltinAction)) {monitor : Monitor BuiltinAction}
    (found : (world.after (.make setting action token listener :: commands)).monitor?
      world.monitors.length = some monitor) :
    monitor.setting = setting ∧
      monitor.session.action.terms setting = action.terms setting := by
  obtain ⟨session, rfl, lifetime⟩ :=
    lifetime_make world setting action token listener commands
  cases lifetime with
  | standing course present shows =>
      obtain rfl := Option.some.inj (present.symm.trans found)
      exact ⟨rfl, course.vetted.1⟩
  | givenUp answers course absent shows => cases absent.symm.trans found

/-- All that a run shows of a session from its making on is vetted. -/
theorem vetted_run (world : World BuiltinAction) (setting : Setting)
    (action : BuiltinAction) (token : Option Nat) (listener : Option Listener)
    (commands : List (WorldCommand BuiltinAction)) :
    Effect.Vetted (action.terms setting)
      (effectsDuring world.monitors.length
        (world.deeds (.make setting action token listener :: commands))) := by
  rw [effectsDuring_cons]
  have making := effects_make_silent world setting action token listener world.monitors.length
  refine (Session.vetted_of_callsOut making).append ?_
  obtain ⟨session, rfl, lifetime⟩ :=
    lifetime_make world setting action token listener commands
  cases lifetime with
  | standing course present shows =>
      rw [shows]
      exact course.vetted.2
  | @givenUp life last answers course absent shows =>
      have leaving := Session.vetted_drop setting answers last
      rw [course.vetted.1] at leaving
      rw [shows]
      exact course.vetted.2.append leaving

end World

end BiometricSession
