import BiometricSession.Proofs.Action.Counting
import BiometricSession.Proofs.Session.Crash
import BiometricSession.Proofs.Session.Teardown
import BiometricSession.Proofs.World.Past
import BiometricSession.Proofs.World.Veil

/-!
# A poisoned lock

A listener or a hardware that breaks a call off cannot spoil a session.  The call leaves
the session as it was, but for the count of a rejection, and the lock that it leaves
poisoned changes nothing: apart from the report of the poison, all worlds that differ in
poisoned locks only go on in the same way, and a session can be destroyed in any case.
-/

namespace BiometricSession.World

/-- In every run, an operation that is broken off leaves its session as it was, with the
lock poisoned and at most one more rejection counted.  To destroy the session succeeds
all the same and leaves it torn down, and to inspect it shows the same.  Worlds that
differ from this one in poisoned locks only cannot be told from it: every continuation
answers the same, calls the collaborators alike, and differs in the report of poisoned
locks only. -/
theorem poison_changes_nothing (processes : List (Option UInt32))
    (commands : List (WorldCommand BuiltinAction)) (position : Nat)
    {monitor : Monitor BuiltinAction}
    (found : ((fresh processes).after commands).monitor? position = some monitor) :
    (∀ answers operation crash,
      (monitor.session.perform monitor.setting answers operation).ending = .crashed crash →
        ∃ action, monitor.session.action.Counts action ∧
          (monitor.session.perform monitor.setting answers operation).session =
            { monitor.session with action, poisoned := true }) ∧
      (∀ answers,
        (monitor.session.perform monitor.setting answers .destroy).ending = .returned .none ∧
          (monitor.session.perform monitor.setting answers .destroy).session.TornDown) ∧
        (monitor.session.inspection monitor.setting).1 =
            (monitor.session.cured.inspection monitor.setting).1 ∧
          ∀ other : World BuiltinAction,
            other.veiled .lock = ((fresh processes).after commands).veiled .lock →
              ∀ later, (other.deeds later).map (·.step.seen .lock) =
                (((fresh processes).after commands).deeds later).map (·.step.seen .lock) := by
  have sound : monitor.session.Sound :=
    (sound_fresh processes).after commands position monitor found
  refine ⟨?_, ?_, rfl, fun other alike later => deeds_seen alike later⟩
  · intro answers operation crash crashed
    exact ⟨_, Session.counts_perform monitor.setting answers monitor.session operation,
      Session.perform_of_crashed crashed⟩
  · intro answers
    exact Session.tornDown_destroy monitor.setting answers sound

/-- The listener takes the rejection that leads to the lockout and breaks off when it is
to hear of the lockout itself.  The session is running as before, with one more rejection
counted; a second rejection, a stop and its destruction go on as if the lock had been
cured in between. -/
theorem poison_changes_nothing_lockout :
    let attempt : Operation := .callback (.result (.authenticated default false []))
    let commands : List (WorldCommand BuiltinAction) :=
      [.make ⟨⟨10, 20, false, "owner", 42, 1⟩, .fingerprint, .standard true⟩
          (.authenticate (.fresh 7 (.empty 6) 1)) (some 0) (some (.failingAfter (some 1) .crash)),
        .perform 0 .start]
    let world := (fresh [none]).after commands
    let poisoned := (fresh [none]).after (commands ++ [.perform 0 attempt])
    let later : List (WorldCommand BuiltinAction) :=
      [.perform 0 attempt, .perform 0 (.stop true), .perform 0 .destroy]
    ∃ monitor broken, world.monitor? 0 = some monitor ∧ poisoned.monitor? 0 = some broken ∧
      broken.session ≠ broken.session.cured ∧
        (∃ action, monitor.session.action.Counts action ∧
          broken.session = { monitor.session with action, poisoned := true }) ∧
          ((poisoned.veiled .lock).deeds later).map (·.step.seen .lock) =
            (poisoned.deeds later).map (·.step.seen .lock) := by
  intro attempt commands world poisoned later
  have stands : world.monitor? 0 = some _ := rfl
  have breaks : poisoned.monitor? 0 = some _ := rfl
  refine ⟨_, _, stands, breaks, by decide, ?_, ?_⟩
  · exact (poison_changes_nothing [none] commands 0 stands).1 (world.answers _) attempt
      .listener rfl
  · exact (poison_changes_nothing [none] _ 0 breaks).2.2.2 (poisoned.veiled .lock)
      (veiled_veiled .lock poisoned) later

end BiometricSession.World
