import BiometricSession.Proofs.World.Lasting

/-!
# The lifetime of a session

A session that stands at a position of a world goes through a course of operations,
whatever else a run does, and at some time it may be given up; then nothing happens at
its position any more.  What the run shows at the position is what the operations, and
the giving up, show of the session.
-/

namespace BiometricSession

namespace World

variable {Action : Type} {world : World Action} {position : Nat}

/-- The effects of the session at a position during some deeds, in order. -/
def effectsDuring (position : Nat) (deeds : List (WorldDeed Action)) : List Effect :=
  deeds.flatMap fun deed => effectsOf position deed.step.happenings

variable [HardwareAction Action]

theorem effectsDuring_cons (world : World Action) (command : WorldCommand Action)
    (commands : List (WorldCommand Action)) :
    effectsDuring position (world.deeds (command :: commands)) =
      effectsOf position (world.obey command).happenings ++
        effectsDuring position ((world.obey command).world.deeds commands) :=
  rfl

/-- Nobody comes back to the position of a session that was given up. -/
theorem absence_lasts :
    Lasting (fun _ : Session Action => False) fun _ => False where
  perform _ _ _ _ absurdity := absurdity.elim
  drop _ _ _ absurdity := absurdity.elim

/-- After a session was given up, a run shows nothing at its position. -/
theorem nothing_after_absence (made : position < world.monitors.length)
    (absent : world.monitor? position = none) (commands : List (WorldCommand Action)) :
    (world.after commands).monitor? position = none ∧
      effectsDuring position (world.deeds commands) = [] := by
  have gone : StaysAt (fun _ : Session Action => False) position world := by
    refine ⟨made, ?_⟩
    intro monitor found
    cases absent.symm.trans found
  constructor
  · cases found : (world.after commands).monitor? position with
    | none => rfl
    | some monitor => exact ((gone.after absence_lasts commands).within monitor found).elim
  · refine List.flatMap_eq_nil_iff.mpr ?_
    intro deed member
    refine List.eq_nil_iff_forall_not_mem.mpr ?_
    exact (gone.deeds absence_lasts commands deed member).2.2

/-- What becomes of a session in a run: it goes through a course of operations, and it
stands at its position afterwards or was given up in the end. -/
inductive Lifetime (position : Nat) (setting : Setting) (first : Session Action)
    (after : World Action) (effects : List Effect) : Prop
  | standing {life : List SessionDeed} {last : Session Action} {listener : Option Listener}
      (course : Course setting first life last)
      (present : after.monitor? position = some ⟨setting, last, listener⟩)
      (shows : effects = life.flatMap (·.effects))
  | givenUp {life : List SessionDeed} {last : Session Action} (answers : Answers)
      (course : Course setting first life last)
      (absent : after.monitor? position = none)
      (shows : effects = life.flatMap (·.effects) ++ (last.drop setting answers).effects)

/-- A course of operations before a lifetime is a part of it. -/
theorem Lifetime.prepend {setting : Setting} {first middle : Session Action}
    {after : World Action} {earlier later : List Effect} {life : List SessionDeed}
    (front : Course setting first life middle) (shown : earlier = life.flatMap (·.effects))
    (lifetime : Lifetime position setting middle after later) :
    Lifetime position setting first after (earlier ++ later) := by
  cases lifetime with
  | standing course present shows =>
      exact .standing (front.trans course) present (by simp [shown, shows])
  | givenUp answers course absent shows =>
      exact .givenUp answers (front.trans course) absent (by simp [shown, shows])

/-- In a run from a world in which a session stands at a position, the session has a
lifetime. -/
theorem lifetime {monitor : Monitor Action} (found : world.monitor? position = some monitor)
    (commands : List (WorldCommand Action)) :
    Lifetime position monitor.setting monitor.session (world.after commands)
      (effectsDuring position (world.deeds commands)) := by
  -- on the commands; after the session is given up, the rest of them shows nothing
  induction commands generalizing world monitor with
  | nil => exact .standing (.start _) found rfl
  | cons command commands ih =>
      rw [effectsDuring_cons, after_cons]
      rcases obey_cases world command position with
        ⟨setting, action, token, listener, rfl⟩ | rfl | follows
      · obtain ⟨linked, monitors, happened⟩ := make_eq world setting action token listener
        have other : world.monitors.length ≠ position :=
          Nat.ne_of_gt (lt_length_of_monitor? found)
        have stays : (world.obey (.make setting action token listener)).world.monitor?
            position = some monitor := by
          have place := monitor?_append world _ monitors position
          rw [if_neg other] at place
          exact place.trans found
        have nothing : effectsOf position
            (world.obey (.make setting action token listener)).happenings = [] := by
          simp [obey, happened, effectsOf_effects, other]
        exact (ih stays).prepend (.start _) nothing
      · have within : position < (world.obey (.drop position)).world.monitors.length := by
          simpa [obey_drop found, drop, settle] using lt_length_of_monitor? found
        have gone : (world.obey (.drop position)).world.monitor? position = none := by
          rw [obey_drop found, WorldStep.map_world, drop,
            monitor?_settle (lt_length_of_monitor? found), if_pos rfl]
        obtain ⟨absent, nothing⟩ := nothing_after_absence within gone commands
        rw [nothing, List.append_nil]
        refine .givenUp (world.answers monitor) (.start _) absent ?_
        simp [obey_drop found, drop, effectsOf_effects]
      · obtain ⟨later, life, present, settingEq, course, shows, _⟩ :=
          follows.present monitor found
        have rest := ih present
        rw [settingEq] at rest
        exact rest.prepend course shows

end World

end BiometricSession
