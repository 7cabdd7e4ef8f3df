import BiometricSession.Proofs.World.Life

/-!
# Conditions that last

Some conditions of a session last: no operation ends them, and a session in such
a condition has effects of a certain kind only, also when it is given up.  As
nothing in a run touches a session but its own operations, such a session then
stays in its condition for the rest of every run.
-/

namespace BiometricSession

/-- A condition of sessions that no operation ends, and in which a session has
only effects of some kind. -/
structure Lasting {Action : Type} [HardwareAction Action] (Within : Session Action → Prop)
    (kind : Effect → Prop) : Prop where
  perform : ∀ setting answers session operation, Within session →
    Within (session.perform setting answers operation).session ∧
      ∀ effect ∈ (session.perform setting answers operation).effects, kind effect
  drop : ∀ setting answers session, Within session →
    ∀ effect ∈ (session.drop setting answers).effects, kind effect

theorem Lasting.anything {Action : Type} [HardwareAction Action] :
    Lasting (fun _ : Session Action => True) fun _ => True :=
  ⟨by simp, by simp⟩

theorem Lasting.course {Action : Type} [HardwareAction Action]
    {Within : Session Action → Prop} {kind : Effect → Prop} (lasting : Lasting Within kind)
    {setting : Setting} {first last : Session Action} {life : List SessionDeed}
    (course : Course setting first life last) (within : Within first) :
    Within last ∧ ∀ deed ∈ life, ∀ effect ∈ deed.effects, kind effect := by
  induction course with
  | start => exact ⟨within, by simp⟩
  | perform course answers operation ih =>
      obtain ⟨before, earlier⟩ := ih
      obtain ⟨stays, now⟩ := lasting.perform setting answers _ operation before
      refine ⟨stays, ?_⟩
      intro deed member
      rcases List.mem_append.mp member with past | last
      · exact earlier deed past
      · obtain rfl := List.mem_singleton.mp last
        exact now

namespace World

variable {Action : Type}

/-- The session at a position is in some condition, or was given up. -/
structure StaysAt (Within : Session Action → Prop) (position : Nat) (world : World Action) :
    Prop where
  made : position < world.monitors.length
  within : ∀ monitor, world.monitor? position = some monitor → Within monitor.session

namespace StaysAt

variable {Within : Session Action → Prop} {position : Nat} {world : World Action}

theorem of_found {monitor : Monitor Action} (found : world.monitor? position = some monitor)
    (within : Within monitor.session) : StaysAt Within position world := by
  refine ⟨lt_length_of_monitor? found, ?_⟩
  intro other isOther
  obtain rfl := Option.some.inj (found.symm.trans isOther)
  exact within

theorem of_made (made : position < world.monitors.length) :
    StaysAt (fun _ => True) position world :=
  ⟨made, by simp⟩

variable [HardwareAction Action] {kind : Effect → Prop}

theorem follows (stays : StaysAt Within position world) (lasting : Lasting Within kind)
    {asked : Operation → Prop} {after : World Action} {happenings : List Happening}
    (follows : Follows asked position world happenings after) :
    StaysAt Within position after ∧
      ∀ effect ∈ effectsOf position happenings, kind effect := by
  cases found : world.monitor? position with
  | none =>
      obtain ⟨absent, nothing⟩ := follows.absent found
      exact ⟨⟨follows.length_eq ▸ stays.made, by simp [absent]⟩, by simp [nothing]⟩
  | some monitor =>
      obtain ⟨later, life, present, _, course, effects, _⟩ := follows.present monitor found
      obtain ⟨within, kinds⟩ := lasting.course course (stays.within monitor found)
      refine ⟨.of_found present within, ?_⟩
      rw [effects]
      intro effect member
      obtain ⟨deed, done, isEffect⟩ := List.mem_flatMap.mp member
      exact kinds deed done effect isEffect

omit [HardwareAction Action] in
theorem make (stays : StaysAt Within position world) (setting : Setting) (action : Action)
    (token : Option Nat) (listener : Option Listener) :
    StaysAt Within position (world.make setting action token listener).world ∧
      effectsOf position (world.make setting action token listener).happenings = [] := by
  obtain ⟨linked, monitors, happened⟩ := make_eq world setting action token listener
  have found := monitor?_append world _ monitors position
  have other : world.monitors.length ≠ position := Nat.ne_of_gt stays.made
  rw [if_neg other] at found
  rw [happened, effectsOf_effects, if_neg other]
  refine ⟨⟨?_, ?_⟩, rfl⟩
  · rw [monitors, List.length_append]
    exact Nat.lt_add_right _ stays.made
  · rw [found]
    exact stays.within

theorem drop (stays : StaysAt Within position world) (lasting : Lasting Within kind)
    {monitor : Monitor Action} (found : world.monitor? position = some monitor) :
    StaysAt Within position (world.drop position monitor).world ∧
      ∀ effect ∈ effectsOf position (world.drop position monitor).happenings,
        kind effect := by
  have gone := monitor?_settle stays.made none
    (monitor.session.drop monitor.setting (world.answers monitor)).effects position
  simp only [World.drop]
  rw [effectsOf_effects, if_pos rfl]
  refine ⟨⟨by simpa [settle] using stays.made, by simp [gone]⟩, ?_⟩
  exact lasting.drop _ _ _ (stays.within monitor found)

/-- No command ends a lasting condition, and the session has only effects of its
kind meanwhile. -/
theorem obey (stays : StaysAt Within position world) (lasting : Lasting Within kind)
    (command : WorldCommand Action) :
    StaysAt Within position (world.obey command).world ∧
      ∀ effect ∈ effectsOf position (world.obey command).happenings, kind effect := by
  rcases obey_cases world command position with
    ⟨setting, action, token, listener, rfl⟩ | rfl | follows
  · obtain ⟨still, nothing⟩ := stays.make setting action token listener
    exact ⟨still, by simp [World.obey, nothing]⟩
  · cases found : world.monitor? position with
    | none => simpa [World.obey, found] using stays
    | some monitor => simpa [World.obey, found] using stays.drop lasting found
  · exact stays.follows lasting follows

theorem after (stays : StaysAt Within position world) (lasting : Lasting Within kind)
    (commands : List (WorldCommand Action)) :
    StaysAt Within position (world.after commands) := by
  induction commands generalizing world with
  | nil => exact stays
  | cons command commands ih => exact ih (stays.obey lasting command).1

/-- A lasting condition lasts for the rest of a run. -/
theorem deeds (stays : StaysAt Within position world) (lasting : Lasting Within kind)
    (commands : List (WorldCommand Action)) :
    ∀ deed ∈ world.deeds commands,
      StaysAt Within position deed.before ∧ deed.step = deed.before.obey deed.command ∧
        ∀ effect ∈ effectsOf position deed.step.happenings, kind effect := by
  induction commands generalizing world with
  | nil => simp [World.deeds]
  | cons command commands ih =>
      obtain ⟨still, kinds⟩ := stays.obey lasting command
      intro deed member
      rcases List.mem_cons.mp member with rfl | later
      · exact ⟨stays, rfl, kinds⟩
      · exact ih still deed later

end StaysAt

/-! ## Places -/

variable [HardwareAction Action] {world : World Action} {position : Nat}

/-- No command takes the place of a session away. -/
theorem made_obey (made : position < world.monitors.length) (command : WorldCommand Action) :
    position < (world.obey command).world.monitors.length :=
  ((StaysAt.of_made made).obey .anything command).1.made

theorem made_deeds (made : position < world.monitors.length)
    (commands : List (WorldCommand Action)) :
    ∀ deed ∈ world.deeds commands, position < deed.before.monitors.length :=
  fun deed member => ((StaysAt.of_made made).deeds .anything commands deed member).1.made

end World

end BiometricSession
