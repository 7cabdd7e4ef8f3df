import BiometricSession.Proofs.Session.Rejections
import BiometricSession.Proofs.World.Audit
import BiometricSession.Proofs.World.Past

/-!
# Rejections in a run

A run that makes a session with a new action counts the rejections that the session handles,
however they are interleaved with other operations, with deaths of clients and with what
happens at other positions.  The count of the action tells that number at every moment, and
the number never exceeds the limit of the action.
-/

namespace BiometricSession

/-- Whether a deed makes the session at a position handle the rejection of an attempt that it
was waiting for. -/
def WorldDeed.rejects (position : Nat) (deed : WorldDeed BuiltinAction) : Bool :=
  match deed.before.monitor? position, deed.command with
  | some monitor, .perform number operation =>
      number == position && monitor.session.rejects operation
  | _, _ => false

namespace World

variable {world : World BuiltinAction} {position : Nat} {setting : Setting}
  {action : BuiltinAction} {token : Option Nat} {listener : Option Listener}
  {count : Nat}

/-- How many rejections the session at a position handles in the course of some deeds. -/
def rejections (position : Nat) (deeds : List (WorldDeed BuiltinAction)) : Nat :=
  deeds.countP (·.rejects position)

theorem rejects_obey_perform {monitor : Monitor BuiltinAction}
    (found : world.monitor? position = some monitor) (operation : Operation) :
    WorldDeed.rejects position
        ⟨world, .perform position operation, world.obey (.perform position operation)⟩ =
      monitor.session.rejects operation := by
  simp [WorldDeed.rejects, found]

/-- Only an operation of the session can be a rejection that it handles. -/
theorem rejects_eq_false {command : WorldCommand BuiltinAction}
    (noPerform : ∀ operation, command ≠ .perform position operation) :
    WorldDeed.rejects position ⟨world, command, world.obey command⟩ = false := by
  unfold WorldDeed.rejects
  split
  · next monitor number operation found isCommand =>
      have other : number ≠ position := fun same => noPerform operation (same ▸ isCommand)
      simp [other]
  · rfl

/-- The session at a position was made with a new action and has handled some rejections since;
by now it may have been given up. -/
structure TalliesAt (position : Nat) (action : BuiltinAction) (count : Nat)
    (world : World BuiltinAction) : Prop where
  stays : StaysAt (Session.Tallied action count) position world
  bounded : 0 < action.limit → count ≤ action.limit

namespace TalliesAt

/-- A command that asks no operation of the session leaves the count as it is. -/
theorem elsewhere (tallies : TalliesAt position action count world)
    {command : WorldCommand BuiltinAction}
    (noPerform : ∀ operation, command ≠ .perform position operation) :
    TalliesAt position action count (world.obey command).world := by
  refine ⟨?_, tallies.bounded⟩
  rcases obey_cases world command position with
    ⟨setting, other, token, listener, rfl⟩ | rfl | follows
  · exact (tallies.stays.make setting other token listener).1
  · refine ⟨made_obey tallies.stays.made _, ?_⟩
    intro monitor found
    cases present : world.monitor? position with
    | none => simp [World.obey, present] at found
    | some leaving =>
        simp only [obey_drop present, WorldStep.map_world, drop] at found
        rw [monitor?_settle tallies.stays.made, if_pos rfl] at found
        cases found
  · have deaths := follows.elsewhere noPerform
    cases present : world.monitor? position with
    | none =>
        exact ⟨made_obey tallies.stays.made _, by simp [(deaths.absent present).1]⟩
    | some monitor =>
        obtain ⟨later, life, isLater, _, course, _, kinds⟩ := deaths.present monitor present
        exact .of_found isLater (course.tallied kinds (tallies.stays.within monitor present))

/-- An operation of the session is counted if it is a rejection that the session handles. -/
theorem perform (tallies : TalliesAt position action count world)
    {monitor : Monitor BuiltinAction} (found : world.monitor? position = some monitor)
    (operation : Operation)
    (steady : Steady (Effect.deliveries
      (monitor.session.perform monitor.setting (world.answers monitor) operation).effects)) :
    TalliesAt position action (count + if monitor.session.rejects operation then 1 else 0)
      (world.obey (.perform position operation)).world := by
  have before := tallies.stays.within monitor found
  obtain ⟨listener, present⟩ := monitor?_perform found operation
  rw [obey_perform found]
  refine ⟨.of_found present ?_, ?_⟩
  · cases rejection : monitor.session.rejects operation with
    | false => exact before.kept _ _ rejection
    | true => exact before.counted rejection steady
  · intro limited
    cases rejection : monitor.session.rejects operation with
    | false => exact tallies.bounded limited
    | true => exact before.below (Session.rejects_iff.mp rejection).2.1 limited

/-- A command is counted if it makes the session handle a rejection. -/
theorem obey (tallies : TalliesAt position action count world)
    (command : WorldCommand BuiltinAction)
    (steady : Steady (WorldDeed.deliveries position ⟨world, command, world.obey command⟩)) :
    TalliesAt position action
      (count + if WorldDeed.rejects position ⟨world, command, world.obey command⟩ then 1 else 0)
      (world.obey command).world := by
  by_cases here : ∃ operation, command = .perform position operation
  · obtain ⟨operation, rfl⟩ := here
    cases found : world.monitor? position with
    | none =>
        have stays : world.obey (.perform position operation) = world.still .absent := by
          simp [World.obey, found]
        have nothing : WorldDeed.rejects position
            ⟨world, .perform position operation, world.obey (.perform position operation)⟩ =
              false := by
          simp [WorldDeed.rejects, found]
        rw [nothing, stays]
        exact tallies
    | some monitor =>
        rw [rejects_obey_perform found]
        refine tallies.perform found operation ?_
        rw [WorldDeed.deliveries, effectsOf_obey_perform found] at steady
        exact steady
  · have noPerform : ∀ operation, command ≠ .perform position operation :=
      fun operation same => here ⟨operation, same⟩
    rw [rejects_eq_false noPerform]
    exact tallies.elsewhere noPerform

/-- In a run every rejection that the session handles is counted. -/
theorem after (tallies : TalliesAt position action count world)
    (commands : List (WorldCommand BuiltinAction))
    (steady : Steady (deliveries position (world.deeds commands))) :
    TalliesAt position action (count + rejections position (world.deeds commands))
      (world.after commands) := by
  -- on the commands, with the count so far going along
  induction commands generalizing world count with
  | nil => exact tallies
  | cons command commands ih =>
      obtain ⟨now, later⟩ := Steady.of_append steady
      have counted := ih (tallies.obey command now) later
      rw [deeds, rejections, List.countP_cons, Nat.add_comm (List.countP _ _), ← Nat.add_assoc]
      exact counted

end TalliesAt

/-- Once a session is made with a new action, its rejections are counted. -/
theorem tallies_make (world : World BuiltinAction) (setting : Setting) {action : BuiltinAction}
    (isNew : action.isNew = true) (token : Option Nat) (listener : Option Listener)
    {commands : List (WorldCommand BuiltinAction)}
    (steady : Steady (deliveries world.monitors.length
      (world.deeds (.make setting action token listener :: commands)))) :
    TalliesAt world.monitors.length action
      (rejections world.monitors.length
        (world.deeds (.make setting action token listener :: commands)))
      (world.after (.make setting action token listener :: commands)) := by
  obtain ⟨linked, monitors, _⟩ := make_eq world setting action token listener
  have made : TalliesAt world.monitors.length action 0
      (world.obey (.make setting action token listener)).world := by
    have place := monitor?_append world _ monitors world.monitors.length
    rw [if_pos rfl] at place
    exact ⟨.of_found place (Session.tallied_make isNew listener.isSome linked),
      fun _ => Nat.zero_le _⟩
  have making : WorldDeed.rejects world.monitors.length
      ⟨world, .make setting action token listener,
        world.obey (.make setting action token listener)⟩ = false := by
    apply rejects_eq_false
    simp
  have counted := made.after commands (Steady.of_append steady).2
  rw [Nat.zero_add] at counted
  rw [deeds, rejections, List.countP_cons, making]
  exact counted

/-- A deed of a run is what comes of its command in the world that it finds. -/
theorem deed_eq {commands : List (WorldCommand BuiltinAction)} {deed : WorldDeed BuiltinAction}
    (member : deed ∈ world.deeds commands) {command : WorldCommand BuiltinAction}
    (isCommand : deed.command = command) :
    deed = ⟨deed.before, command, deed.before.obey command⟩ := by
  rw [← isCommand, ← step_of_mem_deeds member]

/-- When a deed of such a run finds the session, the rejections of the earlier deeds are
counted. -/
theorem found_tallied (isNew : action.isNew = true)
    {commands : List (WorldCommand BuiltinAction)}
    (steady : Steady (deliveries world.monitors.length
      (world.deeds (.make setting action token listener :: commands))))
    {earlier later : List (WorldDeed BuiltinAction)} {deed : WorldDeed BuiltinAction}
    (split : world.deeds (.make setting action token listener :: commands) =
      earlier ++ deed :: later)
    {monitor : Monitor BuiltinAction}
    (found : deed.before.monitor? world.monitors.length = some monitor) :
    monitor.session.Tallied action (rejections world.monitors.length earlier) := by
  obtain ⟨first, second, same, past, before, _, _⟩ := deeds_split split
  rw [before] at found
  rcases first with _ | ⟨making, first⟩
  · exact absurd (lt_length_of_monitor? found) (Nat.lt_irrefl _)
  · obtain ⟨rfl, _⟩ := List.cons.inj same
    rw [split, deliveries, List.flatMap_append, past] at steady
    rw [past]
    have tallies := tallies_make world setting isNew token listener steady.of_append.1
    exact tallies.stays.within monitor found

end World

end BiometricSession
