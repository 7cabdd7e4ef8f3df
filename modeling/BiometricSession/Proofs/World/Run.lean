import BiometricSession.Proofs.Session.Outcome
import BiometricSession.World.Basic

/-!
# Runs of a world

A run begins with fresh tokens and no sessions and obeys a list of commands:
sessions are made, operated and given up, clients die, and the collaborators
change the way in which they answer.  This file fixes what a run is, what every
deed of it does, and what of that is done by the session at one position.
-/

namespace BiometricSession

/-! ## The hardware in the course of a run -/

/-- Hardware that answers every stop with a code. -/
def Hal.AnswersStops (hal : Hal) : Prop :=
  ∀ call, ∃ code, hal.stop call = .status code

namespace Hal

variable {hal : Hal}

@[simp]
theorem steady_after (start stop : HalAnswer) (effects : List Effect) :
    (steady start stop).after effects = steady start stop :=
  rfl

theorem after_append (hal : Hal) (first second : List Effect) :
    hal.after (first ++ second) = (hal.after first).after second := by
  simp only [after, List.countP_append, Nat.add_comm, Nat.add_left_comm]

/-- The hardware stays as it is when it is not asked. -/
theorem after_eq_self (hal : Hal) {effects : List Effect}
    (silent : ∀ effect ∈ effects, effect.asksStart = false ∧ effect.asksStop = false) :
    hal.after effects = hal := by
  have starts : effects.countP (·.asksStart) = 0 :=
    List.countP_eq_zero.mpr fun effect member => by simp [silent effect member]
  have stops : effects.countP (·.asksStop) = 0 :=
    List.countP_eq_zero.mpr fun effect member => by simp [silent effect member]
  unfold after
  rw [starts, stops]
  rfl

theorem AnswersStops.after (answering : hal.AnswersStops) (effects : List Effect) :
    (hal.after effects).AnswersStops :=
  fun _ => answering _

theorem answersStops_steady (start : HalAnswer) (code : Int32) :
    (steady start (.status code)).AnswersStops :=
  fun _ => ⟨code, rfl⟩

end Hal

/-! ## Commands -/

/-- Something that can be asked of a world. -/
inductive WorldCommand (Action : Type) where
  | make (setting : Setting) (action : Action) (token : Option Nat)
      (listener : Option Listener)
  | perform (position : Nat) (operation : Operation)
  /-- Give a session up. -/
  | drop (position : Nat)
  /-- Declare a token dead. -/
  | notifyDeath (token : Nat)
  /-- Let a watcher look at a token and the process behind it. -/
  | watch (processes : ProcessTable) (token : Nat) (process : UInt32)
  /-- Remove a link from a token on behalf of somebody else than its session. -/
  | unlink (token link : Nat)
  | setHal (hal : Hal)
  | setPreference (key : PreferenceKey) (user : Int32) (value : Bool)
  | setListener (position : Nat) (listener : Listener)

/-- What a command answers. -/
inductive WorldAnswer where
  /-- There is no session or token of that position. -/
  | absent
  | made (position : Nat)
  | reply (reply : Reply)
  | dropped
  | told (count : Nat)
  | watched (finding : WatchFinding)
  | unlinked (refusal : Option TokenError)
  | noted
  deriving DecidableEq

namespace WorldStep

variable {Action First Second : Type} (convert : First → Second)
  (step : WorldStep Action First)

@[simp]
theorem map_world : (step.map convert).world = step.world :=
  rfl

@[simp]
theorem map_happenings : (step.map convert).happenings = step.happenings :=
  rfl

@[simp]
theorem map_ending : (step.map convert).ending = step.ending.map convert :=
  rfl

end WorldStep

namespace World

variable {Action : Type}

/-- The world answers and stays as it is. -/
def still (world : World Action) (answer : WorldAnswer) : WorldStep Action WorldAnswer :=
  ⟨world, [], .returned answer⟩

@[simp]
theorem still_world (world : World Action) (answer : WorldAnswer) :
    (world.still answer).world = world :=
  rfl

@[simp]
theorem still_happenings (world : World Action) (answer : WorldAnswer) :
    (world.still answer).happenings = [] :=
  rfl

section Action

variable [HardwareAction Action]

/-- Obey a command. -/
def obey (world : World Action) : WorldCommand Action → WorldStep Action WorldAnswer
  | .make setting action token listener =>
      (world.make setting action token listener).map .made
  | .perform position operation =>
      match world.monitor? position with
      | some monitor => (world.perform position monitor operation).map .reply
      | none => world.still .absent
  | .drop position =>
      match world.monitor? position with
      | some monitor => (world.drop position monitor).map fun _ => .dropped
      | none => world.still .absent
  | .notifyDeath position =>
      match world.tokens[position]? with
      | some _ => (world.notifyDeath position).map .told
      | none => world.still .absent
  | .watch processes position process =>
      match world.tokens[position]? with
      | some token => (world.watch processes position token process).map .watched
      | none => world.still .absent
  | .unlink position link =>
      match world.tokens[position]? with
      | some token =>
          match world.unlink position token link with
          | .ok world => world.still (.unlinked none)
          | .error error => world.still (.unlinked (some error))
      | none => world.still .absent
  | .setHal hal => (world.setHal hal).still .noted
  | .setPreference key user value => (world.setPreference key user value).still .noted
  | .setListener position listener =>
      match world.monitor? position with
      | some monitor => (world.setListener position monitor listener).still .noted
      | none => world.still .absent

end Action

end World

/-- A command of a run, with the world that it found and what it came to. -/
structure WorldDeed (Action : Type) where
  before : World Action
  command : WorldCommand Action
  step : WorldStep Action WorldAnswer

namespace World

variable {Action : Type}

section Deeds

variable [HardwareAction Action]

/-- What a world does when it obeys commands one after the other. -/
def deeds : World Action → List (WorldCommand Action) → List (WorldDeed Action)
  | _, [] => []
  | world, command :: commands =>
      ⟨world, command, world.obey command⟩ :: deeds (world.obey command).world commands

/-- The world once it has obeyed some commands. -/
def after (world : World Action) (commands : List (WorldCommand Action)) : World Action :=
  commands.foldl (fun world command => (world.obey command).world) world

@[simp]
theorem after_nil (world : World Action) : world.after [] = world :=
  rfl

@[simp]
theorem after_cons (world : World Action) (command : WorldCommand Action)
    (commands : List (WorldCommand Action)) :
    world.after (command :: commands) = (world.obey command).world.after commands :=
  rfl

theorem after_append (world : World Action) (first second : List (WorldCommand Action)) :
    world.after (first ++ second) = (world.after first).after second :=
  List.foldl_append

theorem deeds_append (world : World Action) (first second : List (WorldCommand Action)) :
    world.deeds (first ++ second) = world.deeds first ++ (world.after first).deeds second := by
  induction first generalizing world with
  | nil => rfl
  | cons command commands ih => simp [deeds, ih]

/-- Every deed of a run was done in the world that the commands before it led
to, and the run went on from there. -/
theorem deeds_split {world : World Action} {commands : List (WorldCommand Action)}
    {earlier later : List (WorldDeed Action)} {deed : WorldDeed Action}
    (split : world.deeds commands = earlier ++ deed :: later) :
    ∃ first second, commands = first ++ deed.command :: second ∧
      earlier = world.deeds first ∧ deed.before = world.after first ∧
        deed.step = deed.before.obey deed.command ∧
          later = deed.step.world.deeds second := by
  induction commands generalizing world earlier with
  | nil => simp [deeds] at split
  | cons command commands ih =>
      cases earlier with
      | nil =>
          simp only [deeds, List.nil_append, List.cons.injEq] at split
          obtain ⟨rfl, rfl⟩ := split
          exact ⟨[], commands, rfl, rfl, rfl, rfl, rfl⟩
      | cons head earlier =>
          simp only [deeds, List.cons_append, List.cons.injEq] at split
          obtain ⟨rfl, rest⟩ := split
          obtain ⟨first, second, rfl, past, before, step, continued⟩ := ih rest
          exact ⟨command :: first, second, rfl, by rw [past]; rfl, before, step, continued⟩

theorem step_of_mem_deeds {world : World Action} {commands : List (WorldCommand Action)}
    {deed : WorldDeed Action} (member : deed ∈ world.deeds commands) :
    deed.step = deed.before.obey deed.command := by
  obtain ⟨earlier, later, split⟩ := List.append_of_mem member
  obtain ⟨_, _, _, _, _, step, _⟩ := deeds_split split
  exact step

end Deeds

/-! ## One position -/

/-- The effects of the session at a position, in order. -/
def effectsOf (position : Nat) (happenings : List Happening) : List Effect :=
  happenings.filterMap fun
    | .effect monitor _ effect => if monitor = position then some effect else none
    | .logged _ => none

@[simp]
theorem effectsOf_nil (position : Nat) : effectsOf position [] = [] :=
  rfl

@[simp]
theorem effectsOf_append (position : Nat) (first second : List Happening) :
    effectsOf position (first ++ second) =
      effectsOf position first ++ effectsOf position second :=
  List.filterMap_append

theorem effectsOf_effects (position monitor : Nat) (setting : Setting)
    (effects : List Effect) :
    effectsOf position (effects.map (.effect monitor setting)) =
      if monitor = position then effects else [] := by
  rw [effectsOf, List.filterMap_map]
  change effects.filterMap (fun effect => if monitor = position then some effect else none) = _
  by_cases same : monitor = position <;> simp [same]

@[simp]
theorem effectsOf_logged (position : Nat) (records : List LogRecord) :
    effectsOf position (records.map .logged) = [] := by
  induction records with
  | nil => rfl
  | cons record records ih => exact ih

/-- The calls of its collaborators that the session at a position makes, in
order. -/
def callsOf (position : Nat) (happenings : List Happening) : List Effect :=
  (effectsOf position happenings).filter (·.callsOut)

theorem lt_length_of_monitor? {world : World Action} {position : Nat}
    {monitor : Monitor Action} (present : world.monitor? position = some monitor) :
    position < world.monitors.length := by
  apply Nat.lt_of_not_le
  intro beyond
  simp [monitor?, List.getElem?_eq_none beyond] at present

theorem monitor?_settle {world : World Action} {position : Nat}
    (within : position < world.monitors.length) (monitor : Option (Monitor Action))
    (effects : List Effect) (other : Nat) :
    (world.settle position monitor effects).monitor? other =
      if position = other then monitor else world.monitor? other := by
  by_cases same : position = other
  · subst same
    simp [monitor?, settle, within]
  · simp [monitor?, settle, same]

/-- A session is made at the first free position, with some answer of the token
that it was given. -/
theorem make_eq (world : World Action) (setting : Setting) (action : Action)
    (token : Option Nat) (listener : Option Listener) :
    ∃ linked : Option (Nat × Except TokenError Nat),
      (world.make setting action token listener).world.monitors =
          world.monitors ++
            [some ⟨setting, (Session.make action listener.isSome linked).1, listener⟩] ∧
        (world.make setting action token listener).happenings =
          (Session.make action listener.isSome linked).2.map
            (.effect world.monitors.length setting) :=
  ⟨_, rfl, rfl⟩

theorem monitor?_append (world : World Action) (monitor : Monitor Action)
    {after : World Action} (appended : after.monitors = world.monitors ++ [some monitor])
    (position : Nat) :
    after.monitor? position =
      if world.monitors.length = position then some monitor
      else world.monitor? position := by
  unfold monitor?
  rw [appended]
  rcases Nat.lt_trichotomy position world.monitors.length with before | here | beyond
  · rw [if_neg (by omega), List.getElem?_append_left before]
  · simp [here]
  · rw [if_neg (by omega), List.getElem?_eq_none (by simp; omega),
      List.getElem?_eq_none (by omega)]

end World

end BiometricSession
