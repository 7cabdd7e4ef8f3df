import BiometricSession.Proofs.Session.Life
import BiometricSession.Proofs.World.Run

/-!
# The life of a session in a run

Seen from one position, a run is simple.  A session is made there at most once;
from then on it goes through some operations, each with some answers of its
collaborators, until it is given up.  Other sessions, other clients and changes
of the collaborators never touch it.

The main statement turns that into an induction: an invariant of the life of
sessions holds of the session at every position of every run, and every deed of
the run shows what it made that session go through.
-/

namespace BiometricSession

/-! ## What a run does to one session -/

/-- A session, with its setting and its listener, once it has gone through an
operation. -/
def Monitor.performed {Action : Type} [HardwareAction Action] (monitor : Monitor Action)
    (answers : Answers) (operation : Operation) : Monitor Action :=
  let step := monitor.session.perform monitor.setting answers operation
  { monitor with
    session := step.session
    listener := monitor.listener.map (·.after (Effect.attempts step.effects)) }

/-- The listener is as before if it is told nothing. -/
theorem Monitor.performed_of_untold {Action : Type} [HardwareAction Action]
    {monitor : Monitor Action} {answers : Answers} {operation : Operation}
    (untold : Effect.attempts
      (monitor.session.perform monitor.setting answers operation).effects = []) :
    monitor.performed answers operation =
      { monitor with
        session := (monitor.session.perform monitor.setting answers operation).session } := by
  have still : monitor.listener.map (·.after []) = monitor.listener := by
    cases monitor.listener <;> simp [Listener.after]
  simp only [performed, untold, still]

namespace World

variable {Action : Type} [HardwareAction Action]

theorem obey_perform {world : World Action} {position : Nat} {monitor : Monitor Action}
    (found : world.monitor? position = some monitor) (operation : Operation) :
    world.obey (.perform position operation) =
      (world.perform position monitor operation).map .reply := by
  simp [obey, found]

theorem obey_drop {world : World Action} {position : Nat} {monitor : Monitor Action}
    (found : world.monitor? position = some monitor) :
    world.obey (.drop position) = (world.drop position monitor).map fun _ => .dropped := by
  simp [obey, found]

theorem monitor?_performed {world : World Action} {position : Nat}
    {monitor : Monitor Action} (found : world.monitor? position = some monitor)
    (operation : Operation) :
    (world.perform position monitor operation).world.monitor? position =
      some (monitor.performed (world.answers monitor) operation) := by
  simp only [perform]
  rw [monitor?_settle (lt_length_of_monitor? found), if_pos rfl]
  rfl

theorem monitor?_perform {world : World Action} {position : Nat}
    {monitor : Monitor Action} (found : world.monitor? position = some monitor)
    (operation : Operation) :
    ∃ listener, (world.perform position monitor operation).world.monitor? position =
      some ⟨monitor.setting,
        (monitor.session.perform monitor.setting (world.answers monitor) operation).session,
        listener⟩ :=
  ⟨_, monitor?_performed found operation⟩

theorem perform_other {world : World Action} {number position : Nat}
    {monitor : Monitor Action} (found : world.monitor? number = some monitor)
    (operation : Operation) (other : number ≠ position) :
    (world.perform number monitor operation).world.monitor? position =
        world.monitor? position ∧
      effectsOf position (world.perform number monitor operation).happenings = [] := by
  simp only [perform]
  rw [monitor?_settle (lt_length_of_monitor? found), effectsOf_effects, if_neg other,
    if_neg other]
  exact ⟨rfl, rfl⟩

/-- An operation on another session, if there is one, leaves the session at a position
alone. -/
theorem obey_perform_other (world : World Action) {number position : Nat}
    (other : number ≠ position) (operation : Operation) :
    (world.obey (.perform number operation)).world.monitor? position =
        world.monitor? position ∧
      effectsOf position (world.obey (.perform number operation)).happenings = [] := by
  cases found : world.monitor? number with
  | none => simp [obey, found]
  | some monitor =>
      rw [obey_perform found]
      exact perform_other found operation other

theorem effectsOf_obey_perform {world : World Action} {position : Nat}
    {monitor : Monitor Action} (found : world.monitor? position = some monitor)
    (operation : Operation) :
    effectsOf position (world.obey (.perform position operation)).happenings =
      (monitor.session.perform monitor.setting (world.answers monitor) operation).effects := by
  rw [obey_perform found, WorldStep.map_happenings, perform, effectsOf_effects, if_pos rfl]

theorem drop_other {world : World Action} {number position : Nat}
    {monitor : Monitor Action} (found : world.monitor? number = some monitor)
    (other : number ≠ position) :
    (world.drop number monitor).world.monitor? position = world.monitor? position ∧
      effectsOf position (world.drop number monitor).happenings = [] := by
  simp only [drop]
  rw [monitor?_settle (lt_length_of_monitor? found), effectsOf_effects, if_neg other,
    if_neg other]
  exact ⟨rfl, rfl⟩

omit [HardwareAction Action] in
theorem make_other {world : World Action} {position : Nat}
    (made : position < world.monitors.length) (setting : Setting) (action : Action)
    (token : Option Nat) (listener : Option Listener) :
    (world.make setting action token listener).world.monitor? position =
        world.monitor? position ∧
      effectsOf position (world.make setting action token listener).happenings = [] := by
  obtain ⟨linked, monitors, happened⟩ := make_eq world setting action token listener
  have other : world.monitors.length ≠ position := Nat.ne_of_gt made
  have place := monitor?_append world _ monitors position
  rw [if_neg other] at place
  rw [happened, effectsOf_effects, if_neg other]
  exact ⟨place, rfl⟩

/-- Between two moments of a world, the session at a position has gone through
operations of the given kind, if there was one, and nothing has come or gone. -/
structure Follows (kind : Operation → Prop) (position : Nat) (before : World Action)
    (happenings : List Happening) (after : World Action) : Prop where
  present : ∀ monitor, before.monitor? position = some monitor →
    ∃ later life, after.monitor? position = some later ∧
      later.setting = monitor.setting ∧
        Course monitor.setting monitor.session life later.session ∧
          effectsOf position happenings = life.flatMap (·.effects) ∧
            ∀ deed ∈ life, kind deed.operation
  absent : before.monitor? position = none →
    after.monitor? position = none ∧ effectsOf position happenings = []
  length_eq : after.monitors.length = before.monitors.length

namespace Follows

variable {kind : Operation → Prop} {position : Nat} {before middle after : World Action}

theorem refl (world : World Action) : Follows kind position world [] world where
  present monitor present := ⟨monitor, [], present, rfl, .start _, rfl, by simp⟩
  absent absent := ⟨absent, rfl⟩
  length_eq := rfl

/-- A change that leaves the sessions alone. -/
theorem of_monitors_eq (records : List LogRecord)
    (same : after.monitors = before.monitors) :
    Follows kind position before (records.map .logged) after where
  present monitor present :=
    ⟨monitor, [], by simpa [monitor?, same] using present, rfl, .start _, by simp, by simp⟩
  absent absent := by simpa [monitor?, same] using absent
  length_eq := by rw [same]

theorem trans {first second : List Happening}
    (front : Follows kind position before first middle)
    (back : Follows kind position middle second after) :
    Follows kind position before (first ++ second) after where
  present monitor present := by
    obtain ⟨between, early, present, settingEq, course, effects, kinds⟩ :=
      front.present monitor present
    obtain ⟨later, late, present, laterEq, rest, more, others⟩ :=
      back.present between present
    rw [settingEq] at laterEq rest
    refine ⟨later, early ++ late, present, laterEq, course.trans rest, ?_, ?_⟩
    · simp [effects, more]
    · intro deed member
      exact (List.mem_append.mp member).elim (kinds deed) (others deed)
  absent absent := by
    obtain ⟨absent, front⟩ := front.absent absent
    obtain ⟨absent, back⟩ := back.absent absent
    exact ⟨absent, by simp [front, back]⟩
  length_eq := back.length_eq.trans front.length_eq

end Follows

/-- An operation on the session at one position is a matter of that session
alone. -/
theorem follows_perform {world : World Action} {number : Nat} {monitor : Monitor Action}
    (found : world.monitor? number = some monitor) (operation : Operation)
    (position : Nat) :
    Follows (· = operation) position world
      (world.perform number monitor operation).happenings
      (world.perform number monitor operation).world := by
  have within := lt_length_of_monitor? found
  simp only [perform]
  constructor
  · intro other present
    rw [monitor?_settle within, effectsOf_effects]
    by_cases same : number = position
    · subst same
      obtain rfl : monitor = other := by simpa [found] using present
      simp only [if_true]
      exact ⟨_, _, rfl, rfl, (Course.start _).perform (world.answers monitor) operation,
        by simp [SessionDeed.of], by simp [SessionDeed.of]⟩
    · simp only [if_neg same]
      exact ⟨other, [], present, rfl, .start _, rfl, by simp⟩
  · intro absent
    rw [monitor?_settle within, effectsOf_effects]
    by_cases same : number = position
    · subst same
      simp [found] at absent
    · simp only [if_neg same]
      exact ⟨absent, trivial⟩
  · simp [settle]

theorem follows_tellAll (links : List (DeathLink Nat)) (world : World Action)
    (position : Nat) :
    Follows (· = .clientDied true) position world (tellAll links world).happenings
      (tellAll links world).world := by
  induction links generalizing world with
  | nil => exact .refl world
  | cons link links ih =>
      unfold tellAll
      cases found : world.monitor? link.recipient with
      | none => exact ih world
      | some monitor =>
          have told := follows_perform found (.clientDied true) position
          simp only
          split
          · exact told
          · exact told.trans (ih _)

/-- A session that is on no link of a list is left alone. -/
theorem tellAll_other {links : List (DeathLink Nat)} {position : Nat}
    (unlisted : position ∉ links.map (·.recipient)) (world : World Action) :
    (tellAll links world).world.monitor? position = world.monitor? position ∧
      effectsOf position (tellAll links world).happenings = [] := by
  induction links generalizing world with
  | nil => exact ⟨rfl, rfl⟩
  | cons link links ih =>
      rw [List.map_cons, List.mem_cons, not_or] at unlisted
      unfold tellAll
      cases found : world.monitor? link.recipient with
      | none => exact ih unlisted.2 world
      | some monitor =>
          obtain ⟨same, nothing⟩ :=
            perform_other found (.clientDied true) (Ne.symm unlisted.1)
          simp only
          split
          · exact ⟨same, nothing⟩
          · obtain ⟨still, silent⟩ := ih unlisted.2
              (world.perform link.recipient monitor (.clientDied true)).world
            exact ⟨still.trans same, by rw [effectsOf_append, nothing, silent]; rfl⟩

theorem follows_notifyDeath (world : World Action) (token position : Nat) :
    Follows (· = .clientDied true) position world (world.notifyDeath token).happenings
      (world.notifyDeath token).world := by
  unfold notifyDeath
  split
  · rename_i links dead _
    have marked : Follows (· = .clientDied true) position world []
        { world with tokens := world.tokens.set token dead } :=
      Follows.of_monitors_eq [] rfl
    exact marked.trans (follows_tellAll links _ position)
  · exact .refl world

theorem follows_watch (processes : ProcessTable) (world : World Action)
    (number : Nat) (token : ClientToken Nat) (process : UInt32) (position : Nat) :
    Follows (· = .clientDied true) position world
      (world.watch processes number token process).happenings
      (world.watch processes number token process).world := by
  unfold watch
  have reported : Follows (· = .clientDied true) position world
      ((WatchFinding.report process
        (.of token.alive (processes.alive process))).map .logged) world :=
    .of_monitors_eq _ rfl
  cases finding : WatchFinding.of token.alive (processes.alive process) with
  | tokenDead => simpa only [finding] using reported
  | running => simpa only [finding] using reported
  | processGone =>
      rw [finding] at reported
      exact reported.trans (follows_notifyDeath world number position)

theorem follows_setListener {world : World Action} {number : Nat}
    {monitor : Monitor Action} (found : world.monitor? number = some monitor)
    (listener : Listener) (kind : Operation → Prop) (position : Nat) :
    Follows kind position world [] (world.setListener number monitor listener) := by
  have settled : world.setListener number monitor listener =
      world.settle number (some { monitor with listener := some listener }) [] := rfl
  rw [settled]
  have within := lt_length_of_monitor? found
  constructor
  · intro other present
    rw [monitor?_settle within]
    by_cases same : number = position
    · subst same
      obtain rfl : monitor = other := by simpa [found] using present
      exact ⟨_, [], if_pos rfl, rfl, .start _, rfl, by simp⟩
    · exact ⟨other, [], by rwa [if_neg same], rfl, .start _, rfl, by simp⟩
  · intro absent
    rw [monitor?_settle within]
    by_cases same : number = position
    · subst same
      simp [found] at absent
    · exact ⟨by rwa [if_neg same], rfl⟩
  · simp [settle]

theorem follows_drop {world : World Action} {number position : Nat}
    {monitor : Monitor Action} (found : world.monitor? number = some monitor)
    (other : number ≠ position) (kind : Operation → Prop) :
    Follows kind position world (world.drop number monitor).happenings
      (world.drop number monitor).world := by
  have within := lt_length_of_monitor? found
  simp only [drop]
  constructor
  · intro present isPresent
    rw [monitor?_settle within, effectsOf_effects, if_neg other, if_neg other]
    exact ⟨present, [], isPresent, rfl, .start _, rfl, by simp⟩
  · intro absent
    rw [monitor?_settle within, effectsOf_effects, if_neg other, if_neg other]
    exact ⟨absent, rfl⟩
  · simp [settle]

end World

/-- The operations that a command asks of sessions. -/
def WorldCommand.asks {Action : Type} : WorldCommand Action → Operation → Prop
  | .perform _ operation => (· = operation)
  | _ => (· = .clientDied true)

namespace World

variable {Action : Type} [HardwareAction Action]

/-- A command that neither makes a session nor gives up the one at a position
lets that session go through operations that it asks for. -/
theorem obey_follows (world : World Action) (command : WorldCommand Action)
    (position : Nat)
    (noMake : ∀ setting action token listener,
      command ≠ .make setting action token listener)
    (noDrop : command ≠ .drop position) :
    Follows command.asks position world (world.obey command).happenings
      (world.obey command).world := by
  cases command with
  | make setting action token listener => exact absurd rfl (noMake _ _ _ _)
  | perform number operation =>
      cases found : world.monitor? number with
      | none => simpa [obey, found] using Follows.refl world
      | some monitor =>
          simpa [obey, found, WorldCommand.asks] using
            follows_perform found operation position
  | drop number =>
      have other : number ≠ position := fun same => noDrop (by rw [same])
      cases found : world.monitor? number with
      | none => simpa [obey, found] using Follows.refl world
      | some monitor => simpa [obey, found] using follows_drop found other _
  | notifyDeath token =>
      cases found : world.tokens[token]? with
      | none => simpa [obey, found] using Follows.refl world
      | some state =>
          simpa [obey, found, WorldCommand.asks] using
            follows_notifyDeath world token position
  | watch processes token process =>
      cases found : world.tokens[token]? with
      | none => simpa [obey, found] using Follows.refl world
      | some state =>
          simpa [obey, found, WorldCommand.asks] using
            follows_watch processes world token state process position
  | unlink token link =>
      cases found : world.tokens[token]? with
      | none => simpa [obey, found] using Follows.refl world
      | some state =>
          simp only [obey, found, unlink]
          cases state.unlink link with
          | error error => exact .refl world
          | ok state => exact .of_monitors_eq [] rfl
  | setHal hal => exact .of_monitors_eq [] rfl
  | setPreference key user value => exact .of_monitors_eq [] rfl
  | setListener number listener =>
      cases found : world.monitor? number with
      | none => simpa [obey, found] using Follows.refl world
      | some monitor =>
          simpa [obey, found] using follows_setListener found listener _ position

/-- A command makes a session, gives up the one at a position, or lets that session
go through operations. -/
theorem obey_cases (world : World Action) (command : WorldCommand Action)
    (position : Nat) :
    (∃ setting action token listener, command = .make setting action token listener) ∨
      command = .drop position ∨
        Follows command.asks position world (world.obey command).happenings
          (world.obey command).world := by
  by_cases makes : ∃ setting action token listener,
      command = .make setting action token listener
  · exact .inl makes
  by_cases drops : command = .drop position
  · exact .inr (.inl drops)
  · refine .inr (.inr (obey_follows world command position ?_ drops))
    intro setting action token listener same
    exact makes ⟨setting, action, token, listener, same⟩

end World

/-! ## What sessions share -/

/-- Whether a command sets how collaborators that sessions share answer. -/
def WorldCommand.retunes {Action : Type} : WorldCommand Action → Bool
  | .setHal _ | .setPreference .. => true
  | _ => false

namespace World

variable {Action : Type}

/-- Between two moments of a world, the hardware has answered some calls, and all else
that its sessions share is as before. -/
structure Shares (before after : World Action) : Prop where
  hal : ∃ effects, after.hal = before.hal.after effects
  preferences_eq : after.preferences = before.preferences
  strangers_eq : after.strangers = before.strangers

namespace Shares

variable {before middle after : World Action}

theorem refl (world : World Action) : Shares world world :=
  ⟨⟨[], rfl⟩, rfl, rfl⟩

/-- A change that is none of what sessions share. -/
theorem of_eq (hal_eq : after.hal = before.hal)
    (preferences_eq : after.preferences = before.preferences)
    (strangers_eq : after.strangers = before.strangers) : Shares before after :=
  ⟨⟨[], hal_eq⟩, preferences_eq, strangers_eq⟩

theorem trans (front : Shares before middle) (back : Shares middle after) :
    Shares before after := by
  obtain ⟨early, front_hal⟩ := front.hal
  obtain ⟨late, back_hal⟩ := back.hal
  refine ⟨⟨early ++ late, ?_⟩, back.preferences_eq.trans front.preferences_eq,
    back.strangers_eq.trans front.strangers_eq⟩
  rw [Hal.after_append, ← front_hal, back_hal]

theorem settle (world : World Action) (position : Nat) (monitor : Option (Monitor Action))
    (effects : List Effect) : Shares world (world.settle position monitor effects) :=
  ⟨⟨effects, rfl⟩, rfl, rfl⟩

end Shares

variable [HardwareAction Action]

theorem shares_tellAll (links : List (DeathLink Nat)) (world : World Action) :
    Shares world (tellAll links world).world := by
  induction links generalizing world with
  | nil => exact .refl world
  | cons link links ih =>
      unfold tellAll
      cases found : world.monitor? link.recipient with
      | none => exact ih world
      | some monitor =>
          simp only
          split
          · exact .settle ..
          · exact (Shares.settle ..).trans (ih _)

theorem shares_notifyDeath (world : World Action) (token : Nat) :
    Shares world (world.notifyDeath token).world := by
  unfold notifyDeath
  split
  · rename_i links dead _
    have marked : Shares world { world with tokens := world.tokens.set token dead } :=
      .of_eq rfl rfl rfl
    exact marked.trans (shares_tellAll links _)
  · exact .refl world

theorem shares_watch (processes : ProcessTable) (world : World Action) (number : Nat)
    (token : ClientToken Nat) (process : UInt32) :
    Shares world (world.watch processes number token process).world := by
  unfold watch
  cases WatchFinding.of token.alive (processes.alive process) with
  | tokenDead | running => exact .refl world
  | processGone => exact shares_notifyDeath world number

/-- What sessions share changes only by a command that is about it, but that the hardware
is asked. -/
theorem shares_obey (world : World Action) {command : WorldCommand Action}
    (kept : command.retunes = false) : Shares world (world.obey command).world := by
  cases command with
  | make => exact .of_eq rfl rfl rfl
  | perform number operation =>
      cases found : world.monitor? number with
      | none => simpa [obey, found] using Shares.refl world
      | some monitor =>
          rw [obey_perform found]
          exact .settle ..
  | drop number =>
      cases found : world.monitor? number with
      | none => simpa [obey, found] using Shares.refl world
      | some monitor =>
          rw [obey_drop found]
          exact .settle ..
  | notifyDeath token =>
      cases found : world.tokens[token]? with
      | none => simpa [obey, found] using Shares.refl world
      | some state => simpa [obey, found] using shares_notifyDeath world token
  | watch processes token process =>
      cases found : world.tokens[token]? with
      | none => simpa [obey, found] using Shares.refl world
      | some state => simpa [obey, found] using shares_watch processes world token state process
  | unlink token link =>
      cases found : world.tokens[token]? with
      | none => simpa [obey, found] using Shares.refl world
      | some state =>
          simp only [obey, found, unlink]
          cases state.unlink link with
          | error error => exact .refl world
          | ok state => exact .of_eq rfl rfl rfl
  | setHal | setPreference => cases kept
  | setListener number listener =>
      cases found : world.monitor? number with
      | none => simpa [obey, found] using Shares.refl world
      | some monitor =>
          simp only [obey, found]
          exact .of_eq rfl rfl rfl

theorem shares_after {commands : List (WorldCommand Action)}
    (kept : ∀ command ∈ commands, command.retunes = false) (world : World Action) :
    Shares world (world.after commands) := by
  induction commands generalizing world with
  | nil => exact .refl world
  | cons command commands ih =>
      exact (shares_obey world (kept command List.mem_cons_self)).trans
        (ih (fun other member => kept other (List.mem_cons_of_mem command member)) _)

/-- No stranger comes or goes in a run. -/
theorem strangers_after (world : World Action) (commands : List (WorldCommand Action)) :
    (world.after commands).strangers = world.strangers := by
  induction commands generalizing world with
  | nil => rfl
  | cons command commands ih =>
      rw [after_cons, ih]
      cases retunes : command.retunes with
      | false => exact (shares_obey world retunes).strangers_eq
      | true => cases command <;> first | rfl | cases retunes

/-- There are no strangers in a run. -/
theorem strangers_run (processes : List (Option UInt32))
    (commands : List (WorldCommand Action)) (recipient : Nat) :
    ((fresh processes).after commands).strangers recipient = false := by
  rw [strangers_after]
  rfl

end World

/-! ## From the making to the end -/

/-- What a deed of a run shows of the session at a position: the operations that
it made the session go through. -/
structure WorldDeed.Shows {Action : Type} (position : Nat) (deed : WorldDeed Action)
    (life : List SessionDeed) : Prop where
  calls_eq : World.callsOf position deed.step.happenings = life.flatMap (·.calls)
  asked : ∀ past ∈ life, deed.command.asks past.operation
  performed : ∀ operation, deed.command = .perform position operation →
    (∃ past, life = [past] ∧ past.operation = operation ∧
        deed.step.ending = past.ending.map .reply) ∨
      life = [] ∧ deed.step.ending = .returned .absent

/-- The deeds of a run, one after the other, show a stretch of the life of the
session at a position. -/
inductive Recounts {Action : Type} (position : Nat) :
    List (WorldDeed Action) → List SessionDeed → Prop
  | nil : Recounts position [] []
  | snoc {deeds : List (WorldDeed Action)} {life shown : List SessionDeed}
      {deed : WorldDeed Action} (earlier : Recounts position deeds life)
      (last : deed.Shows position shown) :
      Recounts position (deeds ++ [deed]) (life ++ shown)

theorem Recounts.calls_eq {Action : Type} {position : Nat}
    {deeds : List (WorldDeed Action)} {life : List SessionDeed}
    (recounts : Recounts position deeds life) :
    deeds.flatMap (fun deed => World.callsOf position deed.step.happenings) =
      life.flatMap (·.calls) := by
  induction recounts with
  | nil => rfl
  | snoc earlier last ih => simp [ih, last.calls_eq]

namespace World

variable {Action : Type} [HardwareAction Action] {position : Nat}

/-- A command that neither makes a session nor gives up the one at a position
shows what that session goes through. -/
theorem obey_shows {world : World Action} {command : WorldCommand Action}
    (noMake : ∀ setting action token listener,
      command ≠ .make setting action token listener)
    (noDrop : command ≠ .drop position) {monitor : Monitor Action}
    (found : world.monitor? position = some monitor) :
    ∃ later life, (world.obey command).world.monitor? position = some later ∧
      later.setting = monitor.setting ∧
        Course monitor.setting monitor.session life later.session ∧
          WorldDeed.Shows position ⟨world, command, world.obey command⟩ life := by
  by_cases here : ∃ operation, command = .perform position operation
  · obtain ⟨operation, rfl⟩ := here
    obtain ⟨listener, present⟩ := monitor?_perform found operation
    rw [obey_perform found]
    refine ⟨_, [_], present, rfl,
      (Course.start _).perform (world.answers monitor) operation, ?_, ?_, ?_⟩
    · simp [perform, callsOf, effectsOf_effects, SessionDeed.calls, SessionDeed.of]
    · simp [WorldCommand.asks, SessionDeed.of]
    · intro other same
      obtain ⟨_, rfl⟩ := WorldCommand.perform.inj same
      exact .inl ⟨_, rfl, rfl, rfl⟩
  · obtain ⟨later, life, present, settingEq, course, effects, kinds⟩ :=
      (obey_follows world command position noMake noDrop).present monitor found
    refine ⟨later, life, present, settingEq, course, ?_, kinds, ?_⟩
    · simp only [callsOf, effects, List.filter_flatMap]
      rfl
    · intro operation same
      exact absurd ⟨operation, same⟩ here

/-- What a run has come to at one position: nothing yet, a session with its life
so far, or the whole life of a session that was given up. -/
structure Lived (Alive : Setting → Session Action → List SessionDeed → Prop)
    (position : Nat) (world : World Action) (deeds : List (WorldDeed Action)) :
    Prop where
  beyond : world.monitors.length ≤ position → Recounts position deeds []
  present : ∀ monitor, world.monitor? position = some monitor →
    ∃ life, Recounts position deeds life ∧ Alive monitor.setting monitor.session life
  absent : world.monitor? position = none → Recounts position deeds [] ∨
    ∃ setting session answers earlier last later life,
      deeds = earlier ++ last :: later ∧ last.command = .drop position ∧
        Recounts position earlier life ∧ Alive setting session life ∧
          callsOf position last.step.happenings =
            (Session.drop setting answers session).effects.filter (·.callsOut) ∧
              Recounts position later []

namespace Lived

variable {Alive : Setting → Session Action → List SessionDeed → Prop}
  {world after : World Action} {past : List (WorldDeed Action)} {deed : WorldDeed Action}

/-- A deed that shows nothing of the session at a position and leaves it alone. -/
theorem quiet (lived : Lived Alive position world past) (shows : deed.Shows position [])
    (length_le : after.monitors.length ≤ position → world.monitors.length ≤ position)
    (same : after.monitor? position = world.monitor? position) :
    Lived Alive position after (past ++ [deed]) where
  beyond short := (lived.beyond (length_le short)).snoc shows
  present monitor found := by
    obtain ⟨life, recounts, alive⟩ := lived.present monitor (same ▸ found)
    have recounts := recounts.snoc shows
    rw [List.append_nil] at recounts
    exact ⟨life, recounts, alive⟩
  absent gone := by
    rcases lived.absent (same ▸ gone) with nothing | ended
    · exact .inl (nothing.snoc shows)
    · obtain ⟨setting, session, answers, earlier, last, later, life, rfl, drops, recounts,
        alive, calls, since⟩ := ended
      exact .inr ⟨setting, session, answers, earlier, last, later ++ [deed], life,
        by simp, drops, recounts, alive, calls, since.snoc shows⟩

/-- A new session begins the life of its position. -/
theorem make (invariant : LifeInvariant Alive) (lived : Lived Alive position world past)
    (setting : Setting) (action : Action) (token : Option Nat)
    (listener : Option Listener) :
    Lived Alive position (world.obey (.make setting action token listener)).world
      (past ++ [⟨world, .make setting action token listener,
        world.obey (.make setting action token listener)⟩]) := by
  obtain ⟨linked, monitors, happened⟩ := make_eq world setting action token listener
  have found := monitor?_append world _ monitors position
  have shows : WorldDeed.Shows position
      ⟨world, .make setting action token listener,
        world.obey (.make setting action token listener)⟩ [] := by
    refine ⟨?_, by simp, by simp⟩
    change callsOf position (world.make setting action token listener).happenings = []
    rw [happened, callsOf, effectsOf_effects]
    rcases linked with _ | ⟨number, error | link⟩ <;>
      by_cases here : world.monitors.length = position <;>
        simp [here, Session.make, Effect.callsOut]
  by_cases here : world.monitors.length = position
  · have before := (lived.beyond (Nat.le_of_eq here)).snoc shows
    rw [if_pos here] at found
    refine ⟨?_, ?_, ?_⟩
    · intro short
      exact before
    · intro monitor isNew
      obtain rfl := Option.some.inj (found.symm.trans isNew)
      exact ⟨[], before, invariant.made ..⟩
    · intro gone
      simp only [obey, WorldStep.map_world] at gone
      simp [found] at gone
  · rw [if_neg here] at found
    refine lived.quiet shows ?_ found
    change (world.make setting action token listener).world.monitors.length ≤ position → _
    rw [monitors, List.length_append]
    exact fun short => Nat.le_of_add_right_le short

/-- Giving a session up completes its life. -/
theorem drop (lived : Lived Alive position world past) {monitor : Monitor Action}
    (found : world.monitor? position = some monitor) :
    Lived Alive position (world.obey (.drop position)).world
      (past ++ [⟨world, .drop position, world.obey (.drop position)⟩]) := by
  have within := lt_length_of_monitor? found
  have gone := monitor?_settle within none
    (monitor.session.drop monitor.setting (world.answers monitor)).effects position
  have obeyed : world.obey (.drop position) =
      (world.drop position monitor).map fun _ => .dropped := by
    simp [obey, found]
  obtain ⟨life, recounts, alive⟩ := lived.present monitor found
  rw [obeyed]
  refine ⟨?_, ?_, ?_⟩
  · intro short
    simp only [World.drop, WorldStep.map_world, settle, List.length_set] at short
    exact absurd within (Nat.not_lt.mpr short)
  · intro other present
    simp [World.drop, gone] at present
  · intro _
    refine .inr ⟨_, _, world.answers monitor, past, _, [], life, rfl, rfl, recounts, alive,
      ?_, .nil⟩
    simp [World.drop, callsOf, effectsOf_effects]

/-- Whatever a world obeys, the life of the session at a position goes on. -/
theorem obey (invariant : LifeInvariant Alive) (lived : Lived Alive position world past)
    (command : WorldCommand Action) :
    Lived Alive position (world.obey command).world
      (past ++ [⟨world, command, world.obey command⟩]) := by
  by_cases makes : ∃ setting action token listener,
      command = .make setting action token listener
  · obtain ⟨setting, action, token, listener, rfl⟩ := makes
    exact lived.make invariant setting action token listener
  have noMake : ∀ setting action token listener,
      command ≠ .make setting action token listener :=
    fun setting action token listener same => makes ⟨setting, action, token, listener, same⟩
  cases found : world.monitor? position with
  | some monitor =>
      by_cases drops : command = .drop position
      · subst drops
        exact lived.drop found
      obtain ⟨life, recounts, alive⟩ := lived.present monitor found
      obtain ⟨later, stretch, present, settingEq, course, shows⟩ :=
        obey_shows noMake drops found
      refine ⟨?_, ?_, ?_⟩
      · intro short
        exact absurd (lt_length_of_monitor? present) (Nat.not_lt.mpr short)
      · intro other isOther
        obtain rfl := Option.some.inj (present.symm.trans isOther)
        rw [settingEq]
        exact ⟨_, recounts.snoc shows, invariant.course life course alive⟩
      · intro gone
        simp [present] at gone
  | none =>
      by_cases drops : command = .drop position
      · subst drops
        have stays : world.obey (.drop position) = world.still .absent := by
          simp [World.obey, found]
        rw [stays]
        exact lived.quiet ⟨rfl, by simp, by simp⟩ id rfl
      have follows := obey_follows world command position noMake drops
      obtain ⟨gone, nothing⟩ := follows.absent found
      refine lived.quiet ⟨?_, by simp, ?_⟩ (by rw [follows.length_eq]; exact id)
        (gone.trans found.symm)
      · simp [callsOf, nothing]
      · rintro operation rfl
        exact .inr ⟨rfl, by simp [World.obey, found, still]⟩

end Lived

/-- An invariant of the life of sessions holds of the session at every position
of every run, and the deeds of the run recount that life. -/
theorem lived_run {Alive : Setting → Session Action → List SessionDeed → Prop}
    (invariant : LifeInvariant Alive) (processes : List (Option UInt32))
    (commands : List (WorldCommand Action)) (position : Nat) :
    Lived Alive position ((fresh processes).after commands)
      ((fresh processes).deeds commands) := by
  -- by induction on the commands, with the deeds done so far going along
  have step : ∀ (world : World Action) past, Lived Alive position world past →
      Lived Alive position (world.after commands) (past ++ world.deeds commands) := by
    induction commands with
    | nil =>
        intro world past lived
        simpa [deeds] using lived
    | cons command commands ih =>
        intro world past lived
        have next := ih _ _ (lived.obey invariant command)
        simpa [deeds] using next
  refine step (fresh processes) [] ⟨fun _ => .nil, ?_, fun _ => .inl .nil⟩
  intro monitor found
  simp [monitor?, fresh] at found

end World

end BiometricSession
