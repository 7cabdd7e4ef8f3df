import BiometricSession.Proofs.Session.Likeness
import BiometricSession.Proofs.Session.Soundness
import BiometricSession.Proofs.World.Life

/-!
# Worlds that are alike

A likeness says in what two worlds may differ: in the settings, the actions and the
listeners of their sessions, each a little, and in what users prefer.  If that makes no
session differ in what is shown of it, then no command tells the worlds apart: it shows the
same in both, ends in the same way, and leaves worlds that are again alike.
-/

namespace BiometricSession

/-! ## The trace of what happens -/

/-- What a session does, with its position. -/
def Happening.part? : Happening → Option (Nat × Effect)
  | effect position _ done => some (position, done)
  | logged _ => none

namespace World

/-- What the sessions do, in order. -/
def trace (happenings : List Happening) : List (Nat × Effect) :=
  happenings.filterMap (·.part?)

@[simp]
theorem trace_nil : trace [] = [] :=
  rfl

@[simp]
theorem trace_append (first second : List Happening) :
    trace (first ++ second) = trace first ++ trace second :=
  List.filterMap_append

@[simp]
theorem trace_effects (position : Nat) (setting : Setting) (effects : List Effect) :
    trace (effects.map (.effect position setting)) = effects.map (position, ·) := by
  induction effects with
  | nil => rfl
  | cons effect effects ih => exact congrArg ((position, effect) :: ·) ih

@[simp]
theorem trace_logged (records : List LogRecord) : trace (records.map .logged) = [] := by
  induction records with
  | nil => rfl
  | cons record records ih => exact ih

end World

/-- How the collaborators answer a session during one call. -/
def Answers.given (hal : Hal) (preferences : Preferences) (listener : Option Listener)
    (refusal : Option TokenError) : Answers where
  start := hal.start 0
  stop := hal.stop 0
  delivery earlier event :=
    match listener with
    | some listener => listener.answer (listener.told ++ earlier) event
    | none => .sent
  preferences := preferences
  unlinkRefusal := refusal

theorem Hal.after_congr (hal : Hal) {first second : List Effect}
    (asks : Effect.AskAlike first second) : hal.after first = hal.after second := by
  unfold after
  rw [asks.starts_eq, asks.stops_eq]

theorem World.answers_eq_given {Action : Type} (world : World Action)
    (monitor : Monitor Action) :
    world.answers monitor = .given world.hal world.preferences monitor.listener
      (world.unlinkRefusal monitor.session) :=
  rfl

theorem Session.make_recast {Action : Type} (action other : Action) (listening : Bool)
    (linked : Option (Nat × Except TokenError Nat)) :
    Session.make other listening linked =
      ((Session.make action listening linked).1.recast other,
        (Session.make action listening linked).2) := by
  rcases linked with _ | ⟨token, error | link⟩ <;> rfl

/-! ## Likenesses -/

/-- In what worlds may differ, such that it does not show. -/
structure Likeness (Action : Type) [HardwareAction Action] where
  /-- What is shown of the session at a position. -/
  shown : Nat → Effect → Bool
  settings : Setting → Setting → Prop
  /-- How the actions of the two sessions at a position are related. -/
  actions : Nat → Action → Action → Prop
  /-- How the listeners of the two sessions at a position are related. -/
  listeners : Nat → Option Listener → Option Listener → Prop
  preferences : Preferences → Preferences → Prop
  shown_unlink : ∀ position token link refusal,
    shown position (.unlink token link refusal) = true
  /-- Listeners stay related when they are told what does not differ in what is shown. -/
  told : ∀ {position : Nat} {listener other : Option Listener} {effects others : List Effect},
    listeners position listener other →
      effects.filter (shown position) = others.filter (shown position) →
        listeners position (listener.map (·.after (Effect.attempts effects)))
          (other.map (·.after (Effect.attempts others)))
  /-- What the worlds may differ in makes no session differ in what is shown. -/
  sessions : ∀ {position : Nat} {setting otherSetting : Setting} {session : Session Action}
    {other : Action} {listener otherListener : Option Listener}
    {tastes otherTastes : Preferences} (hal : Hal) (refusal : Option TokenError),
    settings setting otherSetting → actions position session.action other →
      listeners position listener otherListener → preferences tastes otherTastes →
        Session.Alike (shown position) (actions position) setting otherSetting
          (.given hal tastes listener refusal) (.given hal otherTastes otherListener refusal)
          session other

namespace Likeness

variable {Action : Type} [HardwareAction Action] (likeness : Likeness Action)

/-- Whether something that a session does is shown. -/
def partShown (part : Nat × Effect) : Bool :=
  likeness.shown part.1 part.2

/-- Two sessions at a position that do not differ in more than they may. -/
structure Monitors (position : Nat) (monitor other : Monitor Action) : Prop where
  setting : likeness.settings monitor.setting other.setting
  session : ∃ action, other.session = monitor.session.recast action ∧
    likeness.actions position monitor.session.action action
  listener : likeness.listeners position monitor.listener other.listener

/-- Two worlds that do not differ in more than they may. -/
structure Worlds (world other : World Action) : Prop where
  tokens_eq : world.tokens = other.tokens
  hal_eq : world.hal = other.hal
  strangers_eq : world.strangers = other.strangers
  preferences : likeness.preferences world.preferences other.preferences
  length_eq : world.monitors.length = other.monitors.length
  monitors : ∀ position, Option.Rel (likeness.Monitors position) (world.monitor? position)
    (other.monitor? position)

/-- Two steps that show the same, end in the same way and lead to worlds that do not differ
in more than they may. -/
structure Steps {Value : Type} (step other : WorldStep Action Value) : Prop where
  world : likeness.Worlds step.world other.world
  trace : (World.trace step.happenings).filter likeness.partShown =
    (World.trace other.happenings).filter likeness.partShown
  ending : step.ending = other.ending

variable {likeness} {world other : World Action} {position : Nat}

theorem filter_trace_effects (setting : Setting) (effects : List Effect) :
    (World.trace (effects.map (.effect position setting))).filter likeness.partShown =
      (effects.filter (likeness.shown position)).map (position, ·) := by
  rw [World.trace_effects, List.filter_map]
  rfl

/-- Only what is shown matters to the tokens. -/
theorem foldl_applyEffect_shown (position : Nat) (effects : List Effect)
    (tokens : List (ClientToken Nat)) :
    (effects.filter (likeness.shown position)).foldl World.applyEffect tokens =
      effects.foldl World.applyEffect tokens := by
  induction effects generalizing tokens with
  | nil => rfl
  | cons effect effects ih =>
      cases shows : likeness.shown position effect with
      | true => simp [shows, ih]
      | false =>
          rw [List.filter_cons_of_neg (by simp [shows]), ih]
          cases effect with
          | unlink token link refusal =>
              cases (likeness.shown_unlink position token link refusal).symm.trans shows
          | _ => rfl

theorem Steps.map {First Second : Type} {step image : WorldStep Action First}
    (steps : likeness.Steps step image) (convert : First → Second) :
    likeness.Steps (step.map convert) (image.map convert) :=
  ⟨steps.world, steps.trace, congrArg (Ending.map convert) steps.ending⟩

namespace Worlds

variable (alike : likeness.Worlds world other)

include alike

theorem still (answer : WorldAnswer) :
    likeness.Steps (world.still answer) (other.still answer) :=
  ⟨alike, rfl, rfl⟩

theorem absent_or_pair (position : Nat) :
    (world.monitor? position = none ∧ other.monitor? position = none) ∨
      ∃ monitor image, world.monitor? position = some monitor ∧
        other.monitor? position = some image ∧ likeness.Monitors position monitor image := by
  have same := alike.monitors position
  cases found : world.monitor? position <;> cases image : other.monitor? position <;>
    rw [found, image] at same <;> cases same
  · exact .inl ⟨rfl, rfl⟩
  · rename_i pair
    exact .inr ⟨_, _, rfl, rfl, pair⟩

theorem settle (within : position < world.monitors.length)
    {monitor image : Option (Monitor Action)}
    (monitors : Option.Rel (likeness.Monitors position) monitor image)
    {effects others : List Effect}
    (shows : effects.filter (likeness.shown position) =
      others.filter (likeness.shown position))
    (asks : Effect.AskAlike effects others) :
    likeness.Worlds (world.settle position monitor effects)
      (other.settle position image others) where
  tokens_eq := by
    change effects.foldl _ _ = others.foldl _ _
    have first := likeness.foldl_applyEffect_shown position effects world.tokens
    have second := likeness.foldl_applyEffect_shown position others other.tokens
    rw [← first, ← second, shows, alike.tokens_eq]
  hal_eq := (world.hal.after_congr asks).trans (congrArg (Hal.after · others) alike.hal_eq)
  strangers_eq := alike.strangers_eq
  preferences := alike.preferences
  length_eq := by simpa [World.settle] using alike.length_eq
  monitors place := by
    rw [World.monitor?_settle within, World.monitor?_settle (alike.length_eq ▸ within)]
    by_cases here : position = place
    · subst here
      simpa using monitors
    · simpa only [if_neg here] using alike.monitors place

theorem session_alike {monitor image : Monitor Action} {action : Action}
    (pair : likeness.Monitors position monitor image)
    (recast : image.session = monitor.session.recast action)
    (related : likeness.actions position monitor.session.action action) :
    Session.Alike (likeness.shown position) (likeness.actions position) monitor.setting
      image.setting (world.answers monitor) (other.answers image) monitor.session action := by
  have refusal_eq : other.unlinkRefusal image.session = world.unlinkRefusal monitor.session := by
    unfold World.unlinkRefusal
    rw [recast, alike.tokens_eq]
    rfl
  rw [World.answers_eq_given, World.answers_eq_given, refusal_eq, alike.hal_eq]
  exact likeness.sessions _ _ pair.setting related pair.listener alike.preferences

theorem perform {monitor image : Monitor Action}
    (found : world.monitor? position = some monitor)
    (pair : likeness.Monitors position monitor image) (operation : Operation) :
    likeness.Steps (world.perform position monitor operation)
      (other.perform position image operation) := by
  obtain ⟨action, recast, related⟩ := pair.session
  have same := (alike.session_alike pair recast related).perform operation
  rw [← recast] at same
  have after : likeness.Monitors position (monitor.performed (world.answers monitor) operation)
      (image.performed (other.answers image) operation) :=
    ⟨pair.setting, same.session, likeness.told pair.listener same.effects⟩
  refine ⟨alike.settle (World.lt_length_of_monitor? found) (.some after) same.effects same.asks,
    ?_, same.ending⟩
  simp only [World.perform]
  rw [filter_trace_effects, filter_trace_effects, same.effects]

theorem drop {monitor image : Monitor Action}
    (found : world.monitor? position = some monitor)
    (pair : likeness.Monitors position monitor image) :
    likeness.Steps (world.drop position monitor) (other.drop position image) := by
  obtain ⟨action, recast, related⟩ := pair.session
  obtain ⟨effects, asks, ending⟩ := (alike.session_alike pair recast related).drop
  rw [← recast] at effects asks ending
  refine ⟨alike.settle (World.lt_length_of_monitor? found) .none effects asks, ?_, ending⟩
  simp only [World.drop]
  rw [filter_trace_effects, filter_trace_effects, effects]

omit alike in
theorem tellAll (links : List (DeathLink Nat)) (alike : likeness.Worlds world other) :
    likeness.Steps (World.tellAll links world) (World.tellAll links other) := by
  induction links generalizing world other with
  | nil => exact ⟨alike, rfl, rfl⟩
  | cons link links ih =>
      unfold World.tellAll
      rcases alike.absent_or_pair link.recipient with
        ⟨absent, absentToo⟩ | ⟨monitor, image, found, foundToo, pair⟩
      · rw [absent, absentToo, alike.strangers_eq]
        exact (ih alike).map _
      · have first := alike.perform found pair (.clientDied true)
        rw [found, foundToo]
        simp only [← first.ending]
        split
        · exact ⟨first.world, first.trace, rfl⟩
        · have rest := ih first.world
          refine ⟨rest.world, ?_, congrArg (Ending.map (· + 1)) rest.ending⟩
          simp only [World.trace_append, List.filter_append, first.trace, rest.trace]

theorem notifyDeath (token : Nat) :
    likeness.Steps (world.notifyDeath token) (other.notifyDeath token) := by
  unfold World.notifyDeath
  rw [← alike.tokens_eq]
  cases world.tokens[token]?.bind ClientToken.die with
  | none => exact ⟨alike, rfl, rfl⟩
  | some death => exact tellAll death.1 { alike with tokens_eq := rfl }

theorem watch (processes : ProcessTable) (position : Nat) (token : ClientToken Nat)
    (process : UInt32) :
    likeness.Steps (world.watch processes position token process)
      (other.watch processes position token process) := by
  have death := alike.notifyDeath position
  unfold World.watch
  cases WatchFinding.of token.alive (processes.alive process) with
  | processGone =>
      refine ⟨death.world, ?_, congrArg (Ending.map _) death.ending⟩
      simp only [World.trace_append, List.filter_append, death.trace]
  | tokenDead | running => exact ⟨alike, rfl, rfl⟩

theorem monitors_append {monitor image : Monitor Action} {after otherAfter : World Action}
    (appended : after.monitors = world.monitors ++ [some monitor])
    (appendedToo : otherAfter.monitors = other.monitors ++ [some image])
    (pair : likeness.Monitors world.monitors.length monitor image) (place : Nat) :
    Option.Rel (likeness.Monitors place) (after.monitor? place)
      (otherAfter.monitor? place) := by
  rw [world.monitor?_append monitor appended, other.monitor?_append image appendedToo,
    ← alike.length_eq]
  by_cases here : world.monitors.length = place
  · subst here
    rw [if_pos rfl, if_pos rfl]
    exact .some pair
  · rw [if_neg here, if_neg here]
    exact alike.monitors place

theorem make {setting otherSetting : Setting} {action otherAction : Action}
    {listener otherListener : Option Listener} (token : Option Nat)
    (settings : likeness.settings setting otherSetting)
    (actions : likeness.actions world.monitors.length action otherAction)
    (listeners : likeness.listeners world.monitors.length listener otherListener)
    (listening_eq : listener.isSome = otherListener.isSome) :
    likeness.Steps (world.make setting action token listener)
      (other.make otherSetting otherAction token otherListener) := by
  unfold World.make
  simp only [← alike.tokens_eq, ← alike.length_eq, ← listening_eq,
    Session.make_recast action otherAction]
  generalize (Option.map _ _ : Option (Nat × Except TokenError Nat)) = linked
  refine ⟨⟨rfl, alike.hal_eq, alike.strangers_eq, alike.preferences,
    by simp [alike.length_eq], ?_⟩, ?_, rfl⟩
  · exact alike.monitors_append rfl rfl
      ⟨settings, ⟨otherAction, rfl, by rwa [Session.make_action]⟩, listeners⟩
  · rw [World.trace_effects, World.trace_effects]

theorem setListener {monitor image : Monitor Action}
    (found : world.monitor? position = some monitor)
    (pair : likeness.Monitors position monitor image) {listener : Listener}
    (listeners : likeness.listeners position (some listener) (some listener)) :
    likeness.Worlds (world.setListener position monitor listener)
      (other.setListener position image listener) := by
  have after : likeness.Monitors position { monitor with listener := some listener }
      { image with listener := some listener } :=
    ⟨pair.setting, pair.session, listeners⟩
  have nothing (shown : Effect → Bool) :
      ([] : List Effect).filter shown = ([] : List Effect).filter shown := rfl
  exact alike.settle (World.lt_length_of_monitor? found) (.some after) (nothing _) (.refl [])

end Worlds

/-! ## Commands -/

variable (likeness) in
/-- Commands that do not differ in more than the worlds may, if a session is to be made at
the given position. -/
inductive Commands (position : Nat) : WorldCommand Action → WorldCommand Action → Prop
  | make {setting otherSetting : Setting} {action otherAction : Action}
      {listener otherListener : Option Listener} (token : Option Nat)
      (settings : likeness.settings setting otherSetting)
      (actions : likeness.actions position action otherAction)
      (listeners : likeness.listeners position listener otherListener)
      (listening_eq : listener.isSome = otherListener.isSome) :
      Commands position (.make setting action token listener)
        (.make otherSetting otherAction token otherListener)
  | perform (number : Nat) (operation : Operation) :
      Commands position (.perform number operation) (.perform number operation)
  | drop (number : Nat) : Commands position (.drop number) (.drop number)
  | notifyDeath (token : Nat) : Commands position (.notifyDeath token) (.notifyDeath token)
  | watch (processes : ProcessTable) (token : Nat) (process : UInt32) :
      Commands position (.watch processes token process) (.watch processes token process)
  | unlink (token link : Nat) : Commands position (.unlink token link) (.unlink token link)
  | setHal (hal : Hal) : Commands position (.setHal hal) (.setHal hal)
  | setPreference {key : PreferenceKey} {user : Int32} {value : Bool}
      (kept : ∀ {tastes others : Preferences}, likeness.preferences tastes others →
        likeness.preferences (tastes.set key user value) (others.set key user value)) :
      Commands position (.setPreference key user value) (.setPreference key user value)
  | setListener {number : Nat} {listener : Listener}
      (listeners : likeness.listeners number (some listener) (some listener)) :
      Commands position (.setListener number listener) (.setListener number listener)

/-- Commands that do not differ in more than the worlds may do not tell the worlds apart. -/
theorem Worlds.obey (alike : likeness.Worlds world other) {command image : WorldCommand Action}
    (commands : likeness.Commands world.monitors.length command image) :
    likeness.Steps (world.obey command) (other.obey image) := by
  cases commands with
  | make token settings actions listeners listening_eq =>
      exact (alike.make token settings actions listeners listening_eq).map _
  | perform number operation =>
      rcases alike.absent_or_pair number with
        ⟨absent, absentToo⟩ | ⟨monitor, image, found, foundToo, pair⟩
      · simpa only [World.obey, absent, absentToo] using alike.still .absent
      · simpa only [World.obey, found, foundToo] using
          (alike.perform found pair operation).map _
  | drop number =>
      rcases alike.absent_or_pair number with
        ⟨absent, absentToo⟩ | ⟨monitor, image, found, foundToo, pair⟩
      · simpa only [World.obey, absent, absentToo] using alike.still .absent
      · simpa only [World.obey, found, foundToo] using (alike.drop found pair).map _
  | notifyDeath token =>
      simp only [World.obey, ← alike.tokens_eq]
      cases world.tokens[token]? with
      | none => exact alike.still .absent
      | some state => exact (alike.notifyDeath token).map _
  | watch processes token process =>
      simp only [World.obey, ← alike.tokens_eq]
      cases world.tokens[token]? with
      | none => exact alike.still .absent
      | some state => exact (alike.watch processes token state process).map _
  | unlink token link =>
      simp only [World.obey, World.unlink, ← alike.tokens_eq]
      cases world.tokens[token]? with
      | none => exact alike.still .absent
      | some state =>
          simp only
          cases state.unlink link with
          | error error => exact alike.still _
          | ok state =>
              have after : likeness.Worlds { world with tokens := world.tokens.set token state }
                  { other with tokens := world.tokens.set token state } :=
                { alike with tokens_eq := rfl }
              exact after.still _
  | setHal hal =>
      have after : likeness.Worlds (world.setHal hal) (other.setHal hal) :=
        { alike with hal_eq := rfl }
      exact after.still .noted
  | @setPreference key user value kept =>
      have after : likeness.Worlds (world.setPreference key user value)
          (other.setPreference key user value) :=
        { alike with preferences := kept alike.preferences }
      exact after.still .noted
  | @setListener number listener listeners =>
      rcases alike.absent_or_pair number with
        ⟨absent, absentToo⟩ | ⟨monitor, image, found, foundToo, pair⟩
      · simpa only [World.obey, absent, absentToo] using alike.still .absent
      · simpa only [World.obey, found, foundToo] using
          (alike.setListener found pair listeners).still .noted

end Likeness

end BiometricSession
