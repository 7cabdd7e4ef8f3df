import BiometricSession.Proofs.World.Mirror

/-!
# Sessions do not interfere

In a run with many sessions each of them shows what it shows in the run that keeps
only its own making and operations and the deaths of its client.  A command that
concerns the session has the same effects on it in both worlds, and every other
command leaves it alone; so the run with many sessions mirrors the run with one, step
by step.  Only the numbers of links differ.
-/

namespace BiometricSession

/-- The token that a session is made with. -/
def WorldCommand.given {Action : Type} : WorldCommand Action → Option Nat
  | .make _ _ token _ => token
  | _ => none

/-- What can be seen of a session when a deed is done, apart from the number of its
link. -/
structure Showing (Action : Type) where
  /-- The answer to a command that was addressed to the session. -/
  answer : Option (Ending WorldAnswer)
  effects : List Effect
  /-- The session afterwards, if it exists. -/
  session : Option (Session Action)

namespace WorldDeed

variable {Action : Type}

/-- Whether a deed makes the session at a position. -/
def makes (position : Nat) (deed : WorldDeed Action) : Bool :=
  match deed.command with
  | .make .. => deed.before.monitors.length == position
  | _ => false

/-- Whether a deed is a matter of the session at a position, whose client stands
behind the given token. -/
def concerns (position : Nat) (home : Option Nat) (deed : WorldDeed Action) : Bool :=
  deed.command.concerns position home deed.before

/-- What a deed shows of the session at a position. -/
def showing (position : Nat) (deed : WorldDeed Action) : Showing Action where
  answer := if deed.command.addressed then some deed.step.ending else none
  effects := (World.effectsOf position deed.step.happenings).map (·.unnumbered)
  session := (deed.step.world.monitor? position).map (·.session.unnumbered)

/-- A deed that has nothing to do with the session at a position. -/
structure Passes (position : Nat) (deed : WorldDeed Action) : Prop where
  unchanged : deed.step.world.monitor? position = deed.before.monitor? position
  effects_nil : World.effectsOf position deed.step.happenings = []

end WorldDeed

namespace World

variable {Action : Type} {whole alone : World Action} {position : Nat} {home : Option Nat}

/-- A world with fresh tokens and no sessions yet, whose hardware and whose users'
preferences are as given. -/
def opening (processes : List (Option UInt32)) (hal : Hal) (preferences : Preferences) :
    World Action :=
  { fresh processes with hal, preferences }

/-- The token that the session at a position is made with in a run. -/
def homeOf (position : Nat) (deeds : List (WorldDeed Action)) : Option Nat :=
  (deeds.find? (·.makes position)).bind (·.command.given)

section Action

variable [HardwareAction Action] [ScopedAction Action] {command : WorldCommand Action}

/-- Two steps show the same of the session at a position and of the first session of
the other world. -/
structure Echoes (position : Nat) (home : Option Nat) {First Second : Type}
    (step : WorldStep Action First) (copy : WorldStep Action Second) : Prop where
  mirrors : Mirrors position home step.world copy.world
  effects_eq : (effectsOf position step.happenings).map (·.unnumbered) =
    (effectsOf 0 copy.happenings).map (·.unnumbered)

namespace Echoes

variable {First Second Third Fourth : Type} {step : WorldStep Action First}
  {copy : WorldStep Action Second} {other : WorldStep Action Third}
  {image : WorldStep Action Fourth}

omit [HardwareAction Action] [ScopedAction Action] in
theorem congr (echoes : Echoes position home step copy) (world_eq : other.world = step.world)
    (same : effectsOf position other.happenings = effectsOf position step.happenings)
    (image_eq : image.world = copy.world)
    (alike : effectsOf 0 image.happenings = effectsOf 0 copy.happenings) :
    Echoes position home other image := by
  refine ⟨?_, ?_⟩
  · rw [world_eq, image_eq]
    exact echoes.mirrors
  · rw [same, alike]
    exact echoes.effects_eq

omit [HardwareAction Action] [ScopedAction Action] in
theorem map (echoes : Echoes position home step copy) (convert : First → Third)
    (translate : Second → Fourth) :
    Echoes position home (step.map convert) (copy.map translate) :=
  echoes.congr rfl rfl rfl rfl

end Echoes

namespace Mirrors

theorem perform (mirrors : Mirrors position home whole alone)
    (neighbours : Neighbours whole alone) {monitor other : Monitor Action}
    (found : whole.monitor? position = some monitor)
    (isOther : alone.monitor? 0 = some other) (alike : monitor.Alike other)
    (operation : Operation) :
    Echoes position home (whole.perform position monitor operation)
        (alone.perform 0 other operation) ∧
      (whole.perform position monitor operation).ending =
        (alone.perform 0 other operation).ending := by
  have answers := mirrors.answers_eq neighbours found isOther alike
  have same := alike.perform (whole.answers monitor) operation
  have follows := follows_perform found operation position
  have followsCopy := follows_perform isOther operation 0
  refine ⟨⟨mirrors.step follows.length_eq followsCopy.length_eq ?_ ?_ ?_ ?_ ?_, ?_⟩, ?_⟩
  · rw [monitor?_performed found, monitor?_performed isOther, answers]
    exact .some (alike.performed (whole.answers monitor) operation)
  · intro token isHome
    rw [aliveAt_perform, aliveAt_perform]
    exact mirrors.alive token isHome
  · intro token
    rw [neighbours.aloneLinked.lists_perform isOther operation,
      neighbours.linked.lists_perform found operation, mirrors.lists, mirrors.holdsAt_iff]
    simp
  · intro token listed
    exact ((neighbours.linked.lists_perform found operation).mp listed).1
  · exact fun token => .of_follows neighbours.linked.sound follows
  · simp only [World.perform, effectsOf_effects, if_true, answers]
    exact congrArg Step.effects same
  · have ended := congrArg Step.ending same
    simp only [World.perform, answers]
    exact ended

omit [ScopedAction Action] in
theorem drop (mirrors : Mirrors position home whole alone)
    (neighbours : Neighbours whole alone) {monitor other : Monitor Action}
    (found : whole.monitor? position = some monitor)
    (isOther : alone.monitor? 0 = some other) (alike : monitor.Alike other) :
    Echoes position home (whole.drop position monitor) (alone.drop 0 other) ∧
      (whole.drop position monitor).ending = (alone.drop 0 other).ending := by
  have answers := mirrors.answers_eq neighbours found isOther alike
  obtain ⟨effects, ending⟩ := alike.drop (whole.answers monitor)
  have gone : (whole.drop position monitor).world.monitor? position = none :=
    (monitor?_settle (lt_length_of_monitor? found) none _ position).trans (if_pos rfl)
  have goneCopy : (alone.drop 0 other).world.monitor? 0 = none :=
    (monitor?_settle (lt_length_of_monitor? isOther) none _ 0).trans (if_pos rfl)
  refine ⟨⟨mirrors.step ?_ ?_ ?_ ?_ ?_ ?_ ?_, ?_⟩, ?_⟩
  · simp [World.drop, settle]
  · simp [World.drop, settle]
  · rw [gone, goneCopy]
    exact .none
  · intro token isHome
    rw [aliveAt_drop, aliveAt_drop]
    exact mirrors.alive token isHome
  · intro token
    rw [neighbours.aloneLinked.lists_drop isOther, neighbours.linked.lists_drop found,
      mirrors.lists, mirrors.holdsAt_iff]
    simp
  · intro token listed
    exact ((neighbours.linked.lists_drop found).mp listed).1
  · exact fun token held => absurd held (not_holdsAt gone)
  · simp only [World.drop, effectsOf_effects, if_true, answers]
    exact effects
  · simp only [World.drop, answers]
    exact ending

/-- The death of its client does the same to the session in both worlds. -/
theorem notifyDeath (mirrors : Mirrors position home whole alone)
    (neighbours : Neighbours whole alone) {token : Nat} (isHome : home = some token) :
    Echoes position home (whole.notifyDeath token) (alone.notifyDeath token) := by
  have follows := follows_notifyDeath whole token position
  have followsCopy := follows_notifyDeath alone token 0
  obtain ⟨start, code, steady⟩ := neighbours.steady
  have steadyCopy := neighbours.hal_eq.trans steady
  have answering : whole.hal.AnswersStops := steady ▸ Hal.answersStops_steady start code
  have answeringCopy : alone.hal.AnswersStops := steadyCopy ▸ Hal.answersStops_steady start code
  have told : Option.Rel Monitor.Alike ((whole.notifyDeath token).world.monitor? position)
        ((alone.notifyDeath token).world.monitor? 0) ∧
      (effectsOf position (whole.notifyDeath token).happenings).map (·.unnumbered) =
        (effectsOf 0 (alone.notifyDeath token).happenings).map (·.unnumbered) := by
    by_cases listed : whole.Lists token position
    · rcases mirrors.both with ⟨absent, gone⟩ | ⟨monitor, other, found, isOther, alike⟩
      · obtain ⟨stays, nothing⟩ := follows.absent absent
        obtain ⟨staysCopy, nothingCopy⟩ := followsCopy.absent gone
        rw [stays, staysCopy, nothing, nothingCopy]
        exact ⟨.none, rfl⟩
      · obtain ⟨answers, ⟨_, hears⟩, effects, present⟩ :=
          notifyDeath_listed neighbours.linked.sound neighbours.linked.tidy answering listed found
        obtain ⟨copies, ⟨_, hearsCopy⟩, effectsCopy, presentCopy⟩ :=
          notifyDeath_listed neighbours.aloneLinked.sound neighbours.aloneLinked.tidy
            answeringCopy ((mirrors.lists token).mpr listed) isOther
        have sameStop : copies.stop = answers.stop := by
          rw [hears, hearsCopy, steady, steadyCopy]
          rfl
        have sameStep := Session.clientDied_congr other.setting other.session sameStop true
        rw [present, presentCopy, effects, effectsCopy, Monitor.performed_congr sameStep,
          sameStep]
        exact ⟨.some (alike.performed answers (.clientDied true)),
          congrArg Step.effects (alike.perform answers (.clientDied true))⟩
    · obtain ⟨same, nothing⟩ := World.notifyDeath_other listed
      obtain ⟨sameCopy, nothingCopy⟩ :=
        World.notifyDeath_other ((mirrors.lists token).not.mpr listed)
      rw [same, sameCopy, nothing, nothingCopy]
      exact ⟨mirrors.alike, rfl⟩
  refine ⟨mirrors.step follows.length_eq followsCopy.length_eq told.1 ?_ ?_ ?_ ?_, told.2⟩
  · intro own isOwn
    rw [aliveAt_notifyDeath, aliveAt_notifyDeath, mirrors.alive token isHome,
      mirrors.alive own isOwn]
  · intro own
    rw [lists_notifyDeath neighbours.aloneLinked.tidy, lists_notifyDeath neighbours.linked.tidy,
      mirrors.lists]
  · intro own listed
    exact ((lists_notifyDeath neighbours.linked.tidy own).mp listed).1
  · exact fun own => .of_follows neighbours.linked.sound follows

omit [HardwareAction Action] [ScopedAction Action] in
theorem setListener (mirrors : Mirrors position home whole alone)
    {monitor other : Monitor Action} (found : whole.monitor? position = some monitor)
    (isOther : alone.monitor? 0 = some other) (alike : monitor.Alike other)
    (listener : Listener) :
    Mirrors position home (whole.setListener position monitor listener)
      (alone.setListener 0 other listener) := by
  have settled : (whole.setListener position monitor listener).monitor? position =
      some { monitor with listener := some listener } :=
    (monitor?_settle (lt_length_of_monitor? found) _ [] position).trans (if_pos rfl)
  have settledCopy : (alone.setListener 0 other listener).monitor? 0 =
      some { other with listener := some listener } :=
    (monitor?_settle (lt_length_of_monitor? isOther) _ [] 0).trans (if_pos rfl)
  refine mirrors.step (by simp [World.setListener]) (by simp [World.setListener]) ?_
    mirrors.alive mirrors.lists (fun _ => id) ?_
  · rw [settled, settledCopy]
    exact .some ⟨alike.setting_eq, alike.session_eq, rfl⟩
  · intro token held
    exact (World.holdsAt_iff found).mpr ((World.holdsAt_iff settled).mp held)

omit [HardwareAction Action] [ScopedAction Action] in
theorem make (mirrors : Mirrors position home whole alone)
    (here : whole.monitors.length = position) (setting : Setting) (action : Action)
    (listener : Option Listener) :
    Echoes position home (whole.make setting action home listener)
      (alone.make setting action home listener) := by
  have empty : alone.monitors.length = 0 := by
    rw [mirrors.length_eq, if_neg (by omega)]
  obtain ⟨linked, tokens, making, made⟩ := making whole setting action home listener
  obtain ⟨copy, copies, makingCopy, madeCopy⟩ :=
    World.making alone setting action home listener
  have sameAnswer : linked.map Session.unnumberedAnswer =
      copy.map Session.unnumberedAnswer := by
    rw [making.unnumberedAnswer, makingCopy.unnumberedAnswer]
    cases isHome : home with
    | none => rfl
    | some token => simp only [Option.bind_some, mirrors.alive token isHome]
  obtain ⟨session, effects⟩ := Session.make_unnumbered action listener.isSome linked
  obtain ⟨sessionCopy, effectsCopy⟩ := Session.make_unnumbered action listener.isSome copy
  rw [sameAnswer] at session effects
  have tokens_eq : (whole.make setting action home listener).world.tokens = tokens := by
    rw [made]
  have tokens_eq_copy : (alone.make setting action home listener).world.tokens = copies := by
    rw [madeCopy]
  have found : (whole.make setting action home listener).world.monitor? position =
      some ⟨setting, (Session.make action listener.isSome linked).1, listener⟩ :=
    (monitor?_append whole _ (by rw [made]) position).trans (if_pos here)
  have foundCopy : (alone.make setting action home listener).world.monitor? 0 =
      some ⟨setting, (Session.make action listener.isSome copy).1, listener⟩ :=
    (monitor?_append alone _ (by rw [madeCopy]) 0).trans (if_pos empty)
  refine ⟨⟨?_, ?_, ?_, ?_, ?_⟩, ?_⟩
  · simp [made, madeCopy, empty, here]
  · rw [found, foundCopy]
    exact .some ⟨rfl, session.symm.trans sessionCopy, rfl⟩
  · intro token isHome
    rw [making.aliveAt tokens_eq, makingCopy.aliveAt tokens_eq_copy]
    exact mirrors.alive token isHome
  · intro token
    rw [making.lists tokens_eq, makingCopy.lists tokens_eq_copy, mirrors.lists, empty, here]
    simp only [true_and]
    exact or_congr_right (and_congr_right fun isHome => by rw [mirrors.alive token isHome])
  · rintro token (listed | held)
    · rcases (making.lists tokens_eq).mp listed with before | ⟨_, isHome, _⟩
      · exact mirrors.own token (.inl before)
      · exact isHome
    · obtain ⟨link, holds⟩ := (World.holdsAt_iff found).mp held
      exact (making.linked_iff.mp ⟨link, Session.holds_make.mp holds⟩).1
  · rw [made, madeCopy]
    simp only [effectsOf_effects, if_pos here, if_pos empty]
    exact effects.symm.trans effectsCopy

/-- A command that concerns the session does the same to it in both worlds. -/
theorem obey_own (mirrors : Mirrors position home whole alone)
    (neighbours : Neighbours whole alone) (calm : command.disturbs = false)
    (own : command.concerns position home whole = true)
    (given : ∀ setting action token listener,
      command = .make setting action token listener → token = home) :
    Echoes position home (whole.obey command) (alone.obey command.alone) ∧
      (command.addressed = true →
        (whole.obey command).ending = (alone.obey command.alone).ending) := by
  -- an operation on a session that is in neither world does nothing in both
  have idle : Echoes position home (whole.still .absent) (alone.still .absent) ∧
      (command.addressed = true →
        (whole.still .absent).ending = (alone.still .absent).ending) :=
    ⟨⟨mirrors, rfl⟩, fun _ => rfl⟩
  cases command with
  | make setting action token listener =>
      obtain rfl := given setting action token listener rfl
      have here : whole.monitors.length = position := by simpa [WorldCommand.concerns] using own
      have made := mirrors.make here setting action listener
      exact ⟨made.map _ _, by simp [WorldCommand.addressed]⟩
  | perform number operation =>
      obtain rfl : number = position := by simpa [WorldCommand.concerns] using own
      rcases mirrors.both with ⟨absent, gone⟩ | ⟨monitor, other, found, isOther, alike⟩
      · simpa [WorldCommand.alone, obey, absent, gone] using idle
      · obtain ⟨echoes, ending⟩ := mirrors.perform neighbours found isOther alike operation
        rw [WorldCommand.alone, obey_perform found, obey_perform isOther]
        exact ⟨echoes.map _ _, fun _ => congrArg (Ending.map WorldAnswer.reply) ending⟩
  | drop number =>
      obtain rfl : number = position := by simpa [WorldCommand.concerns] using own
      rcases mirrors.both with ⟨absent, gone⟩ | ⟨monitor, other, found, isOther, alike⟩
      · simpa [WorldCommand.alone, obey, absent, gone] using idle
      · obtain ⟨echoes, ending⟩ := mirrors.drop neighbours found isOther alike
        rw [WorldCommand.alone, obey_drop found, obey_drop isOther]
        exact ⟨echoes.map _ _,
          fun _ => congrArg (Ending.map fun _ => WorldAnswer.dropped) ending⟩
  | notifyDeath token =>
      have isHome : home = some token := by simpa [WorldCommand.concerns] using own
      have died := mirrors.notifyDeath neighbours isHome
      obtain ⟨world_eq, happenings_eq⟩ := obey_notifyDeath whole token
      obtain ⟨copy_eq, copies_eq⟩ := obey_notifyDeath alone token
      exact ⟨died.congr world_eq (by rw [happenings_eq]) copy_eq (by rw [← copies_eq]; rfl),
        by simp [WorldCommand.addressed]⟩
  | watch processes token process =>
      have isHome : home = some token := by simpa [WorldCommand.concerns] using own
      have died := mirrors.notifyDeath neighbours isHome
      have watched := obey_watch whole processes token process
      have copied := obey_watch alone processes token process
      -- the token lives in both worlds or in neither, so both watchers find the same
      rw [mirrors.alive token isHome] at copied
      refine ⟨?_, by simp [WorldCommand.addressed]⟩
      split at watched
      · rename_i declared
        rw [if_pos declared] at copied
        exact died.congr watched.1 (watched.2 position) copied.1 (copied.2 0)
      · rename_i left
        rw [if_neg left] at copied
        exact idle.1.congr watched.1 (watched.2 position) copied.1 (copied.2 0)
  | unlink | setHal | setPreference => cases calm
  | setListener number listener =>
      obtain rfl : number = position := by simpa [WorldCommand.concerns] using own
      rcases mirrors.both with ⟨absent, gone⟩ | ⟨monitor, other, found, isOther, alike⟩
      · simpa [WorldCommand.alone, obey, absent, gone] using idle
      · simp only [WorldCommand.alone, obey, found, isOther]
        exact ⟨⟨mirrors.setListener found isOther alike listener, rfl⟩, fun _ => rfl⟩

end Mirrors

omit [HardwareAction Action] [ScopedAction Action] in
theorem Echoes.showing_eq {step copy : WorldStep Action WorldAnswer}
    (echoes : Echoes position home step copy)
    (ending : command.addressed = true → step.ending = copy.ending) :
    (WorldDeed.mk whole command step).showing position =
      (WorldDeed.mk alone command.alone copy).showing 0 := by
  have addressed : command.alone.addressed = command.addressed := by
    cases command <;> rfl
  have sameSession : (step.world.monitor? position).map (·.session.unnumbered) =
      (copy.world.monitor? 0).map (·.session.unnumbered) := by
    rcases echoes.mirrors.both with ⟨absent, gone⟩ | ⟨monitor, other, found, isOther, alike⟩
    · rw [absent, gone]
    · rw [found, isOther]
      exact congrArg some alike.session_eq
  unfold WorldDeed.showing
  rw [sameSession, echoes.effects_eq, addressed]
  split
  · rename_i isAddressed
    rw [ending isAddressed]
  · rfl

/-- A run with many sessions shows of one of them what the run with this session alone
shows, and what does not concern the session has nothing to do with it. -/
theorem Mirrors.showings_eq (mirrors : Mirrors position home whole alone)
    (neighbours : Neighbours whole alone) {commands : List (WorldCommand Action)}
    (calm : ∀ command ∈ commands, command.disturbs = false)
    (given : ∀ deed ∈ whole.deeds commands, deed.makes position = true →
      deed.command.given = home) :
    let own := (whole.deeds commands).filter (·.concerns position home)
    own.map (·.showing position) =
        (alone.deeds (own.map (·.command.alone))).map (·.showing 0) ∧
      ∀ deed ∈ whole.deeds commands, deed.concerns position home = false →
        deed.Passes position := by
  induction commands generalizing whole alone with
  | nil => simp [deeds]
  | cons command commands ih =>
      have isCalm := calm command List.mem_cons_self
      have calmLater := fun other member => calm other (List.mem_cons_of_mem command member)
      have givenLater := fun deed member => given deed (List.mem_cons_of_mem _ member)
      cases own : command.concerns position home whole with
      | true =>
          -- both worlds take the step
          have isGiven : ∀ setting action token listener,
              command = .make setting action token listener → token = home := by
            rintro setting action token listener rfl
            exact given _ List.mem_cons_self own
          obtain ⟨echoes, ending⟩ := mirrors.obey_own neighbours isCalm own isGiven
          obtain ⟨shown, passes⟩ := ih echoes.mirrors
            ((neighbours.obey_left isCalm).obey_right
              (command.disturbs_alone.trans isCalm)) calmLater givenLater
          refine ⟨?_, ?_⟩
          · simp only [deeds, WorldDeed.concerns, own, List.filter_cons, if_true,
              List.map_cons]
            exact congrArg₂ _ (echoes.showing_eq ending) shown
          · intro deed member apart
            rcases List.mem_cons.mp member with rfl | later
            · exact absurd own (by simpa [WorldDeed.concerns] using apart)
            · exact passes deed later apart
      | false =>
          -- only the larger world takes the step, and still mirrors the other one
          obtain ⟨stays, unchanged, nothing⟩ :=
            mirrors.obey_other neighbours.linked isCalm own
          obtain ⟨shown, passes⟩ := ih stays (neighbours.obey_left isCalm) calmLater givenLater
          refine ⟨?_, ?_⟩
          · simpa [deeds, WorldDeed.concerns, own] using shown
          · intro deed member apart
            rcases List.mem_cons.mp member with rfl | later
            · exact ⟨unchanged, nothing⟩
            · exact passes deed later apart

/-! ## Runs -/

omit [HardwareAction Action] [ScopedAction Action] in
theorem linked_opening (processes : List (Option UInt32)) (hal : Hal)
    (preferences : Preferences) : (opening processes hal preferences : World Action).Linked :=
  ⟨sound_fresh processes, tidy_fresh processes, holding_fresh processes⟩

omit [HardwareAction Action] [ScopedAction Action] in
/-- Before any session is made, a world mirrors itself. -/
theorem mirrors_opening (processes : List (Option UInt32)) (hal : Hal)
    (preferences : Preferences) (position : Nat) (home : Option Nat) :
    Mirrors position home (opening processes hal preferences : World Action)
      (opening processes hal preferences) := by
  have nobody : ∀ token number,
      ¬ (opening processes hal preferences : World Action).Lists token number := by
    rintro token number ⟨state, known, listed⟩
    obtain ⟨process, _, rfl⟩ := List.mem_map.mp (List.mem_of_getElem? known)
    cases listed
  have absent : (opening processes hal preferences : World Action).monitor? position = none :=
    rfl
  refine ⟨rfl, ?_, fun _ _ => rfl, fun token => iff_of_false (nobody token 0)
    (nobody token position), ?_⟩
  · rw [absent]
    exact .none
  · rintro token (listed | held)
    · exact absurd listed (nobody token position)
    · exact absurd held (not_holdsAt absent)

omit [ScopedAction Action] in
theorem not_makes_of_made {world : World Action} (made : position < world.monitors.length)
    (commands : List (WorldCommand Action)) :
    ∀ deed ∈ world.deeds commands, deed.makes position = false := by
  intro deed member
  have before := made_deeds made commands deed member
  unfold WorldDeed.makes
  split
  · simpa using Nat.ne_of_gt before
  · rfl

omit [ScopedAction Action] in
/-- A session is made once at most in a run. -/
theorem given_eq_homeOf (world : World Action) (commands : List (WorldCommand Action))
    (position : Nat) :
    ∀ deed ∈ world.deeds commands, deed.makes position = true →
      deed.command.given = homeOf position (world.deeds commands) := by
  induction commands generalizing world with
  | nil => simp [deeds]
  | cons command commands ih =>
      intro deed member makes
      cases first : (WorldDeed.mk world command (world.obey command)).makes position with
      | true =>
          rcases List.mem_cons.mp member with rfl | later
          · simp [homeOf, deeds, first]
          · -- the session exists from here on, and its position is taken
            have made : position < (world.obey command).world.monitors.length := by
              cases command with
              | make setting action token listener =>
                  obtain ⟨_, monitors, _⟩ := make_eq world setting action token listener
                  simp only [WorldDeed.makes, beq_iff_eq] at first
                  simp [obey, monitors, first]
              | _ => cases first
            exact absurd makes (by simp [not_makes_of_made made commands deed later])
      | false =>
          rcases List.mem_cons.mp member with rfl | later
          · exact absurd makes (by simp [first])
          · simp only [homeOf, deeds, List.find?_cons, first]
            exact ih _ deed later makes

/-- In every run from a fresh world in which the hardware answers all starts alike and all
stops with one code, the preferences stay as they are, and nobody but the sessions removes
links, each session shows the same answers, effects and states, deed by deed, as in the run
that keeps only its own making and operations and the deaths of the token that it was made
with; no other deed touches it or has it do anything. -/
theorem showings_eq_alone (processes : List (Option UInt32)) (start : HalAnswer)
    (code : Int32) (preferences : Preferences) {commands : List (WorldCommand Action)}
    (calm : ∀ command ∈ commands, command.disturbs = false) (position : Nat) :
    let world := opening processes (.steady start (.status code)) preferences
    let deeds := world.deeds commands
    let own := deeds.filter (·.concerns position (homeOf position deeds))
    own.map (·.showing position) =
        (world.deeds (own.map (·.command.alone))).map (·.showing 0) ∧
      ∀ deed ∈ deeds, deed ∉ own → deed.Passes position := by
  intro world deeds own
  have linked : world.Linked := linked_opening processes _ preferences
  have neighbours : Neighbours world world := ⟨linked, linked, rfl, rfl, start, code, rfl⟩
  obtain ⟨shown, passes⟩ :=
    (mirrors_opening processes _ preferences position (homeOf position deeds)).showings_eq
      neighbours calm (given_eq_homeOf world commands position)
  refine ⟨shown, ?_⟩
  intro deed member apart
  apply passes deed member
  simpa [own, member] using apart

omit [HardwareAction Action] [ScopedAction Action] in
/-- Two sessions are linked to one token, and the first is destroyed while the second
runs.  The second shows of its client's death what it shows when it is alone, although
its link has another number then. -/
theorem showings_eq_alone_shared_token :
    let setting : Setting := ⟨⟨10, 20, false, "owner", 42, 1⟩, .fingerprint, .standard true⟩
    let making : WorldCommand BuiltinAction := .make setting .enumerate (some 0) none
    let world : World BuiltinAction := opening [none] Hal.willing Preferences.empty
    let deeds := world.deeds [making, making, .perform 0 .start, .perform 1 .start,
      .perform 0 .destroy, .notifyDeath 0, .drop 1]
    let lone := world.deeds [making, .perform 0 .start, .notifyDeath 0, .drop 0]
    homeOf 1 deeds = some 0 ∧
      (deeds.filter (·.concerns 1 (some 0))).map (·.showing 1) = lone.map (·.showing 0) ∧
        deeds.map (fun deed => callsOf 1 deed.step.happenings) =
          [[], [], [], [.halStart setting.descriptor .enumerate (.status 0)], [],
            [.halStop false (.status 0)], []] ∧
          ((world.after [making, making]).monitor? 1).map (·.session.link) = some (some 2) ∧
            ((world.after [making]).monitor? 0).map (·.session.link) = some (some 1) := by
  intro setting making world deeds lone
  have calm : ∀ command ∈ [making, making, .perform 0 .start, .perform 1 .start,
      .perform 0 .destroy, .notifyDeath 0, .drop 1], command.disturbs = false := by decide
  obtain ⟨shown, _⟩ := showings_eq_alone [none] (.status 0) 0 Preferences.empty calm 1
  exact ⟨rfl, shown, by decide, rfl, rfl⟩

end Action

end World

end BiometricSession
