import BiometricSession.Proofs.Action.Telling
import BiometricSession.Proofs.Session.Teardown
import BiometricSession.Proofs.World.Lifetime
import BiometricSession.Proofs.World.Past
import BiometricSession.Proofs.World.Rightful

/-!
# Leaked sessions

A session that is given up reports that it was leaked if it still holds its token and is
not finished.  This file connects what the session holds at that moment to its whole past.
It lets go of its token by being destroyed and by handling its client's death, and in no
other way: whether it could be linked at all, and whether somebody has removed its link
since, has no say in that.
-/

namespace BiometricSession

/-! ## Letting go of the client -/

namespace Session

variable {Action : Type}

/-- Between two moments, a session has kept its token, its link and its listener. -/
structure StaysAttached (before after : Session Action) : Prop extends Keeps before after where
  listening_eq : after.listening = before.listening

/-- Between two moments, a session has let go of its token if it was to, and has stayed
attached to its client otherwise. -/
structure LetsGoIf (letGo : Prop) (before after : Session Action) : Prop where
  token_none : letGo → after.token = none
  attached : ¬ letGo → before.StaysAttached after

variable {letGo more : Prop} {before between after session : Session Action}

theorem LetsGoIf.refl (session : Session Action) : session.LetsGoIf False session where
  token_none := False.elim
  attached _ := ⟨⟨rfl, rfl⟩, rfl⟩

theorem LetsGoIf.trans (front : before.LetsGoIf letGo between)
    (back : between.LetsGoIf more after) : before.LetsGoIf (letGo ∨ more) after where
  token_none := by
    by_cases last : more
    · exact fun _ => back.token_none last
    · rintro (first | second)
      · rw [(back.attached last).token_eq, front.token_none first]
      · exact absurd second last
  attached stays := by
    obtain ⟨notFirst, notLast⟩ := not_or.mp stays
    have first := front.attached notFirst
    have second := back.attached notLast
    exact ⟨⟨second.token_eq.trans first.token_eq, second.link_eq.trans first.link_eq⟩,
      second.listening_eq.trans first.listening_eq⟩

theorem LetsGoIf.congr (letsGo : before.LetsGoIf letGo after) (same : letGo ↔ more) :
    before.LetsGoIf more after :=
  (propext same) ▸ letsGo

/-- A session holds its token at the end exactly if it held it and was not to let go. -/
theorem LetsGoIf.token_isSome_iff (letsGo : before.LetsGoIf letGo after) :
    after.token.isSome = true ↔ before.token.isSome = true ∧ ¬ letGo := by
  by_cases gone : letGo
  · simp [letsGo.token_none gone, gone]
  · simp [(letsGo.attached gone).token_eq, gone]

theorem Cancelling.staysAttached {answers : Answers} {byClient : Bool} {step : Step Action Int32}
    (cancelling : Cancelling answers session byClient step) :
    session.StaysAttached step.session := by
  refine ⟨cancelling.keeps, ?_⟩
  cases cancelling <;> rfl

end Session

/-- Whether an operation that had some effects was to let go of the session's token: it has
destroyed the session, or the session has handled its client's death. -/
def Operation.LetsGo (operation : Operation) (effects : List Effect) : Prop :=
  operation = .destroy ∨ operation.isEvent = false ∧ .notice .clientDied ∈ effects

/-- Whether an effect is a stop that the hardware has broken off. -/
def Effect.isBrokenStop : Effect → Bool
  | halStop _ (.crash _) => true
  | _ => false

namespace Session

variable {Action : Type} [HardwareAction Action] {setting : Setting} {answers : Answers}
  {session : Session Action} {operation : Operation}

omit [HardwareAction Action] in
theorem no_death_in_recovery (session : Session Action) :
    .notice .clientDied ∉ session.recovery := by
  unfold recovery
  split <;> simp

omit [HardwareAction Action] in
theorem Cancelling.no_death {byClient : Bool} {step : Step Action Int32}
    (cancelling : Cancelling answers session byClient step) :
    .notice .clientDied ∉ step.effects := by
  cases cancelling <;> simp

theorem Outcome.letsGo {step : Step Action Reply}
    (outcome : Outcome setting answers session operation step)
    (unbroken : step.effects.any (·.isBrokenStop) = false) :
    session.LetsGoIf (operation.LetsGo step.effects) step.session := by
  have stays {effects : List Effect} {after : Session Action}
      (attached : session.StaysAttached after) (holds : ¬ operation.LetsGo effects) :
      session.LetsGoIf (operation.LetsGo effects) after :=
    ⟨fun letGo => absurd letGo holds, fun _ => attached⟩
  cases outcome with
  | startIgnored | startBroken | startAccepted | startRefused | diedAfterDestroy =>
      exact stays ⟨⟨rfl, rfl⟩, rfl⟩ (by simp [Operation.LetsGo])
  | droppedAfterVerdict | droppedAfterDestroy | reactionBroken | finished | continued =>
      exact stays ⟨⟨rfl, rfl⟩, rfl⟩ (by simp [Operation.LetsGo, Operation.isEvent])
  | stopped cancelling =>
      exact stays cancelling.staysAttached
        (by simp [Operation.LetsGo, cancelling.no_death])
  | deathBroken standing cancelling =>
      cases cancelling with
      | broken live first answer =>
          simp [Effect.isBrokenStop] at unbroken
  | deathHandled =>
      exact ⟨fun _ => rfl, fun kept => absurd (.inr ⟨rfl, List.mem_cons_self⟩) kept⟩
  | destroyed =>
      refine ⟨fun _ => rfl, fun kept => absurd (.inl rfl) kept⟩

/-- An operation during which the hardware breaks off no stop lets go of the session's
token exactly if it is to. -/
theorem letsGo_perform (setting : Setting) (answers : Answers) (session : Session Action)
    (operation : Operation)
    (unbroken : (session.perform setting answers operation).effects.any (·.isBrokenStop) = false) :
    session.LetsGoIf
      (operation.LetsGo (session.perform setting answers operation).effects)
      (session.perform setting answers operation).session := by
  obtain ⟨step, outcome, performed⟩ := perform_outcome setting answers session operation
  rw [performed, locked_effects] at unbroken ⊢
  rw [List.any_append, Bool.or_eq_false_iff] at unbroken
  have letsGo := outcome.letsGo unbroken.2
  have same : operation.LetsGo step.effects ↔
      operation.LetsGo (session.recovery ++ step.effects) := by
    simp [Operation.LetsGo, session.no_death_in_recovery]
  refine LetsGoIf.congr ⟨by simpa using letsGo.token_none, ?_⟩ same
  intro kept
  have attached := letsGo.attached kept
  exact ⟨attached.toKeeps.locked, by simpa using attached.listening_eq⟩

end Session

/-- A session that hears of deaths of its client only lets go of its token exactly if it
handles one. -/
theorem Course.letsGo_of_deaths {Action : Type} [HardwareAction Action] {setting : Setting}
    {first last : Session Action} {life : List SessionDeed}
    (course : Course setting first life last)
    (deaths : ∀ deed ∈ life, deed.operation = .clientDied true)
    (unbroken : (life.flatMap (·.effects)).any (·.isBrokenStop) = false) :
    first.LetsGoIf (.notice .clientDied ∈ life.flatMap (·.effects)) last := by
  induction course with
  | start => exact (Session.LetsGoIf.refl first).congr (by simp)
  | @perform middle life course answers operation ih =>
      rw [List.forall_mem_append] at deaths
      obtain rfl : operation = .clientDied true := deaths.2 _ (List.mem_singleton.mpr rfl)
      rw [List.flatMap_append, List.flatMap_singleton] at unbroken ⊢
      rw [List.any_append, Bool.or_eq_false_iff] at unbroken
      have now := Session.letsGo_perform setting answers middle (.clientDied true) unbroken.2
      refine ((ih deaths.1 unbroken.1).trans now).congr ?_
      simp [Operation.LetsGo, Operation.isEvent, SessionDeed.of]

/-! ## Letting go in a run -/

namespace WorldDeed

variable {Action : Type}

/-- The session at a position handles its client's death during a deed; a session that was
destroyed before would not. -/
def handlesDeath (position : Nat) (deed : WorldDeed Action) : Bool :=
  !deed.command.isEvent &&
    (World.effectsOf position deed.step.happenings).contains (.notice .clientDied)

/-- The session at a position is destroyed or handles its client's death during a deed. -/
def LetsGo (position : Nat) (deed : WorldDeed Action) : Prop :=
  deed.destroys position = true ∨ deed.handlesDeath position = true

/-- The hardware breaks off a stop for which the session at a position asks during a
deed. -/
def breaksStop (position : Nat) (deed : WorldDeed Action) : Bool :=
  (World.effectsOf position deed.step.happenings).any (·.isBrokenStop)

end WorldDeed

namespace World

variable {Action : Type} [HardwareAction Action] {world : World Action} {position : Nat}

theorem letsGo_deed_perform {monitor : Monitor Action}
    (present : world.monitor? position = some monitor) (operation : Operation) :
    operation.LetsGo (monitor.session.perform monitor.setting (world.answers monitor)
        operation).effects ↔
      WorldDeed.LetsGo position
        ⟨world, .perform position operation, world.obey (.perform position operation)⟩ := by
  rw [obey_perform present]
  simp only [WorldDeed.LetsGo, WorldDeed.handlesDeath, WorldDeed.destroys, Operation.LetsGo,
    WorldCommand.isEvent, perform, WorldStep.map_happenings, WorldStep.map_ending,
    effectsOf_effects, if_true]
  cases operation with
  | destroy =>
      have returned := (monitor.session.destroy_returned monitor.setting
        (world.answers monitor)).1
      simp [returned, Ending.map]
  | _ => simp

theorem letsGo_deed_elsewhere {command : WorldCommand Action}
    (noPerform : ∀ operation, command ≠ .perform position operation) :
    .notice .clientDied ∈ effectsOf position (world.obey command).happenings ↔
      WorldDeed.LetsGo position ⟨world, command, world.obey command⟩ := by
  simp only [WorldDeed.LetsGo, WorldDeed.handlesDeath]
  cases command with
  | perform number operation =>
      have other : number ≠ position := fun same => noPerform operation (by rw [same])
      have spared : WorldDeed.destroys position
          ⟨world, .perform number operation, world.obey (.perform number operation)⟩ =
            false := by
        unfold WorldDeed.destroys
        split
        · rename_i isCommand _
          obtain ⟨rfl, _⟩ := WorldCommand.perform.inj isCommand
          exact beq_eq_false_iff_ne.mpr other
        · rfl
      simp [(obey_perform_other world other operation).2, spared]
  | _ => simp [WorldDeed.destroys, WorldCommand.isEvent]

/-- A command lets the session at a position go of its token exactly if it is to. -/
theorem letsGo_obey {command : WorldCommand Action} {monitor later : Monitor Action}
    (present : world.monitor? position = some monitor)
    (found : (world.obey command).world.monitor? position = some later)
    (unbroken : WorldDeed.breaksStop position ⟨world, command, world.obey command⟩ = false) :
    later.setting = monitor.setting ∧
      monitor.session.LetsGoIf
        (WorldDeed.LetsGo position ⟨world, command, world.obey command⟩) later.session := by
  rcases obey_cases world command position with
    ⟨setting, action, token, listener, rfl⟩ | rfl | follows
  · obtain ⟨same, nothing⟩ :=
      make_other (lt_length_of_monitor? present) setting action token listener
    obtain rfl : monitor = later :=
      Option.some.inj (present.symm.trans (same.symm.trans found))
    refine ⟨rfl, (Session.LetsGoIf.refl _).congr ?_⟩
    simp [WorldDeed.LetsGo, WorldDeed.destroys, WorldDeed.handlesDeath, obey, nothing]
  · rw [obey_drop present, WorldStep.map_world, drop,
      monitor?_settle (lt_length_of_monitor? present), if_pos rfl] at found
    cases found
  -- a command that does not ask the session for an operation can at most report its
  -- client's death
  by_cases here : ∃ operation, command = .perform position operation
  · obtain ⟨operation, rfl⟩ := here
    rw [WorldDeed.breaksStop, effectsOf_obey_perform present] at unbroken
    rw [obey_perform present, WorldStep.map_world, monitor?_performed present] at found
    obtain rfl := Option.some.inj found
    have letsGo := Session.letsGo_perform _ _ _ operation unbroken
    exact ⟨rfl, letsGo.congr (letsGo_deed_perform present operation)⟩
  · obtain ⟨other, life, isLater, sameSetting, course, shows, deaths⟩ :=
      (follows.elsewhere fun operation same => here ⟨operation, same⟩).present monitor present
    obtain rfl := Option.some.inj (isLater.symm.trans found)
    rw [WorldDeed.breaksStop, shows] at unbroken
    refine ⟨sameSetting, (course.letsGo_of_deaths deaths unbroken).congr ?_⟩
    rw [← shows]
    exact letsGo_deed_elsewhere fun operation same => here ⟨operation, same⟩

/-- From the time that it is made, a session lets go of its token exactly if it is to. -/
theorem letsGo_after {monitor later : Monitor Action} {commands : List (WorldCommand Action)}
    (present : world.monitor? position = some monitor)
    (found : (world.after commands).monitor? position = some later)
    (unbroken : ∀ deed ∈ world.deeds commands, deed.breaksStop position = false) :
    later.setting = monitor.setting ∧
      monitor.session.LetsGoIf (∃ deed ∈ world.deeds commands, deed.LetsGo position)
        later.session := by
  induction commands generalizing world monitor with
  | nil =>
      obtain rfl := Option.some.inj (present.symm.trans found)
      exact ⟨rfl, (Session.LetsGoIf.refl _).congr (by simp [deeds])⟩
  | cons command commands ih =>
      simp only [deeds, List.forall_mem_cons] at unbroken
      cases between : (world.obey command).world.monitor? position with
      | none =>
          have made := made_obey (lt_length_of_monitor? present) command
          have gone := (nothing_after_absence made between commands).1
          cases gone.symm.trans found
      | some middle =>
          obtain ⟨sameSetting, now⟩ := letsGo_obey present between unbroken.1
          obtain ⟨sameLater, rest⟩ := ih between found unbroken.2
          exact ⟨sameLater.trans sameSetting, (now.trans rest).congr (by simp [deeds])⟩

end World

/-! ## The report of a leak -/

/-- A delivery that the listener does not break off comes to an end. -/
theorem Scope.deliverOrNote_returned (scope : Scope) {event : ListenerEvent}
    {earlier : List ListenerEvent} (answered : scope.answers.delivery earlier event ≠ .crash) :
    ∃ failed, (scope.deliverOrNote event earlier).ending = .returned failed := by
  rw [deliverOrNote_eq]
  cases scope.listening with
  | false => exact ⟨false, rfl⟩
  | true =>
      cases answer : scope.answers.delivery earlier event with
      | sent => exact ⟨false, rfl⟩
      | refused error => exact ⟨true, rfl⟩
      | crash => exact absurd answer answered

namespace Session

variable {Action : Type} [HardwareAction Action] (setting : Setting) (answers : Answers)
  {session : Session Action}

/-- The event by which the client hears that its session was leaked. -/
def leakEvent (setting : Setting) : ListenerEvent :=
  .error setting.descriptor.device ErrorCode.hardwareUnavailable 0 setting.descriptor.cookie

omit [HardwareAction Action] in
theorem calls_leaked_opening (session : Session Action) :
    (Effect.notice .leaked :: session.unlinking answers .leakUnlinkFailed).filter
      (·.callsOut) = [] := by
  rw [List.filter_eq_nil_iff]
  intro effect member
  rcases List.mem_cons.mp member with rfl | unlinked
  · simp [Effect.callsOut]
  · simp [unlinking_callsOut unlinked]

/-- A session that still holds its token and is not finished reports when it is given up
that the hardware is unavailable. -/
theorem drop_leaked (held : session.token.isSome = true) (undone : session.done = false) :
    (session.drop setting answers).effects.filter (·.callsOut) =
        .errorMetric (HardwareAction.kind session.action) ErrorCode.hardwareUnavailable 0
            setting.descriptor.targetUser ::
          (session.scope setting answers).told [] (leakEvent setting) ∧
      (answers.delivery [] (leakEvent setting) ≠ .crash →
        (session.drop setting answers).ending = .returned ()) := by
  obtain ⟨token, isHeld⟩ := Option.isSome_iff_exists.mp held
  unfold drop
  simp only [isHeld, undone, Bool.false_eq_true, if_false]
  constructor
  · rw [List.filter_append, calls_leaked_opening, List.nil_append]
    exact Scope.calls_reportError _ _ _ _ _ []
  · intro answered
    obtain ⟨failed, returned⟩ :=
      (session.scope setting answers).deliverOrNote_returned answered
    change (Scope.reportError _ _ _ _ _ []).ending = _
    rw [Scope.reportError_eq]
    exact congrArg (Ending.map fun _ => ()) returned

/-- A session that has let go of its token or is finished reports nothing when it is given
up. -/
theorem drop_settled (settled : ¬(session.token.isSome = true ∧ session.done = false)) :
    (session.drop setting answers).effects.filter (·.callsOut) = [] ∧
      (session.drop setting answers).ending = .returned () := by
  unfold drop
  cases held : session.token with
  | none => exact ⟨rfl, rfl⟩
  | some token =>
      have done : session.done = true := by simpa [held] using settled
      simp only [done, if_true]
      exact ⟨session.calls_leaked_opening answers, trivial⟩

end Session

namespace World

variable {Action : Type} [HardwareAction Action] {world : World Action} {position : Nat}

omit [HardwareAction Action] in
/-- A new session holds a token exactly if it was given one, alive or dead. -/
theorem Making.token_isSome_iff {token : Option Nat}
    {linked : Option (Nat × Except TokenError Nat)} {tokens : List (ClientToken Nat)}
    (making : Making world token linked tokens) (action : Action) (listening : Bool) :
    (Session.make action listening linked).1.token.isSome = true ↔
      ∃ number, token = some number ∧ number < world.tokens.length := by
  cases making with
  | unlinked unknown =>
      constructor
      · intro held
        cases held
      · rintro ⟨number, isGiven, within⟩
        have missing := List.getElem?_eq_none_iff.mp (unknown number isGiven)
        exact absurd within (Nat.not_lt.mpr missing)
  | @refused number state isGiven known gone | @linked number state isGiven known alive =>
      exact iff_of_true rfl ⟨number, isGiven, (List.getElem?_eq_some_iff.mp known).1⟩

/-- A session that has not ended yet is later found with its token and unfinished exactly if
it held a token then, and nothing since has ended it or let it handle its client's death. -/
theorem leaked_iff {monitor later : Monitor Action} {commands : List (WorldCommand Action)}
    (sound : world.Sound) (present : world.monitor? position = some monitor)
    (live : monitor.session.phase ≠ .terminated)
    (found : (world.after commands).monitor? position = some later)
    (unbroken : ∀ deed ∈ world.deeds commands, deed.breaksStop position = false) :
    later.session.token.isSome = true ∧ later.session.done = false ↔
      monitor.session.token.isSome = true ∧
        ∀ deed ∈ world.deeds commands,
          deed.Spares position ∧ deed.handlesDeath position = false := by
  have soundLater := sound.after commands position later found
  have held := (letsGo_after present found unbroken).2.token_isSome_iff
  constructor
  · rintro ⟨holds, undone⟩
    obtain ⟨given, kept⟩ := held.mp holds
    have standing : later.session.destroyed = false := by
      cases destroyed : later.session.destroyed with
      | false => rfl
      | true => simp [(soundLater.destroyed_bare destroyed).1] at holds
    have alive : later.session.phase ≠ .terminated := by
      simp [soundLater.terminated_iff, undone, standing]
    refine ⟨given, ?_⟩
    intro deed member
    have unended : ¬(deed.finishes position = true ∨ deed.destroys position = true) :=
      fun ends => alive ((endedAt_of_deed sound member ends).terminated later found)
    exact ⟨by simpa [WorldDeed.Spares] using unended,
      Bool.eq_false_iff.mpr fun death => kept ⟨deed, member, .inr death⟩⟩
  · rintro ⟨given, spared⟩
    have kept : ¬∃ deed ∈ world.deeds commands, deed.LetsGo position := by
      rintro ⟨deed, member, destroys | death⟩
      · simp [(spared deed member).1.2] at destroys
      · simp [(spared deed member).2] at death
    refine ⟨held.mpr ⟨given, kept⟩, ?_⟩
    cases done : later.session.done with
    | false => rfl
    | true =>
        obtain ⟨before, isBefore, ended⟩ := ended_before_or_by_deed found
          (soundLater.terminated_iff.mpr (.inl done)) fun deed member => (spared deed member).1
        obtain rfl := Option.some.inj (present.symm.trans isBefore)
        exact absurd ended live

omit [HardwareAction Action] in
/-- Removing the link that a session holds takes no link of another session away. -/
theorem released_keeps_others {monitor : Monitor Action} (rightful : world.Rightful)
    (found : world.monitor? position = some monitor) {number : Nat} {state : ClientToken Nat}
    (known : world.tokens[number]? = some state) :
    ∃ after, (world.released monitor.session)[number]? = some after ∧
      after.alive = state.alive ∧
        ∀ link ∈ state.links, link.recipient ≠ position → link ∈ after.links := by
  by_cases holds : ∃ link, monitor.session.Holds number link
  · obtain ⟨link, holds⟩ := holds
    refine ⟨state.without link, by rw [released_of_holds holds, known, Option.map_some],
      rfl, ?_⟩
    intro entry listed other
    have foreign : entry.number ≠ link := fun same => other
      ((rightful position monitor number link found holds).own state entry known listed same)
    exact List.mem_filter.mpr ⟨listed, by simpa using foreign⟩
  · exact ⟨state, by rw [released_of_not_holds (not_exists.mp holds), known], rfl,
      fun _ listed _ => listed⟩

/-- A session that was made is leaked, should it be given up now, exactly if it was given a
token and nothing since has ended it or let it handle its client's death; then its listener
is still attached. -/
theorem made_leaked (sound : world.Sound) (setting : Setting) (action : Action)
    (token : Option Nat) (listener : Option Listener) (commands : List (WorldCommand Action))
    {later : Monitor Action} :
    let making := WorldCommand.make setting action token listener
    let position := world.monitors.length
    let deeds := world.deeds (making :: commands)
    (world.after (making :: commands)).monitor? position = some later →
      (∀ deed ∈ deeds, deed.breaksStop position = false) →
        later.setting = setting ∧
          (later.session.token.isSome = true → later.session.listening = listener.isSome) ∧
            (later.session.token.isSome = true ∧ later.session.done = false ↔
              (∃ number, token = some number ∧ number < world.tokens.length) ∧
                ∀ deed ∈ deeds, deed.Spares position ∧ deed.handlesDeath position = false) := by
  intro making position deeds found unbroken
  obtain ⟨linked, tokens, isMaking, made⟩ := World.making world setting action token listener
  have present : (world.obey making).world.monitor? position =
      some ⟨setting, (Session.make action listener.isSome linked).1, listener⟩ := by
    change (world.make setting action token listener).world.monitor? position = _
    rw [made, monitor?_append world _ rfl, if_pos rfl]
  have spared : WorldDeed.Spares position ⟨world, making, world.obey making⟩ ∧
      WorldDeed.handlesDeath position ⟨world, making, world.obey making⟩ = false := by
    refine ⟨⟨rfl, rfl⟩, ?_⟩
    simp only [WorldDeed.handlesDeath, making, obey, WorldStep.map_happenings, made,
      effectsOf_effects]
    rcases linked with _ | ⟨number, error | link⟩ <;> simp [Session.make]
  have since := (List.forall_mem_cons.mp unbroken).2
  obtain ⟨sameSetting, letsGo⟩ := letsGo_after present found since
  have leaked := leaked_iff (sound.obey making) present (by simp [Session.make_phase]) found
    since
  refine ⟨sameSetting, ?_, ?_⟩
  · intro held
    have kept := (letsGo.token_isSome_iff.mp held).2
    have attached := (letsGo.attached kept).listening_eq
    rcases linked with _ | ⟨number, error | link⟩ <;> exact attached
  · rw [leaked, isMaking.token_isSome_iff]
    simp only [deeds, World.deeds, List.forall_mem_cons, spared, true_and, and_true]

/-- The report of a leak is exact.  Whatever happens in a run, as long as the hardware breaks
off no stop of the session: when the session is given up, the metrics and the listener, if
one is attached, hear that the hardware is unavailable exactly if the session was given a
token when it was made, and since then no event has finished it, it was not destroyed, and it
has not handled its client's death; otherwise nobody hears anything.  What the listener
answers changes nothing, and of the links of all tokens at most the session's own is
removed. -/
theorem leak_report_is_exact [ScopedAction Action] (processes : List (Option UInt32))
    (opening commands : List (WorldCommand Action)) (setting : Setting) (action : Action)
    (token : Option Nat) (listener : Option Listener)
    {earlier later : List (WorldDeed Action)} {deed : WorldDeed Action}
    {monitor : Monitor Action} :
    let world := (fresh processes).after opening
    let position := world.monitors.length
    let leaked := (∃ number, token = some number ∧ number < world.tokens.length) ∧
      ∀ past ∈ earlier, past.Spares position ∧ past.handlesDeath position = false
    let event := ListenerEvent.error setting.descriptor.device ErrorCode.hardwareUnavailable 0
      setting.descriptor.cookie
    let answer := (deed.before.answers monitor).delivery [] event
    world.deeds (.make setting action token listener :: commands) =
        earlier ++ deed :: later →
      deed.command = .drop position → deed.before.monitor? position = some monitor →
        (∀ past ∈ earlier, past.breaksStop position = false) →
          (leaked → callsOf position deed.step.happenings =
            .errorMetric (HardwareAction.kind monitor.session.action)
                ErrorCode.hardwareUnavailable 0 setting.descriptor.targetUser ::
              if listener.isSome then [.delivery event answer] else []) ∧
            (¬ leaked → callsOf position deed.step.happenings = []) ∧
              ((leaked → answer ≠ .crash) → deed.step.ending = .returned .dropped) ∧
                deed.step.world =
                    { deed.before with
                      tokens := deed.before.released monitor.session
                      monitors := deed.before.monitors.set position none } ∧
                  ∀ (number : Nat) (state : ClientToken Nat),
                    deed.before.tokens[number]? = some state →
                      ∃ after, deed.step.world.tokens[number]? = some after ∧
                        after.alive = state.alive ∧
                          ∀ link ∈ state.links, link.recipient ≠ position →
                            link ∈ after.links := by
  intro world position leaked event answer split drops found unbroken
  -- the session is made by the first command, and given up by a later one
  obtain ⟨first, second, same, rfl, before, step, _⟩ := deeds_split split
  rcases first with _ | ⟨making, first⟩
  · rw [drops] at same
    cases same
  obtain ⟨rfl, -⟩ := List.cons.inj same
  have rightful : deed.before.Rightful := by
    rw [before]
    exact ((rightful_fresh processes).after (sound_fresh processes) (tidy_fresh processes)
      opening).after ((sound_fresh processes).after opening)
        ((tidy_fresh processes).after opening) _
  obtain ⟨sameSetting, attached, isLeaked⟩ := made_leaked
    ((sound_fresh processes).after opening) setting action token listener first
    (before ▸ found) unbroken
  rw [step, drops, obey_drop found, WorldStep.map_world, WorldStep.map_happenings,
    WorldStep.map_ending]
  have unasked : deed.before.hal.after
      (monitor.session.drop monitor.setting (deed.before.answers monitor)).effects =
        deed.before.hal :=
    deed.before.hal.after_eq_self fun effect member =>
      Effect.silent_of_hardwareCalls (Session.hardwareCalls_drop ..) member
  have changed : (deed.before.drop position monitor).world =
      { deed.before with
        tokens := deed.before.released monitor.session
        monitors := deed.before.monitors.set position none } := by
    rw [← tokens_drop deed.before position monitor]
    simp only [drop, settle, unasked]
  have shown : callsOf position (deed.before.drop position monitor).happenings =
      (monitor.session.drop monitor.setting (deed.before.answers monitor)).effects.filter
        (·.callsOut) := by
    rw [callsOf, drop, effectsOf_effects, if_pos rfl]
  rw [changed, shown]
  refine ⟨?_, ?_, ?_, rfl, fun number state => released_keeps_others rightful found⟩
  · intro isLeak
    obtain ⟨held, undone⟩ := isLeaked.mpr isLeak
    rw [(Session.drop_leaked monitor.setting _ held undone).1, sameSetting]
    simp only [Scope.told, Session.scope, attached held]
    rfl
  · intro noLeak
    exact (Session.drop_settled _ _ (isLeaked.not.mpr noLeak)).1
  · intro answered
    by_cases isLeak : leaked
    · obtain ⟨held, undone⟩ := isLeaked.mpr isLeak
      have returned := (Session.drop_leaked monitor.setting (deed.before.answers monitor)
        held undone).2 (sameSetting ▸ answered isLeak)
      exact congrArg _ returned
    · have returned := (Session.drop_settled monitor.setting (deed.before.answers monitor)
        (isLeaked.not.mpr isLeak)).2
      exact congrArg _ returned

/-- Two sessions share a token, and somebody else removes the link of the second.  When that
is given up after its start, it reports the leak to a listener that does not take it, and the
token lists the first session as before. -/
theorem leak_report_is_exact_unlinked :
    let setting : Setting := ⟨⟨10, 20, false, "owner", 42, 7⟩, .fingerprint, .standard true⟩
    let action : BuiltinAction := .enumerate
    let listener : Listener := .failingAfter (some 0) (.refused .channelClosed)
    let world := (fresh [none]).after [.make setting action (some 0) none]
    let commands :=
      [.make setting action (some 0) (some listener), .perform 1 .start, .unlink 0 2]
    let earlier := world.deeds commands
    let before := world.after commands
    let event := ListenerEvent.error 7 ErrorCode.hardwareUnavailable 0 42
    (∀ past ∈ earlier, past.breaksStop 1 = false) ∧
      callsOf 1 (before.obey (.drop 1)).happenings =
        [.errorMetric .enumerate ErrorCode.hardwareUnavailable 0 10,
          .delivery event (.refused .channelClosed)] ∧
        (before.obey (.drop 1)).ending = .returned .dropped ∧
          ∃ state, (before.obey (.drop 1)).world.tokens[0]? = some state ∧
            ⟨1, 0⟩ ∈ state.links := by
  intro setting action listener world commands earlier before event
  have split : world.deeds (commands ++ [.drop 1]) =
      earlier ++ [⟨before, .drop 1, before.obey (.drop 1)⟩] := rfl
  have unbroken : ∀ past ∈ earlier, past.breaksStop 1 = false := by decide
  have leaked : ∀ past ∈ earlier, past.Spares 1 ∧ past.handlesDeath 1 = false := by decide
  have report := leak_report_is_exact [none] [.make setting action (some 0) none]
    [.perform 1 .start, .unlink 0 2, .drop 1] setting action (some 0) (some listener)
    split rfl rfl unbroken
  obtain ⟨reported, _, returned, _, others⟩ := report
  refine ⟨unbroken, reported ⟨⟨0, rfl, by decide⟩, leaked⟩,
    returned fun _ => by decide, ?_⟩
  obtain ⟨state, known, _, kept⟩ := others 0 _ rfl
  exact ⟨state, known, kept ⟨1, 0⟩ (by decide) (by decide)⟩

end World

end BiometricSession
