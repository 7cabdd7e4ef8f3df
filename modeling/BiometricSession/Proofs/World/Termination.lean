import BiometricSession.Proofs.Session.Soundness
import BiometricSession.Proofs.World.Life

/-!
# Termination is absorbing

A session ends when an event finishes it or when it is destroyed.  This file
proves that nothing undoes the end: in every run of a world, whatever the other
sessions, the clients and the collaborators do, at most one event finishes a
session, and once the session has ended it reaches no collaborator any more and
answers every operation the same way.  Giving the session up is no exception.
-/

namespace BiometricSession

namespace WorldDeed

variable {Action : Type}

/-- Whether a deed is an event that has finished the session at a position. -/
def finishes (position : Nat) (deed : WorldDeed Action) : Bool :=
  match deed.command, deed.step.ending with
  | .perform number (.callback _), .returned (.reply (.verdict true)) => number == position
  | _, _ => false

/-- Whether a deed has destroyed the session at a position. -/
def destroys (position : Nat) (deed : WorldDeed Action) : Bool :=
  match deed.command, deed.step.ending with
  | .perform number .destroy, .returned (.reply _) => number == position
  | _, _ => false

/-- The session at a position reaches no collaborator during a deed. -/
def Quiet (position : Nat) (deed : WorldDeed Action) : Prop :=
  ∀ effect ∈ World.effectsOf position deed.step.happenings, effect.callsOut = false

/-- If a deed is an operation on the session at a position, it is answered as by
a session that has ended. -/
def AnswersAsEnded (position : Nat) (deed : WorldDeed Action) : Prop :=
  ∀ operation, deed.command = .perform position operation →
    (deed.before.monitor? position).isSome = true →
      deed.step.ending = .returned (.reply operation.replyAfterEnd)

end WorldDeed

namespace Session

variable {Action : Type} [HardwareAction Action] {setting : Setting} {answers : Answers}
  {session : Session Action}

theorem Outcome.terminated_of_verdict {event : HardwareEvent} {step : Step Action Reply}
    (outcome : Outcome setting answers session (.callback event) step)
    (verdict : step.ending = .returned (.verdict true)) :
    step.session.phase = .terminated := by
  cases outcome with
  | finished => rfl
  | droppedAfterVerdict | droppedAfterDestroy | reactionBroken | continued =>
      simp at verdict

/-- An event that finishes a session ends it. -/
theorem terminated_of_verdict {event : HardwareEvent}
    (verdict : (session.perform setting answers (.callback event)).ending =
      .returned (.verdict true)) :
    (session.perform setting answers (.callback event)).session.phase = .terminated := by
  obtain ⟨step, outcome, performed⟩ :=
    perform_outcome setting answers session (.callback event)
  rw [performed] at verdict ⊢
  simpa using outcome.terminated_of_verdict (by simpa using verdict)

end Session

namespace World

variable {Action : Type} [HardwareAction Action] {position : Nat}

/-- The session at a position has ended, or has been given up since. -/
structure EndedAt (position : Nat) (world : World Action) : Prop where
  within : position < world.monitors.length
  sound : ∀ monitor, world.monitor? position = some monitor → monitor.session.Sound
  terminated : ∀ monitor, world.monitor? position = some monitor →
    monitor.session.phase = .terminated

theorem Follows.endedAt {kind : Operation → Prop} {before after : World Action}
    {happenings : List Happening} (follows : Follows kind position before happenings after)
    (ended : EndedAt position before) :
    EndedAt position after ∧
      ∀ effect ∈ effectsOf position happenings, effect.callsOut = false := by
  cases found : before.monitor? position with
  | none =>
      obtain ⟨absent, nothing⟩ := follows.absent found
      refine ⟨⟨follows.length_eq ▸ ended.within, ?_, ?_⟩, by simp [nothing]⟩ <;>
        simp [absent]
  | some monitor =>
      obtain ⟨later, life, present, _, course, effects, _⟩ := follows.present monitor found
      obtain ⟨stays, quiet⟩ := course.of_terminated (ended.terminated monitor found)
      have sound := course.sound (ended.sound monitor found)
      refine ⟨⟨follows.length_eq ▸ ended.within, ?_, ?_⟩, ?_⟩
      · intro other isOther
        obtain rfl := Option.some.inj (present.symm.trans isOther)
        exact sound
      · intro other isOther
        obtain rfl := Option.some.inj (present.symm.trans isOther)
        exact stays
      · rw [effects]
        intro effect member
        obtain ⟨deed, done, within⟩ := List.mem_flatMap.mp member
        exact quiet deed done effect within

omit [HardwareAction Action] in
theorem EndedAt.make {world : World Action} (ended : EndedAt position world)
    (setting : Setting) (action : Action) (token : Option Nat)
    (listener : Option Listener) :
    EndedAt position (world.make setting action token listener).world ∧
      ∀ effect ∈ effectsOf position (world.make setting action token listener).happenings,
        effect.callsOut = false := by
  obtain ⟨linked, monitors, happened⟩ := make_eq world setting action token listener
  have found := monitor?_append world _ monitors position
  have other : world.monitors.length ≠ position := Nat.ne_of_gt ended.within
  rw [if_neg other] at found
  rw [happened, effectsOf_effects, if_neg other]
  refine ⟨⟨?_, ?_, ?_⟩, by simp⟩
  · rw [monitors, List.length_append]
    exact Nat.lt_add_right _ ended.within
  · rw [found]
    exact ended.sound
  · rw [found]
    exact ended.terminated

theorem EndedAt.drop {world : World Action} (ended : EndedAt position world)
    {monitor : Monitor Action} (found : world.monitor? position = some monitor) :
    EndedAt position (world.drop position monitor).world ∧
      ∀ effect ∈ effectsOf position (world.drop position monitor).happenings,
        effect.callsOut = false := by
  have gone := monitor?_settle ended.within none
    (monitor.session.drop monitor.setting (world.answers monitor)).effects position
  simp only [World.drop]
  rw [effectsOf_effects, if_pos rfl]
  refine ⟨⟨by simpa [settle] using ended.within, ?_, ?_⟩, ?_⟩
  · simp [gone]
  · simp [gone]
  · exact Session.drop_of_terminated _ _ (ended.sound monitor found)
      (ended.terminated monitor found)

/-- Once a session has ended, no command changes that or lets the session reach
a collaborator. -/
theorem EndedAt.obey {world : World Action} (ended : EndedAt position world)
    (command : WorldCommand Action) :
    EndedAt position (world.obey command).world ∧
      ∀ effect ∈ effectsOf position (world.obey command).happenings,
        effect.callsOut = false := by
  by_cases makes : ∃ setting action token listener,
      command = .make setting action token listener
  · obtain ⟨setting, action, token, listener, rfl⟩ := makes
    exact ended.make setting action token listener
  by_cases drops : command = .drop position
  · subst drops
    cases found : world.monitor? position with
    | none => simpa [World.obey, found] using ended
    | some monitor => simpa [World.obey, found] using ended.drop found
  · have noMake : ∀ setting action token listener,
        command ≠ .make setting action token listener :=
      fun setting action token listener same => makes ⟨setting, action, token, listener, same⟩
    exact (obey_follows world command position noMake drops).endedAt ended

theorem EndedAt.answersAsEnded {world : World Action} (ended : EndedAt position world)
    (command : WorldCommand Action) :
    WorldDeed.AnswersAsEnded position ⟨world, command, world.obey command⟩ := by
  rintro operation rfl present
  obtain ⟨monitor, found⟩ := Option.isSome_iff_exists.mp present
  obtain ⟨_, _, answer⟩ := Session.perform_of_terminated monitor.setting
    (world.answers monitor) operation (ended.terminated monitor found)
  have found' : world.monitor? position = some monitor := found
  simp [World.obey, found', World.perform, answer, Ending.map]

theorem endedAt_of_perform {world : World Action} {monitor : Monitor Action}
    (found : world.monitor? position = some monitor) (sound : monitor.session.Sound)
    {operation : Operation}
    (terminated : (monitor.session.perform monitor.setting (world.answers monitor)
      operation).session.phase = .terminated) :
    EndedAt position (world.obey (.perform position operation)).world := by
  obtain ⟨listener, present⟩ := monitor?_perform found operation
  rw [obey_perform found, WorldStep.map_world]
  refine ⟨lt_length_of_monitor? present, ?_, ?_⟩
  · intro other isOther
    obtain rfl := Option.some.inj (present.symm.trans isOther)
    exact Session.sound_perform _ _ _ sound
  · intro other isOther
    obtain rfl := Option.some.inj (present.symm.trans isOther)
    exact terminated

theorem endedAt_of_finishes {world : World Action} {command : WorldCommand Action}
    (sound : ∀ monitor, world.monitor? position = some monitor → monitor.session.Sound)
    (finishes : WorldDeed.finishes position ⟨world, command, world.obey command⟩ = true) :
    EndedAt position (world.obey command).world := by
  unfold WorldDeed.finishes at finishes
  split at finishes
  · rename_i number event isCommand verdict
    obtain rfl : number = position := by simpa using finishes
    simp only at isCommand verdict
    subst isCommand
    cases found : world.monitor? number with
    | none => simp [World.obey, found, still] at verdict
    | some monitor =>
        refine endedAt_of_perform found (sound monitor found)
          (Session.terminated_of_verdict ?_)
        rw [obey_perform found] at verdict
        obtain ⟨answer, returned, isVerdict⟩ := Ending.map_eq_returned.mp verdict
        obtain rfl := WorldAnswer.reply.inj isVerdict
        exact returned
  · cases finishes

theorem endedAt_of_destroys {world : World Action} {command : WorldCommand Action}
    (sound : ∀ monitor, world.monitor? position = some monitor → monitor.session.Sound)
    (destroys : WorldDeed.destroys position ⟨world, command, world.obey command⟩ = true) :
    EndedAt position (world.obey command).world := by
  unfold WorldDeed.destroys at destroys
  split at destroys
  · rename_i number reply isCommand answer
    obtain rfl : number = position := by simpa using destroys
    simp only at isCommand answer
    subst isCommand
    cases found : world.monitor? number with
    | none => simp [World.obey, found, still] at answer
    | some monitor =>
        exact endedAt_of_perform found (sound monitor found)
          (Session.terminated_of_destroy (sound monitor found))
  · cases destroys

theorem EndedAt.not_finishes {world : World Action} (ended : EndedAt position world)
    (command : WorldCommand Action) :
    WorldDeed.finishes position ⟨world, command, world.obey command⟩ = false := by
  unfold WorldDeed.finishes
  split
  · rename_i number event isCommand verdict
    simp only at isCommand verdict
    subst isCommand
    apply beq_eq_false_iff_ne.mpr
    rintro rfl
    cases found : world.monitor? number with
    | none => simp [World.obey, found, still] at verdict
    | some monitor =>
        have answer := ended.answersAsEnded (.perform number (.callback event)) _ rfl
          (by simp [found])
        simp [verdict, Operation.replyAfterEnd] at answer
  · rfl

/-- Everything that is done after the end of a session leaves it ended. -/
theorem EndedAt.deeds {world : World Action} (ended : EndedAt position world)
    (commands : List (WorldCommand Action)) :
    ∀ deed ∈ world.deeds commands,
      deed.finishes position = false ∧ deed.Quiet position ∧
        deed.AnswersAsEnded position := by
  induction commands generalizing world with
  | nil => simp [World.deeds]
  | cons command commands ih =>
      obtain ⟨stays, quiet⟩ := ended.obey command
      intro deed member
      rcases List.mem_cons.mp member with rfl | later
      · exact ⟨ended.not_finishes command, quiet, ended.answersAsEnded command⟩
      · exact ih stays deed later

/-- After an event that has finished a session or the destruction of the
session, a run leaves it ended. -/
theorem deeds_after_end {processes : List (Option UInt32)}
    {commands : List (WorldCommand Action)} {earlier later : List (WorldDeed Action)}
    {ending : WorldDeed Action}
    (split : (fresh processes).deeds commands = earlier ++ ending :: later)
    (ends : ending.finishes position = true ∨ ending.destroys position = true) :
    ∀ deed ∈ later,
      deed.finishes position = false ∧ deed.Quiet position ∧
        deed.AnswersAsEnded position := by
  obtain ⟨first, second, _, _, before, step, rest⟩ := deeds_split split
  have sound : ∀ monitor, ending.before.monitor? position = some monitor →
      monitor.session.Sound := by
    rw [before]
    intro monitor found
    obtain ⟨_, _, sound⟩ :=
      (lived_run soundInvariant processes first position).present monitor found
    exact sound
  obtain ⟨world, command, done⟩ := ending
  simp only at step sound rest
  subst step
  have ended : EndedAt position (world.obey command).world := by
    rcases ends with finishes | destroys
    · exact endedAt_of_finishes sound finishes
    · exact endedAt_of_destroys sound destroys
  rw [rest]
  exact ended.deeds second

theorem countP_le_one {Item : Type} {holds : Item → Bool} {items : List Item}
    (once : ∀ earlier item later, items = earlier ++ item :: later →
      holds item = true → ∀ other ∈ later, holds other = false) :
    items.countP holds ≤ 1 := by
  induction items with
  | nil => simp
  | cons item items ih =>
      rw [List.countP_cons]
      cases held : holds item with
      | true =>
          have none : items.countP holds = 0 := by
            rw [List.countP_eq_zero]
            intro other member
            simp [once [] item items rfl held other member]
          simp [none]
      | false =>
          have rest := ih fun earlier other later split =>
            once (item :: earlier) other later (by rw [split, List.cons_append])
          simpa using rest

/-- In every run, at most one event finishes the session at a position.  Once an
event has finished it or it was destroyed, it reaches no collaborator any more,
and it answers that no event finishes it, that it is started already, and that
stopping succeeds. -/
theorem termination_absorbing (processes : List (Option UInt32))
    (commands : List (WorldCommand Action)) (position : Nat) :
    ((fresh processes).deeds commands).countP (·.finishes position) ≤ 1 ∧
      ∀ earlier ending later,
        (fresh processes).deeds commands = earlier ++ ending :: later →
          (ending.finishes position = true ∨ ending.destroys position = true) →
            ∀ deed ∈ later, deed.Quiet position ∧ deed.AnswersAsEnded position := by
  constructor
  · apply countP_le_one
    intro earlier ending later split finishes deed member
    exact (deeds_after_end split (.inl finishes) deed member).1
  · intro earlier ending later split ends deed member
    exact (deeds_after_end split ends deed member).2

/-- A session whose second delivery fails is finished by it; what follows is
started, stopped, reported, mourned, destroyed and given up in silence. -/
theorem termination_absorbing_failed_delivery :
    let opening : List (WorldCommand BuiltinAction) :=
      [.make ⟨⟨10, 20, false, "owner", 42, 1⟩, .fingerprint, .standard true⟩
          (.authenticate (.fresh 7 (.empty 6) 3)) (some 0)
          (some (.failingAfter (some 1) (.refused .channelClosed))),
        .perform 0 .start,
        .perform 0 (.callback (.result (.authenticated default false [])))]
    let last : WorldCommand BuiltinAction :=
      .perform 0 (.callback (.result (.authenticated default false [])))
    let closing : List (WorldCommand BuiltinAction) :=
      [.perform 0 .start, .perform 0 (.stop true), .perform 0 (.callback (.acquired 0 0)),
        .notifyDeath 0, .perform 0 .destroy, .drop 0]
    ∃ earlier ending later,
      (fresh [none]).deeds (opening ++ last :: closing) = earlier ++ ending :: later ∧
        ending.finishes 0 = true ∧ later.length = 6 ∧
          ∀ deed ∈ later, deed.Quiet 0 ∧ deed.AnswersAsEnded 0 := by
  intro opening last closing
  have split := deeds_append (fresh [none]) opening (last :: closing)
  have finishes : WorldDeed.finishes 0
      ⟨(fresh [none]).after opening, last, ((fresh [none]).after opening).obey last⟩ =
        true := by
    decide
  exact ⟨_, _, _, split, finishes, rfl,
    (termination_absorbing [none] (opening ++ last :: closing) 0).2 _ _ _ split
      (.inl finishes)⟩

end World

end BiometricSession
