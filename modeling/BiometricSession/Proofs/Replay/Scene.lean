import BiometricSession.Proofs.Replay.Lines
import BiometricSession.Proofs.World.Linked

/-!
# The scene of a replay

A replay has one session, which is alone in its world, a listener that may refuse a delivery
but never breaks one off, and hardware that answers every stop alike.  Operations and the
death of the client lead from one such scene to the next.

What the death still owes is counted on the way: a live token owes one message for each of
its links to the session, and one for each to a stranger.  No operation adds to the debt, and
the death, which pays it, leaves none.
-/

namespace BiometricSession

/-! ## What a death owes -/

/-- How often a token will tell the session of a replay, or a stranger, that its client has
died. -/
def ClientToken.owes (strangers : Nat → Bool) (token : ClientToken Nat) : Nat :=
  if token.alive then
    token.recipients.countP fun recipient => recipient == 0 || strangers recipient
  else
    0

theorem ClientToken.owes_without (strangers : Nat → Bool) (token : ClientToken Nat)
    (number : Nat) : (token.without number).owes strangers ≤ token.owes strangers := by
  unfold owes
  change (if token.alive then _ else _) ≤ _
  split
  · exact (List.filter_sublist.map _).countP_le
  · exact Nat.le_refl 0

namespace World

variable {Action : Type} {world : World Action}

/-- How often the session of a replay and strangers will be told that its client has
died. -/
def owed (world : World Action) : Nat :=
  world.tokens[0]?.elim 0 (ClientToken.owes world.strangers)

theorem owed_of_eq {after : World Action} (tokens_eq : after.tokens = world.tokens)
    (strangers_eq : after.strangers = world.strangers) : after.owed = world.owed := by
  rw [owed, owed, tokens_eq, strangers_eq]

theorem owed_of_released {after : World Action} {session : Session Action}
    (tokens_eq : after.tokens = world.released session)
    (strangers_eq : after.strangers = world.strangers) : after.owed ≤ world.owed := by
  unfold owed
  rw [tokens_eq, strangers_eq]
  by_cases holds : ∃ link, session.Holds 0 link
  · obtain ⟨link, holds⟩ := holds
    rw [released_of_holds holds]
    cases world.tokens[0]? with
    | none => exact Nat.le_refl 0
    | some token => exact token.owes_without world.strangers link
  · exact Nat.le_of_eq (by rw [released_of_not_holds (not_exists.mp holds)])

theorem owed_perform [HardwareAction Action] [ScopedAction Action] (world : World Action)
    (number : Nat) (monitor : Monitor Action) (operation : Operation) :
    (world.perform number monitor operation).world.owed ≤ world.owed := by
  have same := tokens_perform world number monitor operation
  by_cases destroys : operation = .destroy
  · rw [if_pos destroys] at same
    exact owed_of_released same rfl
  · rw [if_neg destroys] at same
    exact Nat.le_of_eq (owed_of_eq same rfl)

end World

/-! ## Answers -/

namespace Replay

variable {operation : Operation} {reply : Reply} {closing : ReplayLine}

/-- Every answer but the one to a death is shown. -/
theorem exists_answerLine (fits : operation.isAnsweredBy reply = true)
    (shown : ∀ clearListener, operation ≠ .clientDied clearListener) :
    ∃ closing, answerLine? operation reply = some closing := by
  cases operation with
  | clientDied clearListener => exact absurd rfl (shown clearListener)
  | start | stop | callback | destroy =>
      cases reply <;> first | exact ⟨_, rfl⟩ | cases fits

theorem notified_of_answer (answer : answerLine? operation reply = some closing) :
    closing.notified = 0 := by
  cases operation <;> cases reply <;> cases answer <;> rfl

theorem isIdle_of_answer (begun : operation ≠ .start)
    (answer : answerLine? operation operation.replyAfterEnd = some closing) :
    closing.isIdle = true := by
  cases operation with
  | start => contradiction
  | stop | callback | destroy | clientDied => cases answer <;> rfl

/-- Only a destruction and a finishing verdict show that the session has ended. -/
theorem eq_of_endsSession (answer : answerLine? operation reply = some closing)
    (ends : closing.endsSession = true) : operation = .destroy ∨ reply = .verdict true := by
  cases operation with
  | destroy => exact .inl rfl
  | callback event =>
      cases reply with
      | verdict finished =>
          obtain rfl := Option.some.inj answer
          exact .inr (congrArg Reply.verdict ends)
      | none | status => cases answer
  | start | stop | clientDied => cases reply <;> cases answer <;> cases ends

end Replay

/-! ## Scenes -/

/-- The world of a replay with its session. -/
structure Scene (descriptor : SessionDescriptor) (stopStatus : Int32)
    (world : World BuiltinAction) (monitor : Monitor BuiltinAction) : Prop where
  alone : world.monitors = [some monitor]
  sound : monitor.session.Sound
  descriptor_eq : monitor.setting.descriptor = descriptor
  calm : ∀ listener ∈ monitor.listener, ∀ told event, listener.answer told event ≠ .crash
  steady : ∃ start, world.hal = .steady start (.status stopStatus)

namespace Scene

variable {descriptor : SessionDescriptor} {stopStatus : Int32}
  {world : World BuiltinAction} {monitor : Monitor BuiltinAction}

theorem found (scene : Scene descriptor stopStatus world monitor) :
    world.monitor? 0 = some monitor := by
  simp [World.monitor?, scene.alone]

theorem absent (scene : Scene descriptor stopStatus world monitor) {position : Nat}
    (other : position ≠ 0) : world.monitor? position = none := by
  obtain ⟨position, rfl⟩ := Nat.exists_eq_succ_of_ne_zero other
  simp [World.monitor?, scene.alone]

theorem stops (scene : Scene descriptor stopStatus world monitor) :
    (world.answers monitor).stop = .status stopStatus := by
  obtain ⟨start, steady⟩ := scene.steady
  rw [World.answers, steady]
  rfl

theorem calm_answers (scene : Scene descriptor stopStatus world monitor) :
    (world.answers monitor).Calm := by
  intro earlier event
  cases present : monitor.listener with
  | none => simp [World.answers, present]
  | some listener => simpa [World.answers, present] using scene.calm listener present _ _

/-- The session of a scene comes through every operation after the start. -/
theorem plays (scene : Scene descriptor stopStatus world monitor) {operation : Operation}
    (begun : operation ≠ .start) :
    (monitor.session.perform monitor.setting (world.answers monitor) operation).Plays
      monitor.setting stopStatus operation :=
  Session.plays_perform scene.calm_answers scene.stops _ _ begun

theorem perform (scene : Scene descriptor stopStatus world monitor) (operation : Operation) :
    Scene descriptor stopStatus (world.perform 0 monitor operation).world
      (monitor.performed (world.answers monitor) operation) where
  alone := by
    simp only [World.perform, World.settle, scene.alone]
    rfl
  sound := Session.sound_perform _ _ operation scene.sound
  descriptor_eq := scene.descriptor_eq
  calm := by
    intro listener isListener
    obtain ⟨before, present, rfl⟩ := Option.map_eq_some_iff.mp isListener
    intro told event
    exact scene.calm before present told event
  steady := by
    obtain ⟨start, steady⟩ := scene.steady
    exact ⟨start, by simp only [World.perform, World.settle, steady, Hal.steady_after]⟩

/-- Its end lasts. -/
theorem terminated_performed (world : World BuiltinAction) (operation : Operation)
    (terminated : monitor.session.phase = .terminated) :
    (monitor.performed (world.answers monitor) operation).session.phase = .terminated :=
  (Session.perform_of_terminated _ _ operation terminated).1

theorem linesOf_perform (world : World BuiltinAction) (monitor : Monitor BuiltinAction)
    (operation : Operation) :
    Occurrence.linesOf (world.perform 0 monitor operation).happenings =
      Effect.lines (monitor.session.perform monitor.setting (world.answers monitor)
        operation).effects :=
  Occurrence.linesOf_effects 0 _ _

theorem linesOf_of_terminated (world : World BuiltinAction) (operation : Operation)
    (terminated : monitor.session.phase = .terminated) :
    Occurrence.linesOf (world.perform 0 monitor operation).happenings = [] := by
  rw [linesOf_perform]
  exact Effect.lines_of_callsOut (Session.perform_of_terminated _ _ operation terminated).2.1

end Scene

/-- A replay goes on from a scene to another by some lines and one that closes them. -/
structure Scene.Goes (descriptor : SessionDescriptor) (stopStatus : Int32)
    (world : World BuiltinAction) (monitor : Monitor BuiltinAction) (step : ReplayStep)
    (after : Monitor BuiltinAction) (effects : List ReplayLine) (closing : ReplayLine) :
    Prop where
  scene : Scene descriptor stopStatus step.world after
  lines_eq : step.lines = effects ++ [closing]
  owed_le : closing.notified + step.world.owed ≤ world.owed
  idle : monitor.session.phase = .terminated →
    effects = [] ∧ closing.isIdle = true ∧ after.session.phase = .terminated
  ends : closing.endsSession = true → after.session.phase = .terminated

namespace Scene

variable {descriptor : SessionDescriptor} {stopStatus : Int32}
  {world : World BuiltinAction} {monitor : Monitor BuiltinAction}

/-! ## Operations -/

theorem perform_eq (scene : Scene descriptor stopStatus world monitor) (operation : Operation) :
    Replay.perform operation world =
      Replay.report (world.perform 0 monitor operation) (Replay.answerLine? operation) := by
  simp only [Replay.perform, scene.found]

/-- After the start, a replay shows of every operation its effects and one line with the
answer. -/
theorem goes_perform (scene : Scene descriptor stopStatus world monitor)
    {operation : Operation} (begun : operation ≠ .start)
    (shown : ∀ clearListener, operation ≠ .clientDied clearListener) :
    ∃ after effects closing,
      Goes descriptor stopStatus world monitor (Replay.perform operation world) after effects
        closing ∧
      (∀ line ∈ effects, operation.shows descriptor stopStatus line) ∧
      ∃ reply, Replay.answerLine? operation reply = some closing := by
  have plays := scene.plays begun
  obtain ⟨reply, ended, fits⟩ := plays.answers
  obtain ⟨closing, answer⟩ := Replay.exists_answerLine fits shown
  refine ⟨monitor.performed (world.answers monitor) operation, _, closing, ⟨?_, ?_, ?_, ?_, ?_⟩,
    scene.descriptor_eq ▸ plays.shows, reply, answer⟩
  · rw [scene.perform_eq]
    exact scene.perform operation
  · have returned : (world.perform 0 monitor operation).ending = .returned reply := ended
    rw [scene.perform_eq, Replay.lines_report_of_returned returned, linesOf_perform, answer]
    rfl
  · rw [scene.perform_eq, Replay.notified_of_answer answer, Nat.zero_add]
    exact World.owed_perform world 0 monitor operation
  · intro terminated
    have afterEnd := (Session.perform_of_terminated monitor.setting (world.answers monitor)
      operation terminated).2.2
    obtain rfl := Ending.returned.inj (ended.symm.trans afterEnd)
    refine ⟨?_, Replay.isIdle_of_answer begun answer,
      terminated_performed world operation terminated⟩
    rw [← linesOf_perform, linesOf_of_terminated world operation terminated]
  · intro ends
    rcases Replay.eq_of_endsSession answer ends with rfl | rfl
    · have destroyed : (monitor.session.perform monitor.setting (world.answers monitor)
          .destroy).session.phase = .terminated := Session.terminated_of_destroy scene.sound
      exact destroyed
    · exact plays.ends ended

/-! ## The death of the client -/

/-- Each link to the session tells it once; those to strangers only count. -/
theorem tellAll (scene : Scene descriptor stopStatus world monitor)
    (links : List (DeathLink Nat)) :
    let told := World.tellAll links world
    ∃ after, Scene descriptor stopStatus told.world after ∧
      (∀ line ∈ Occurrence.linesOf told.happenings, line = .halStop false stopStatus) ∧
      told.ending = .returned ((links.map (·.recipient)).countP
        fun recipient => recipient == 0 || world.strangers recipient) ∧
      (monitor.session.phase = .terminated →
        Occurrence.linesOf told.happenings = [] ∧ after.session.phase = .terminated) := by
  induction links generalizing world monitor with
  | nil => exact ⟨monitor, scene, by simp [World.tellAll], rfl, fun terminated =>
      ⟨rfl, terminated⟩⟩
  | cons link links ih =>
      -- the session is the only one in the world whom a link could tell
      by_cases own : link.recipient = 0
      · have begun : Operation.clientDied true ≠ .start := nofun
        have plays := scene.plays begun
        obtain ⟨reply, ended, _⟩ := plays.answers
        obtain ⟨after, later, shows, counted, idle⟩ := ih (scene.perform (.clientDied true))
        have first : (world.perform 0 monitor (.clientDied true)).ending = .returned reply :=
          ended
        have told : World.tellAll (link :: links) world =
            let first := world.perform 0 monitor (.clientDied true)
            let rest := World.tellAll links first.world
            ⟨rest.world, first.happenings ++ rest.happenings, rest.ending.map (· + 1)⟩ := by
          rw [World.tellAll, own]
          simp only [scene.found, first]
        rw [told]
        dsimp only
        refine ⟨after, later, ?_, ?_, ?_⟩
        · rw [Occurrence.linesOf_append, linesOf_perform]
          intro line member
          rcases List.mem_append.mp member with now | rest
          · exact plays.shows line now
          · exact shows line rest
        · have strangers_eq : (world.perform 0 monitor (.clientDied true)).world.strangers =
              world.strangers := rfl
          rw [counted, strangers_eq]
          simp [Ending.map, own]
        · intro terminated
          obtain ⟨silent, stays⟩ :=
            idle (terminated_performed world (.clientDied true) terminated)
          refine ⟨?_, stays⟩
          rw [Occurrence.linesOf_append, linesOf_of_terminated world _ terminated, silent]
          rfl
      · have told : World.tellAll (link :: links) world =
            (World.tellAll links world).map
              (· + (world.strangers link.recipient).toNat) := by
          simp only [World.tellAll, scene.absent own]
        obtain ⟨after, later, shows, counted, idle⟩ := ih scene
        rw [told]
        refine ⟨after, later, shows, ?_, idle⟩
        rw [WorldStep.map_ending, counted]
        cases stranger : world.strangers link.recipient <;>
          simp [Ending.map, own, stranger]

/-- The client's death shows at most that the operation is cancelled, and pays what it
owes. -/
theorem goes_clientDeath (scene : Scene descriptor stopStatus world monitor) :
    ∃ after effects notified,
      Goes descriptor stopStatus world monitor (Replay.clientDeath world) after effects
        (.clientDied notified) ∧
      ∀ line ∈ effects, line = .halStop false stopStatus := by
  rcases World.notifyDeath_cases world 0 with ⟨state, known, alive, told⟩ | ⟨_, nothing⟩
  · have bereft : Scene descriptor stopStatus (world.bereft 0 state) monitor :=
      ⟨scene.alone, scene.sound, scene.descriptor_eq, scene.calm, scene.steady⟩
    obtain ⟨after, later, shows, counted, idle⟩ := bereft.tellAll state.links
    have lines := Replay.lines_report_of_returned counted
      fun notified => some (.clientDied notified)
    have tokens := World.tokens_tellAll state.links (world.bereft 0 state)
    have shares := World.shares_tellAll state.links (world.bereft 0 state)
    refine ⟨after, _,
      state.recipients.countP fun recipient => recipient == 0 || world.strangers recipient,
      ⟨?_, ?_, ?_, ?_, (absurd · Bool.false_ne_true)⟩, shows⟩
    · simpa [Replay.clientDeath, told] using later
    · rw [Replay.clientDeath, told]
      exact lines
    · rw [Replay.clientDeath, told, Replay.world_report,
        World.owed_of_eq tokens shares.strangers_eq]
      -- a dead token owes nothing, and telling its sessions changes no token
      have paid : (world.bereft 0 state).owed = 0 := by
        simp [World.owed, World.bereft, World.getElem?_set_known known, ClientToken.owes,
          ClientToken.dead]
      rw [paid, World.owed, known]
      simp [ClientToken.owes, alive, ReplayLine.notified, ClientToken.recipients]
    · intro terminated
      obtain ⟨silent, stays⟩ := idle terminated
      exact ⟨silent, rfl, stays⟩
  · refine ⟨monitor, [], 0, ⟨?_, ?_, ?_, fun terminated => ⟨rfl, rfl, terminated⟩,
      (absurd · Bool.false_ne_true)⟩, by simp⟩
    · simpa [Replay.clientDeath, nothing] using scene
    · rw [Replay.clientDeath, nothing, Replay.lines_report_of_returned rfl]
      rfl
    · simp [Replay.clientDeath, nothing, ReplayLine.notified]

end Scene

end BiometricSession
