import BiometricSession.Proofs.Replay.Scene
import Mathlib.Data.List.Forall2

/-!
# The blocks of a replay

The lines of a replay can be read event by event.  Each event has a block of its own, which
ends with the one line that answers the event; before that stand the effects of the event,
and in front of them what is shown if the client's process is found gone.  A replay goes on
from scene to scene by such blocks.

Once the session has ended, every further block is only its last line, so that no verdict
finishes the session twice; and the deaths that are shown never tell more recipients than
the client's death owes.
-/

namespace BiometricSession

namespace ScriptEvent

/-- The lines that may be shown of an event before the one that closes it. -/
def shows (script : ReplayScript) (cookie : Int32) (event : ScriptEvent)
    (line : ReplayLine) : Prop :=
  match event.operation? script.session with
  | some operation =>
      operation.shows (script.session.descriptor cookie) script.hal.stopStatus line
  | none => line = .halStop false script.hal.stopStatus

/-- Whether a line is the last that is shown of an event. -/
def isClosedBy : ScriptEvent → ReplayLine → Bool
  | acquired .., .verdict .acquired _ | error .., .verdict .error _
  | enrollResult .., .verdict .enrollResult _ | authenticated .., .verdict .authenticated _
  | removed .., .verdict .removed _ | enumerated .., .verdict .enumerationResult _
  | stop _, .status .stop _ | clientDied, .clientDied _ | destroy, .destroyed => true
  | _, _ => false

theorem isEffect_of_shows {script : ReplayScript} {cookie : Int32} {event : ScriptEvent}
    {line : ReplayLine} (shown : event.shows script cookie line) : line.isEffect = true := by
  unfold shows at shown
  split at shown
  · exact Operation.isEffect_of_shows shown
  · rw [shown]
    rfl

/-- An event stands for an operation after the start whose answer is shown. -/
theorem operation?_ne {event : ScriptEvent} {spec : SessionSpec} {operation : Operation}
    (asks : event.operation? spec = some operation) :
    operation ≠ .start ∧ ∀ clearListener, operation ≠ .clientDied clearListener := by
  cases event <;> cases asks <;> exact ⟨nofun, nofun⟩

theorem isClosedBy_of_answer {event : ScriptEvent} {spec : SessionSpec} {operation : Operation}
    {reply : Reply} {closing : ReplayLine} (asks : event.operation? spec = some operation)
    (answer : Replay.answerLine? operation reply = some closing) :
    event.isClosedBy closing = true := by
  cases event <;> cases asks <;> cases reply <;> cases answer <;> rfl

end ScriptEvent

/-! ## Blocks -/

/-- The lines that a replay shows of one event of its script. -/
structure EventLines where
  /-- What is shown before the event if the client's process is found gone. -/
  probe : List ReplayLine
  effects : List ReplayLine
  closing : ReplayLine

namespace EventLines

def lines (block : EventLines) : List ReplayLine :=
  block.probe ++ (block.effects ++ [block.closing])

/-- A block accounts for an event: it ends with the line that answers the event, and shows
nothing before it but the event's own effects and the death of a client that is gone. -/
structure Accounts (script : ReplayScript) (cookie : Int32) (event : ScriptEvent)
    (block : EventLines) : Prop where
  probe : block.probe = [] ∨ ∃ stops notified,
    block.probe = stops ++ [.clientDied notified] ∧
      ∀ line ∈ stops, line = .halStop false script.hal.stopStatus
  effects : ∀ line ∈ block.effects, event.shows script cookie line
  closing : event.isClosedBy block.closing = true

/-- A block shows nothing but what closes it, and that as a session does which has ended. -/
structure Bare (block : EventLines) : Prop where
  probe : block.probe = [] ∨ ∃ notified, block.probe = [.clientDied notified]
  effects : block.effects = []
  closing : block.closing.isIdle = true

variable {script : ReplayScript} {cookie : Int32} {event : ScriptEvent} {block : EventLines}

/-- A line of a block belongs to the death of a client that is gone, is an effect of the event,
or answers it. -/
theorem Accounts.line_cases (accounts : block.Accounts script cookie event) {line : ReplayLine}
    (member : line ∈ block.lines) :
    line = .halStop false script.hal.stopStatus ∨ (∃ notified, line = .clientDied notified) ∨
      event.shows script cookie line ∨ event.isClosedBy line = true := by
  rcases List.mem_append.mp member with probed | rest
  · rcases accounts.probe with nothing | ⟨stops, notified, gone, cancels⟩
    · rw [nothing] at probed
      cases probed
    · rw [gone] at probed
      rcases List.mem_append.mp probed with isStop | isDeath
      · exact .inl (cancels line isStop)
      · exact .inr (.inl ⟨notified, List.mem_singleton.mp isDeath⟩)
  · rcases List.mem_append.mp rest with shown | closes
    · exact .inr (.inr (.inl (accounts.effects line shown)))
    · rw [List.mem_singleton.mp closes]
      exact .inr (.inr (.inr accounts.closing))

/-- Only its last line can show that the session is finished. -/
theorem Accounts.countP_finishes (accounts : block.Accounts script cookie event) :
    block.lines.countP (·.finishes) = block.closing.finishes.toNat := by
  have probe : block.probe.countP (·.finishes) = 0 := by
    rw [List.countP_eq_zero]
    rcases accounts.probe with nothing | ⟨stops, notified, gone, cancels⟩
    · simp [nothing]
    · intro line member
      rw [gone] at member
      rcases List.mem_append.mp member with isStop | isDeath
      · rw [cancels line isStop]
        nofun
      · rw [List.mem_singleton.mp isDeath]
        nofun
  have effects : block.effects.countP (·.finishes) = 0 := by
    rw [List.countP_eq_zero]
    intro line member
    have isEffect := ScriptEvent.isEffect_of_shows (accounts.effects line member)
    simp [ReplayLine.finishes_of_isEffect isEffect]
  rw [lines, List.countP_append, List.countP_append, probe, effects, List.countP_singleton]
  cases block.closing.finishes <;> rfl

theorem Bare.countP_finishes (bare : block.Bare) : block.lines.countP (·.finishes) = 0 := by
  have last := ReplayLine.finishes_of_isIdle bare.closing
  rcases bare.probe with nothing | ⟨notified, gone⟩
  · simp [lines, nothing, bare.effects, last]
  · have died : (ReplayLine.clientDied notified).finishes = false := rfl
    simp [lines, gone, bare.effects, last, died]

/-- Every block is that of an event. -/
theorem exists_accounted {events : List ScriptEvent} {blocks : List EventLines}
    (accounts : List.Forall₂ (Accounts script cookie) events blocks) (member : block ∈ blocks) :
    ∃ event, block.Accounts script cookie event := by
  induction accounts with
  | nil => cases member
  | cons first _ ih =>
      rcases List.mem_cons.mp member with rfl | later
      · exact ⟨_, first⟩
      · exact ih later

/-- A script that destroys the session has a block which shows that. -/
theorem exists_destroyed {events : List ScriptEvent} {blocks : List EventLines}
    (accounts : List.Forall₂ (Accounts script cookie) events blocks)
    (destroys : .destroy ∈ events) : ∃ block ∈ blocks, block.closing = .destroyed := by
  induction accounts with
  | nil => cases destroys
  | @cons event block events blocks first _ ih =>
      rcases List.mem_cons.mp destroys with rfl | later
      · refine ⟨block, List.mem_cons_self, ?_⟩
        have closes := first.closing
        cases closing : block.closing with
        | destroyed => rfl
        | _ =>
            rw [closing] at closes
            cases closes
      · obtain ⟨other, member, destroyed⟩ := ih later
        exact ⟨other, List.mem_cons_of_mem _ member, destroyed⟩

/-- If every block after the end is bare, the session is finished once at most. -/
theorem countP_finishes_le {events : List ScriptEvent} {blocks : List EventLines}
    (accounts : List.Forall₂ (Accounts script cookie) events blocks)
    (endures : blocks.Pairwise fun block later =>
      block.closing.endsSession = true → later.Bare) :
    (blocks.flatMap (·.lines)).countP (·.finishes) ≤ 1 := by
  induction accounts with
  | nil => simp
  | @cons event block events blocks first rest ih =>
      obtain ⟨bare, endures⟩ := List.pairwise_cons.mp endures
      rw [List.flatMap_cons, List.countP_append, first.countP_finishes]
      cases finishes : block.closing.finishes with
      | false => simpa using ih endures
      | true =>
          -- the session has ended, and no bare block finishes it again
          have later : (blocks.flatMap (·.lines)).countP (·.finishes) = 0 := by
            rw [List.countP_flatMap, List.sum_eq_zero_iff_forall_eq_nat]
            intro count member
            obtain ⟨other, isLater, rfl⟩ := List.mem_map.mp member
            have ended := ReplayLine.endsSession_of_finishes finishes
            exact (bare other isLater ended).countP_finishes
          rw [later]
          exact Nat.le_refl 1

end EventLines

/-! ## One event -/

namespace Scene

/-- A replay goes on from a scene by the block of one event. -/
structure Accounted (script : ReplayScript) (cookie : Int32) (world : World BuiltinAction)
    (monitor : Monitor BuiltinAction) (event : ScriptEvent) (step : ReplayStep)
    (after : Monitor BuiltinAction) (block : EventLines) : Prop where
  scene : Scene (script.session.descriptor cookie) script.hal.stopStatus step.world after
  lines_eq : step.lines = block.lines
  accounts : block.Accounts script cookie event
  owed_le : (block.lines.map (·.notified)).sum + step.world.owed ≤ world.owed
  bare : monitor.session.phase = .terminated →
    block.Bare ∧ after.session.phase = .terminated
  ends : block.closing.endsSession = true → after.session.phase = .terminated

variable {script : ReplayScript} {cookie : Int32} {world : World BuiltinAction}
  {monitor : Monitor BuiltinAction}

theorem goes_happen
    (scene : Scene (script.session.descriptor cookie) script.hal.stopStatus world monitor)
    (event : ScriptEvent) :
    ∃ after effects closing,
      Goes (script.session.descriptor cookie) script.hal.stopStatus world monitor
        (Replay.happen script.session event world) after effects closing ∧
      (∀ line ∈ effects, event.shows script cookie line) ∧
      event.isClosedBy closing = true := by
  cases asks : event.operation? script.session with
  | some operation =>
      obtain ⟨begun, shown⟩ := ScriptEvent.operation?_ne asks
      obtain ⟨after, effects, closing, goes, shows, reply, answer⟩ :=
        scene.goes_perform begun shown
      refine ⟨after, effects, closing, ?_, ?_, ScriptEvent.isClosedBy_of_answer asks answer⟩
      · simpa only [Replay.happen, asks] using goes
      · simpa only [ScriptEvent.shows, asks] using shows
  | none =>
      obtain rfl : event = .clientDied := by
        cases event <;> first | rfl | cases asks
      cases tokens : world.tokens with
      | nil =>
          refine ⟨monitor, [], .clientDied 0, ⟨?_, ?_, ?_, fun terminated =>
            ⟨rfl, rfl, terminated⟩, nofun⟩, by simp, rfl⟩
          · simpa only [Replay.happen, asks, tokens] using scene
          · simp only [Replay.happen, asks, tokens]
            rfl
          · simp [Replay.happen, asks, tokens, ReplayLine.notified]
      | cons token tokens =>
          obtain ⟨after, effects, notified, goes, cancels⟩ := scene.goes_clientDeath
          refine ⟨after, effects, .clientDied notified, ?_, ?_, rfl⟩
          · simpa only [Replay.happen, asks, tokens] using goes
          · simpa only [ScriptEvent.shows, asks] using cancels

theorem checkOwner_cases (processes : ProcessTable) (owner : Option UInt32)
    (world : World BuiltinAction) :
    Replay.checkOwner processes owner world = ⟨world, []⟩ ∨
      ∃ record, Replay.checkOwner processes owner world =
        ⟨(Replay.clientDeath world).world,
          .logged record :: (Replay.clientDeath world).occurrences⟩ := by
  unfold Replay.checkOwner
  split
  · split
    · exact .inr ⟨_, rfl⟩
    · exact .inl rfl
    · exact .inl rfl
  · exact .inl rfl

/-- A look at the client's process leads from a scene to another, and shows nothing or the
death of the client. -/
structure Looked (descriptor : SessionDescriptor) (stopStatus : Int32)
    (world : World BuiltinAction) (monitor : Monitor BuiltinAction) (look : ReplayStep)
    (after : Monitor BuiltinAction) : Prop where
  scene : Scene descriptor stopStatus look.world after
  probe : look.lines = [] ∨ ∃ stops notified, look.lines = stops ++ [.clientDied notified] ∧
    ∀ line ∈ stops, line = .halStop false stopStatus
  owed_le : (look.lines.map (·.notified)).sum + look.world.owed ≤ world.owed
  bare : monitor.session.phase = .terminated →
    (look.lines = [] ∨ ∃ notified, look.lines = [.clientDied notified]) ∧
      after.session.phase = .terminated

theorem looked
    (scene : Scene (script.session.descriptor cookie) script.hal.stopStatus world monitor)
    (processes : ProcessTable) (owner : Option UInt32) :
    ∃ after, Looked (script.session.descriptor cookie) script.hal.stopStatus world monitor
      (Replay.checkOwner processes owner world) after := by
  rcases checkOwner_cases processes owner world with nothing | ⟨record, gone⟩
  · rw [nothing]
    exact ⟨monitor, scene, .inl rfl, by simp, fun terminated => ⟨.inl rfl, terminated⟩⟩
  · obtain ⟨after, stops, notified, goes, cancels⟩ := scene.goes_clientDeath
    have cancelled : (stops.map (·.notified)).sum = 0 :=
      ReplayLine.sum_notified fun line member => by
        rw [cancels line member]
        rfl
    have lines : (Replay.checkOwner processes owner world).lines =
        stops ++ [.clientDied notified] := by
      rw [gone]
      exact goes.lines_eq
    rw [gone] at lines ⊢
    refine ⟨after, goes.scene, .inr ⟨stops, notified, lines, cancels⟩, ?_, ?_⟩
    · have owed := goes.owed_le
      rw [lines]
      simpa [cancelled] using owed
    · intro terminated
      obtain ⟨rfl, _, ended⟩ := goes.idle terminated
      exact ⟨.inr ⟨notified, lines⟩, ended⟩

/-- What happens after the look completes a block of the event. -/
theorem Looked.accounted {look : ReplayStep} {between after : Monitor BuiltinAction}
    (looked : Looked (script.session.descriptor cookie) script.hal.stopStatus world monitor look
      between)
    {event : ScriptEvent} {effects : List ReplayLine} {closing : ReplayLine}
    (goes : Goes (script.session.descriptor cookie) script.hal.stopStatus look.world between
      (Replay.happen script.session event look.world) after effects closing)
    (shows : ∀ line ∈ effects, event.shows script cookie line)
    (closes : event.isClosedBy closing = true) :
    Accounted script cookie world monitor event
      (look.andThen (Replay.happen script.session event)) after
      ⟨look.lines, effects, closing⟩ := by
  have untold := ReplayLine.sum_notified fun line member =>
    ScriptEvent.isEffect_of_shows (shows line member)
  refine ⟨goes.scene, ?_, ⟨looked.probe, shows, closes⟩, ?_, ?_, goes.ends⟩
  · rw [ReplayStep.lines_andThen, goes.lines_eq]
    rfl
  · have first := looked.owed_le
    have second := goes.owed_le
    simp only [EventLines.lines, List.map_append, List.sum_append, List.map_cons, List.map_nil,
      List.sum_cons, List.sum_nil, untold, ReplayStep.world_andThen]
    omega
  · intro terminated
    obtain ⟨bare, ended⟩ := looked.bare terminated
    obtain ⟨silent, idle, stays⟩ := goes.idle ended
    exact ⟨⟨bare, silent, idle⟩, stays⟩

/-- A replay shows one block of every event. -/
theorem accounted
    (scene : Scene (script.session.descriptor cookie) script.hal.stopStatus world monitor)
    (processes : ProcessTable) (owner : Option UInt32) (event : ScriptEvent) :
    ∃ after block,
      Accounted script cookie world monitor event
        ((Replay.checkOwner processes owner world).andThen
          (Replay.happen script.session event)) after block := by
  obtain ⟨between, looked⟩ := scene.looked processes owner
  obtain ⟨after, effects, closing, goes, shows, closes⟩ := looked.scene.goes_happen event
  exact ⟨after, _, looked.accounted goes shows closes⟩

/-! ## All events -/

/-- A replay goes on from a scene by the blocks of some events. -/
structure Played (script : ReplayScript) (cookie : Int32) (world : World BuiltinAction)
    (monitor : Monitor BuiltinAction) (events : List ScriptEvent) (step : ReplayStep)
    (after : Monitor BuiltinAction) (blocks : List EventLines) : Prop where
  scene : Scene (script.session.descriptor cookie) script.hal.stopStatus step.world after
  lines_eq : step.lines = blocks.flatMap (·.lines)
  accounts : List.Forall₂ (EventLines.Accounts script cookie) events blocks
  owed_le : ((blocks.flatMap (·.lines)).map (·.notified)).sum + step.world.owed ≤ world.owed
  bare : monitor.session.phase = .terminated →
    (∀ block ∈ blocks, block.Bare) ∧ after.session.phase = .terminated
  ends : ∀ block ∈ blocks, block.closing.endsSession = true →
    after.session.phase = .terminated
  endures : blocks.Pairwise fun block later => block.closing.endsSession = true → later.Bare

theorem played
    (scene : Scene (script.session.descriptor cookie) script.hal.stopStatus world monitor)
    (processes : Nat → ProcessTable) (owner : Option UInt32) (events : List ScriptEvent) :
    ∃ after blocks,
      Played script cookie world monitor events
        (Replay.happenAll owner script.session processes events world) after blocks := by
  induction events generalizing processes world monitor with
  | nil =>
      exact ⟨monitor, [], scene, rfl, .nil, by simp [Replay.happenAll], fun terminated =>
        ⟨by simp, terminated⟩, by simp, .nil⟩
  | cons event events ih =>
      -- the other events begin on the scene that the first one leaves
      obtain ⟨between, block, first⟩ := scene.accounted (processes 0) owner event
      obtain ⟨after, blocks, rest⟩ := ih first.scene fun look => processes (look + 1)
      refine ⟨after, block :: blocks, rest.scene, ?_, .cons first.accounts rest.accounts, ?_, ?_,
        ?_, ?_⟩
      · rw [Replay.happenAll, ReplayStep.lines_andThen, first.lines_eq, rest.lines_eq]
        rfl
      · have before := first.owed_le
        have later := rest.owed_le
        rw [List.flatMap_cons, List.map_append, List.sum_append]
        simp only [Replay.happenAll, ReplayStep.world_andThen] at later before ⊢
        omega
      · intro terminated
        obtain ⟨bare, ended⟩ := first.bare terminated
        obtain ⟨others, stays⟩ := rest.bare ended
        exact ⟨List.forall_mem_cons.mpr ⟨bare, others⟩, stays⟩
      · intro other member ends
        rcases List.mem_cons.mp member with rfl | later
        · exact (rest.bare (first.ends ends)).2
        · exact rest.ends other later ends
      · exact List.pairwise_cons.mpr
          ⟨fun later member ends => (rest.bare (first.ends ends)).1 later member, rest.endures⟩

end Scene

end BiometricSession
