import BiometricSession.Proofs.Replay.Blocks

/-!
# A replay accounts for every event

A replay begins with the start of its session and shows what the hardware answers.  Then it
shows a block for every event of the script, in order, and in the end that the session is
destroyed, unless the script has destroyed it.  Giving the session up shows nothing more.
-/

namespace BiometricSession

namespace SessionSpec

theorem kind_request (spec : SessionSpec) (config : MonitorConfig) :
    (spec.action config).request.kind = spec.kind := by
  unfold action
  cases spec.kind <;> rfl

end SessionSpec

namespace World

variable {Action : Type} {world : World Action}

/-- A new session is linked to its client's token once at most. -/
theorem owed_making {given : Option Nat} {linked : Option (Nat × Except TokenError Nat)}
    {tokens : List (ClientToken Nat)} (making : Making world given linked tokens)
    {after : World Action} (tokens_eq : after.tokens = tokens)
    (strangers_eq : after.strangers = world.strangers) : after.owed ≤ world.owed + 1 := by
  cases making with
  | unlinked | refused =>
      rw [owed_of_eq tokens_eq strangers_eq]
      exact Nat.le_succ _
  | @linked number state isGiven known alive =>
      rw [owed, owed, tokens_eq, strangers_eq, getElem?_set_known known]
      by_cases first : 0 = number
      · subst first
        have recipients_eq : (state.joined world.monitors.length).recipients =
            state.recipients ++ [world.monitors.length] := by
          simp [ClientToken.recipients, ClientToken.joined]
        have alive_joined : (state.joined world.monitors.length).alive = true := alive
        simp only [known, if_true, Option.elim_some, ClientToken.owes, alive, alive_joined,
          recipients_eq, List.countP_append]
        exact Nat.add_le_add_left List.countP_le_length _
      · rw [if_neg first]
        exact Nat.le_succ _

end World

namespace Scene

variable {descriptor : SessionDescriptor} {stopStatus : Int32} {world : World BuiltinAction}
  {monitor : Monitor BuiltinAction}

/-- Giving up a session that has ended shows nothing. -/
theorem lines_leave (scene : Scene descriptor stopStatus world monitor)
    (terminated : monitor.session.phase = .terminated) : (Replay.leave world).lines = [] := by
  simp only [Replay.leave, scene.found, Replay.lines_report_of_unanswered]
  change Occurrence.linesOf (List.map _ _) = []
  rw [Occurrence.linesOf_effects]
  exact Effect.lines_of_callsOut
    (Session.drop_of_terminated monitor.setting (world.answers monitor) scene.sound terminated)

theorem lines_destroy (scene : Scene descriptor stopStatus world monitor) :
    ∃ after,
      Scene descriptor stopStatus (Replay.perform .destroy world).world after ∧
        after.session.phase = .terminated ∧
        (Replay.perform .destroy world).lines = [.destroyed] := by
  have begun : Operation.destroy ≠ .start := nofun
  obtain ⟨after, effects, closing, goes, shows, reply, answer⟩ := scene.goes_perform begun nofun
  obtain rfl : effects = [] := List.eq_nil_iff_forall_not_mem.mpr shows
  obtain rfl : closing = .destroyed := by
    cases reply <;> cases answer
    rfl
  exact ⟨after, goes.scene, goes.ends rfl, goes.lines_eq⟩

end Scene

namespace ReplayScript

variable {script : ReplayScript}

/-- How many of the recipients that a token lists are strangers to the replay. -/
def sharers (strangers : Nat → Bool) (token : Option (ClientToken Nat)) : Nat :=
  token.elim 0 fun held => held.recipients.countP strangers

theorem sharers_eq_zero {strangers : Nat → Bool} {token : Option (ClientToken Nat)}
    (unshared : ∀ held ∈ token, ∀ link ∈ held.links, strangers link.recipient = false) :
    sharers strangers token = 0 := by
  cases token with
  | none => rfl
  | some held =>
      refine List.countP_eq_zero.mpr fun recipient listed => ?_
      obtain ⟨link, linked, rfl⟩ := List.mem_map.mp listed
      simp [unshared held rfl link linked]

theorem owed_surroundings (strangers : Nat → Bool) {token : Option (ClientToken Nat)}
    (unmade : ∀ held ∈ token, ∀ link ∈ held.links, link.recipient ≠ 0) :
    (script.surroundings strangers token).owed ≤ sharers strangers token := by
  cases token with
  | none => exact Nat.le_refl 0
  | some held =>
      have others : held.recipients.countP (fun recipient => recipient == 0 || strangers recipient)
          = held.recipients.countP strangers := by
        refine List.countP_congr fun recipient listed => ?_
        obtain ⟨link, linked, rfl⟩ := List.mem_map.mp listed
        simp [unmade held rfl link linked]
      change held.owes strangers ≤ held.recipients.countP strangers
      rw [ClientToken.owes, others]
      split
      · exact Nat.le_refl _
      · exact Nat.zero_le _

/-- The session of a replay is made on a scene, and nothing is shown of that. -/
theorem scene_make (script : ReplayScript) (config : MonitorConfig) (strangers : Nat → Bool)
    (token : Option (ClientToken Nat)) (cookie : Int32) :
    let made := script.make config strangers token cookie
    made.lines = [] ∧ ∃ monitor,
      Scene (script.session.descriptor cookie) script.hal.stopStatus made.world monitor ∧
        made.world.hal.start 0 = .status script.hal.startStatus ∧
        monitor.session.phase = .created ∧
        monitor.session.action = script.session.action config ∧
        monitor.listener =
          some (.failingAfter script.listener.failAfter (.refused .channelClosed)) := by
  let setting := config.setting (script.session.descriptor cookie)
  let action := script.session.action config
  let listener := Listener.failingAfter script.listener.failAfter (.refused .channelClosed)
  obtain ⟨linked, tokens, _, made⟩ := World.making (script.surroundings strangers token)
    setting action (token.map fun _ => 0) (some listener)
  have silent := Effect.lines_of_callsOut (Session.make_callsOut action true linked)
  have lines : (script.make config strangers token cookie).lines =
      (Replay.report ((script.surroundings strangers token).make setting action
        (token.map fun _ => 0) (some listener)) fun _ => none).lines := by
    simp only [ReplayStep.lines, make, List.filterMap_append]
    exact List.append_nil _
  have world : (script.make config strangers token cookie).world = _ :=
    congrArg WorldStep.world made
  refine ⟨?_, ⟨setting, (Session.make action true linked).1, some listener⟩,
    ⟨?_, Session.sound_make action true linked, rfl, ?_, ?_⟩, ?_,
    Session.make_phase action true linked, Session.make_action action true linked, rfl⟩
  · rw [lines, made, Replay.lines_report_of_unanswered, Occurrence.linesOf_effects]
    exact silent
  · rw [world]
    rfl
  · intro other isListener told event
    obtain rfl := Option.some.inj isListener
    change (if _ then DeliveryAnswer.sent else _) ≠ _
    split <;> simp
  · rw [world]
    exact ⟨_, rfl⟩
  · rw [world]
    rfl

/-- A token that does not list the session before it is made owes it one message at most,
and one to each stranger that it lists. -/
theorem owed_make (script : ReplayScript) (config : MonitorConfig) (strangers : Nat → Bool)
    {token : Option (ClientToken Nat)} (cookie : Int32)
    (unmade : ∀ held ∈ token, ∀ link ∈ held.links, link.recipient ≠ 0) :
    (script.make config strangers token cookie).world.owed ≤ sharers strangers token + 1 := by
  obtain ⟨linked, tokens, making, made⟩ := World.making (script.surroundings strangers token)
    (config.setting (script.session.descriptor cookie)) (script.session.action config)
    (token.map fun _ => 0)
    (some (.failingAfter script.listener.failAfter (.refused .channelClosed)))
  have world : (script.make config strangers token cookie).world = _ :=
    congrArg WorldStep.world made
  rw [world]
  exact Nat.le_trans (World.owed_making making rfl rfl)
    (Nat.add_le_add_right (owed_surroundings strangers unmade) 1)

/-- A replay begins with what the hardware answers to the start. -/
theorem scene_start (script : ReplayScript) (config : MonitorConfig)
    (strangers : Nat → Bool) (token : Option (ClientToken Nat)) (cookie : Int32) :
    let started := (script.make config strangers token cookie).andThen (Replay.perform .start)
    started.lines =
        [.halStart script.session.kind script.hal.startStatus,
          .status .start script.hal.startStatus] ∧
      started.world.owed ≤ (script.make config strangers token cookie).world.owed ∧ ∃ monitor,
        Scene (script.session.descriptor cookie) script.hal.stopStatus started.world
          monitor := by
  obtain ⟨silent, monitor, scene, starts, created, isAction, _⟩ :=
    script.scene_make config strangers token cookie
  let world := (script.make config strangers token cookie).world
  have starts : (world.answers monitor).start = .status script.hal.startStatus := starts
  obtain ⟨lines, ended⟩ := Session.lines_start monitor.setting created starts
  have returned : (world.perform 0 monitor .start).ending =
    .returned (.status script.hal.startStatus) := ended
  refine ⟨?_, ?_, monitor.performed (world.answers monitor) .start, ?_⟩
  · rw [ReplayStep.lines_andThen, silent, scene.perform_eq,
      Replay.lines_report_of_returned returned, Scene.linesOf_perform, lines, isAction,
      script.session.kind_request]
    rfl
  · rw [ReplayStep.world_andThen, scene.perform_eq]
    exact World.owed_perform world 0 monitor .start
  · rw [ReplayStep.world_andThen, scene.perform_eq]
    exact scene.perform .start

/-- A replay shows what its steps show, under the cookie that it takes. -/
theorem lines_run (script : ReplayScript) (processes : ProcessTable) (config : MonitorConfig)
    (owner : Option UInt32) (strangers : Nat → Bool) (token : Option (ClientToken Nat))
    (counter : CookieCounter) :
    (script.run processes config owner strangers token counter).1.lines =
      (script.runWith (fun _ => processes) config owner strangers token
        (script.session.takeCookie counter).1).lines :=
  rfl

/-- A replay ends with the destruction of its session, unless the script has destroyed it,
and giving the session up shows nothing more. -/
theorem lines_end (played : ReplayStep) {descriptor : SessionDescriptor} {stopStatus : Int32}
    {monitor : Monitor BuiltinAction} (scene : Scene descriptor stopStatus played.world monitor)
    (events : List ScriptEvent)
    (ended : .destroy ∈ events → monitor.session.phase = .terminated) :
    let left := if events.contains .destroy then played else
      played.andThen (Replay.perform .destroy)
    (left.andThen Replay.leave).lines =
      played.lines ++ if .destroy ∈ events then [] else [.destroyed] := by
  intro left
  by_cases destroys : .destroy ∈ events
  · have stays : left = played := if_pos (List.contains_iff_mem.mpr destroys)
    rw [stays, if_pos destroys, ReplayStep.lines_andThen, scene.lines_leave (ended destroys)]
  · have goes : left = played.andThen (Replay.perform .destroy) :=
      if_neg fun contained => destroys (List.contains_iff_mem.mp contained)
    obtain ⟨after, later, terminated, lines⟩ := scene.lines_destroy
    rw [goes, if_neg destroys, ReplayStep.lines_andThen, ReplayStep.lines_andThen, lines,
      ReplayStep.world_andThen, later.lines_leave terminated, List.append_nil]

/-- A replay shows the start, one block of every event, and the destruction of the session if
the script does not destroy it. -/
theorem runWith_in_blocks (script : ReplayScript) (config : MonitorConfig)
    (processes : Nat → ProcessTable) (owner : Option UInt32) (strangers : Nat → Bool)
    (token : Option (ClientToken Nat)) (cookie : Int32) :
    let started := (script.make config strangers token cookie).andThen (Replay.perform .start)
    ∃ monitor after blocks,
      Scene.Played script cookie started.world monitor script.events
        (Replay.happenAll owner script.session processes script.events started.world) after
        blocks ∧
      (script.runWith processes config owner strangers token cookie).lines =
        [.halStart script.session.kind script.hal.startStatus,
            .status .start script.hal.startStatus] ++
          (blocks.flatMap (·.lines) ++
            if .destroy ∈ script.events then [] else [.destroyed]) := by
  obtain ⟨opening, _, monitor, scene⟩ := script.scene_start config strangers token cookie
  obtain ⟨after, blocks, played⟩ := scene.played processes owner script.events
  have ended : .destroy ∈ script.events → after.session.phase = .terminated := by
    intro destroys
    obtain ⟨block, member, destroyed⟩ := EventLines.exists_destroyed played.accounts destroys
    exact played.ends block member (by rw [destroyed]; rfl)
  have closing := lines_end (.andThen _ _) played.scene script.events ended
  rw [ReplayStep.lines_andThen, opening, played.lines_eq, List.append_assoc] at closing
  exact ⟨monitor, after, blocks, played, closing⟩

/-- A replay shows the start, what happens after that, and the destruction of the session if
the script does not destroy it. -/
theorem lines_runWith (script : ReplayScript) (config : MonitorConfig)
    (processes : Nat → ProcessTable) (owner : Option UInt32) (strangers : Nat → Bool)
    (token : Option (ClientToken Nat)) (cookie : Int32) :
    let started := (script.make config strangers token cookie).andThen (Replay.perform .start)
    (script.runWith processes config owner strangers token cookie).lines =
      [.halStart script.session.kind script.hal.startStatus,
          .status .start script.hal.startStatus] ++
        ((Replay.happenAll owner script.session processes script.events started.world).lines ++
          if .destroy ∈ script.events then [] else [.destroyed]) := by
  obtain ⟨_, _, _, played, all⟩ :=
    script.runWith_in_blocks config processes owner strangers token cookie
  intro started
  rw [played.lines_eq]
  exact all

/-- The lines of a replay are the start with the hardware's answer, one block for each event
of the script, and the destruction of the session if the script does not destroy it.  One
verdict at most finishes the session; after that, as after a destruction, every block is
bare; and all deaths that are shown tell one recipient at most, and besides it only those of
strangers that the client's token lists.  The token may be any that does not list the session
before it is made; a fresh one, as any that is not shared, lists no stranger. -/
theorem replay_accounts_for_every_event (script : ReplayScript) (config : MonitorConfig)
    (processes : Nat → ProcessTable) (owner : Option UInt32) (strangers : Nat → Bool)
    (token : Option (ClientToken Nat)) (cookie : Int32)
    (unmade : ∀ held ∈ token, ∀ link ∈ held.links, link.recipient ≠ 0) :
    let lines := (script.runWith processes config owner strangers token cookie).lines
    ∃ blocks : List EventLines,
      lines =
        [.halStart script.session.kind script.hal.startStatus,
            .status .start script.hal.startStatus] ++
          (blocks.flatMap (·.lines) ++
            if .destroy ∈ script.events then [] else [.destroyed]) ∧
      List.Forall₂ (EventLines.Accounts script cookie) script.events blocks ∧
      (blocks.Pairwise fun block later =>
        block.closing.endsSession = true → later.Bare) ∧
      lines.countP (·.finishes) ≤ 1 ∧
      (lines.map (·.notified)).sum ≤ sharers strangers token + 1 ∧
      ((∀ held ∈ token, ∀ link ∈ held.links, strangers link.recipient = false) →
        (lines.map (·.notified)).sum ≤ 1) := by
  intro lines
  obtain ⟨monitor, after, blocks, played, all⟩ :=
    script.runWith_in_blocks config processes owner strangers token cookie
  have all : lines = _ := all
  have owed := Nat.le_trans (script.scene_start config strangers token cookie).2.1
    (script.owed_make config strangers cookie unmade)
  have finishes := EventLines.countP_finishes_le played.accounts played.endures
  have told := Nat.le_trans played.owed_le owed
  have notified : (lines.map (·.notified)).sum ≤ sharers strangers token + 1 := by
    have untold : ((if ScriptEvent.destroy ∈ script.events then [] else
        [ReplayLine.destroyed]).map (·.notified)).sum = 0 := by
      split <;> rfl
    rw [all, List.map_append, List.map_append, List.sum_append, List.sum_append, untold]
    change 0 + _ ≤ _
    omega
  refine ⟨blocks, all, played.accounts, played.endures, ?_, notified, ?_⟩
  · have unfinished : (if ScriptEvent.destroy ∈ script.events then [] else
        [ReplayLine.destroyed]).countP (·.finishes) = 0 := by
      split <;> rfl
    rw [all, List.countP_append, List.countP_append, unfinished]
    change 0 + _ ≤ 1
    omega
  · intro unshared
    rwa [sharers_eq_zero unshared] at notified

/-- The client's process is gone before the third event, which cancels the enrollment; so the
stop has nothing to do, and the last result, which finishes the session, tells nobody.  The
destruction after that is bare.  Another recipient was linked to the token, but exists no
more, so that the session alone is told. -/
theorem replay_accounts_for_every_event_orphaned :
    let spec : SessionSpec := ⟨.enroll, 10, 20, false, "owner", 42, 1, 0, 0, [], true⟩
    let events := [.acquired AcquiredCode.good 0, .enrollResult 7 1, .stop true,
      .enrollResult 7 0, .destroy]
    let script : ReplayScript := ⟨spec, .standard, .standard, events⟩
    let strangers (recipient : Nat) : Bool := recipient == 7
    let token : ClientToken Nat := ⟨some 4000, true, 2, [⟨1, 5⟩]⟩
    let processes (look : Nat) : ProcessTable := ⟨fun _ => look < 2⟩
    let lines := (script.runWith processes .standard (some 4000) strangers (some token) 42).lines
    (∀ held ∈ some token, ∀ link ∈ held.links, link.recipient ≠ 0) ∧
      lines =
        [.halStart .enroll 0, .status .start 0,
          .delivered (.acquired 1 0 0), .userActivity 10, .verdict .acquired false,
          .haptic .click, .delivered (.enrollResult 7 1), .verdict .enrollResult false,
          .halStop false 0, .clientDied 1, .status .stop 0,
          .haptic .click, .verdict .enrollResult true,
          .destroyed] ∧
      (lines.map (·.notified)).sum ≤ 1 ∧
      ∃ blocks : List EventLines,
        lines = [.halStart .enroll 0, .status .start 0] ++ (blocks.flatMap (·.lines) ++ []) ∧
          List.Forall₂ (EventLines.Accounts script 42) events blocks := by
  intro spec events script strangers token processes lines
  have unmade : ∀ held ∈ some token, ∀ link ∈ held.links, link.recipient ≠ 0 := by decide
  have unshared : ∀ held ∈ some token, ∀ link ∈ held.links,
      strangers link.recipient = false := by decide
  obtain ⟨blocks, all, accounts, _, _, _, alone⟩ := replay_accounts_for_every_event script
    .standard processes (some 4000) strangers (some token) 42 unmade
  exact ⟨unmade, by decide, alone unshared, blocks, all, accounts⟩

/-- If another recipient exists that is linked to the client's token, the client's death
tells that one as well as the session. -/
theorem death_in_replay_tells_sharers :
    let spec : SessionSpec := ⟨.enumerate, 10, 20, false, "owner", 42, 1, 0, 0, [], true⟩
    let script : ReplayScript := ⟨spec, .standard, .standard, [.clientDied]⟩
    let strangers (recipient : Nat) : Bool := recipient == 7
    let token : ClientToken Nat := ⟨none, true, 2, [⟨1, 7⟩]⟩
    let processes (_ : Nat) : ProcessTable := ⟨fun _ => true⟩
    let lines := (script.runWith processes .standard none strangers (some token) 42).lines
    lines =
        [.halStart .enumerate 0, .status .start 0, .halStop false 0, .clientDied 2,
          .destroyed] ∧
      ¬ (lines.map (·.notified)).sum ≤ 1 := by
  decide

end ReplayScript

end BiometricSession
