import BiometricSession.Proofs.Replay.Breaking

/-!
# Where the log of a broken listener parts

Two replays of one script, the one with a listener that takes everything and the other with
one whose channel breaks, show the same lines up to one point.  There the first shows a
delivery and the second shows that the same delivery failed.
-/

namespace BiometricSession

/-- Where the log of a replay whose listener breaks after so many deliveries parts from the log
of the replay whose listener takes everything. -/
structure Parting (script : ReplayScript) (cookie : Int32) (opening : List ReplayLine)
    (events : List ScriptEvent) (limit : Nat) (whole cut : List ReplayLine) where
  /-- The events that both logs show in full, in the same blocks. -/
  earlier : List ScriptEvent
  /-- The event that is being handled when the delivery fails. -/
  event : ScriptEvent
  later : List ScriptEvent
  events_eq : events = earlier ++ event :: later
  blocks : List EventLines
  blocks_account : List.Forall₂ (EventLines.Accounts script cookie) earlier blocks
  /-- What the second log shows of the event. -/
  block : EventLines
  block_accounts : block.Accounts script cookie event
  front : List ReplayLine
  /-- The delivery that fails. -/
  told : Delivery
  back : List ReplayLine
  effects_eq : block.effects = front ++ .deliveryFailed told :: back
  callback : Callback
  closing_eq : block.closing = .verdict callback true
  /-- The lines that both logs begin with, which end where the delivery is attempted. -/
  shared : List ReplayLine
  shared_eq : shared = opening ++ (blocks.flatMap (·.lines) ++ (block.probe ++ front))
  remaining : List ReplayLine
  whole_eq : whole = shared ++ .delivered told :: remaining
  closing : List ReplayLine
  cut_eq : cut = shared ++ .deliveryFailed told :: (back ++ .verdict callback true :: closing)
  delivered_eq : shared.countP (·.isDelivered) = limit
  taken : ∀ line ∈ shared, line.isDeliveryFailed = false
  silent : ∀ line ∈ back, line.isDelivery = false
  closes : ∀ line ∈ closing, line.isClosing = true

namespace Parting

variable {script : ReplayScript} {cookie : Int32} {events : List ScriptEvent} {room : Nat}
  {whole cut : List ReplayLine}

/-- The logs part at the first event. -/
theorem here {event : ScriptEvent} {block : EventLines}
    (accounts : block.Accounts script cookie event) {front back : List ReplayLine}
    {told : Delivery} (effects_eq : block.effects = front ++ .deliveryFailed told :: back)
    {callback : Callback} (closing_eq : block.closing = .verdict callback true)
    (delivered : (block.probe ++ front).countP (·.isDelivered) = room)
    (taken : ∀ line ∈ block.probe ++ front, line.isDeliveryFailed = false)
    (silent : ∀ line ∈ back, line.isDelivery = false) {remaining closing : List ReplayLine}
    (closes : ∀ line ∈ closing, line.isClosing = true)
    (whole_eq : whole = block.probe ++ front ++ .delivered told :: remaining)
    (cut_eq : cut = block.lines ++ closing) :
    Nonempty (Parting script cookie [] (event :: events) room whole cut) :=
  ⟨{ earlier := []
     event
     later := events
     events_eq := rfl
     blocks := []
     blocks_account := .nil
     block
     block_accounts := accounts
     front, told, back, effects_eq, callback, closing_eq
     shared := block.probe ++ front
     shared_eq := rfl
     remaining, whole_eq, closing
     cut_eq := by
      rw [cut_eq, EventLines.lines, effects_eq, closing_eq]
      simp only [List.append_assoc, List.cons_append, List.nil_append]
     delivered_eq := delivered
     taken, silent, closes }⟩

/-- An event that both logs show in full may come before. -/
theorem cons (parting : Parting script cookie [] events room whole cut) {event : ScriptEvent}
    {block : EventLines} (accounts : block.Accounts script cookie event)
    (taken : ∀ line ∈ block.lines, line.isDeliveryFailed = false) :
    Nonempty (Parting script cookie [] (event :: events)
      (block.lines.countP (·.isDelivered) + room) (block.lines ++ whole)
      (block.lines ++ cut)) :=
  ⟨{ parting with
      earlier := event :: parting.earlier
      events_eq := congrArg (event :: ·) parting.events_eq
      blocks := block :: parting.blocks
      blocks_account := .cons accounts parting.blocks_account
      shared := block.lines ++ parting.shared
      shared_eq := by
        rw [parting.shared_eq, List.flatMap_cons, List.nil_append, List.nil_append,
          List.append_assoc]
      whole_eq :=
        (congrArg (block.lines ++ ·) parting.whole_eq).trans (List.append_assoc ..).symm
      cut_eq := (congrArg (block.lines ++ ·) parting.cut_eq).trans (List.append_assoc ..).symm
      delivered_eq :=
        List.countP_append.trans (congrArg (block.lines.countP _ + ·) parting.delivered_eq)
      taken := List.forall_mem_append.mpr ⟨taken, parting.taken⟩ }⟩

/-- Lines without a delivery may stand before the events, and closing lines after them. -/
theorem frame (parting : Parting script cookie [] events room whole cut)
    {opening ending : List ReplayLine} (untold : ∀ line ∈ opening, line.isDelivery = false)
    (closes : ∀ line ∈ ending, line.isClosing = true) :
    Nonempty (Parting script cookie opening events room (opening ++ (whole ++ ending))
      (opening ++ (cut ++ ending))) :=
  ⟨{ parting with
      shared := opening ++ parting.shared
      shared_eq := by rw [parting.shared_eq, List.nil_append]
      remaining := parting.remaining ++ ending
      closing := parting.closing ++ ending
      whole_eq := by
        refine (congrArg (fun lines => opening ++ (lines ++ ending)) parting.whole_eq).trans ?_
        simp only [List.append_assoc, List.cons_append]
      cut_eq := by
        refine (congrArg (fun lines => opening ++ (lines ++ ending)) parting.cut_eq).trans ?_
        simp only [List.append_assoc, List.cons_append]
      delivered_eq := by
        refine Eq.trans ?_ parting.delivered_eq
        rw [List.countP_append, ReplayLine.countP_isDelivered_of_untold untold, Nat.zero_add]
      taken := List.forall_mem_append.mpr
        ⟨ReplayLine.isDeliveryFailed_of_untold untold, parting.taken⟩
      closes := List.forall_mem_append.mpr ⟨parting.closes, closes⟩ }⟩

/-- The first log shows more deliveries than the listener of the second takes. -/
theorem lt_countP {opening : List ReplayLine}
    (parting : Parting script cookie opening events room whole cut) :
    room < whole.countP (·.isDelivered) := by
  have count := congrArg (List.countP (·.isDelivered)) parting.whole_eq
  rw [List.countP_append, List.countP_cons_of_pos rfl] at count
  have delivered := parting.delivered_eq
  omega

/-- One delivery fails in the second log. -/
theorem countP_isDeliveryFailed {opening : List ReplayLine}
    (parting : Parting script cookie opening events room whole cut) :
    cut.countP (·.isDeliveryFailed) = 1 := by
  have before : parting.shared.countP (·.isDeliveryFailed) = 0 := by
    simpa [List.countP_eq_zero] using parting.taken
  have inBlock : parting.back.countP (·.isDeliveryFailed) = 0 := by
    simpa [List.countP_eq_zero] using ReplayLine.isDeliveryFailed_of_untold parting.silent
  have after : parting.closing.countP (·.isDeliveryFailed) = 0 := by
    rw [List.countP_eq_zero]
    intro line member failed
    have closes := parting.closes line member
    cases line with
    | deliveryFailed => exact Bool.false_ne_true closes
    | _ => cases failed
  have count := congrArg (List.countP (·.isDeliveryFailed)) parting.cut_eq
  rw [List.countP_append, List.countP_cons_of_pos rfl, List.countP_append,
    List.countP_cons_of_neg (by simp [ReplayLine.isDeliveryFailed]), before, inBlock,
    after] at count
  exact count

end Parting

/-! ## Closing lines -/

theorem ScriptEvent.isClosing_of_isClosedBy {event : ScriptEvent} {closing : ReplayLine}
    (closes : event.isClosedBy closing = true) : closing.isClosing = true := by
  cases event with
  | stop =>
      cases closing with
      | status request => cases request <;> first | rfl | cases closes
      | _ => first | rfl | cases closes
  | _ => cases closing <;> first | rfl | cases closes

/-- A bare block is made of closing lines. -/
theorem EventLines.Bare.isClosing {script : ReplayScript} {cookie : Int32} {event : ScriptEvent}
    {block : EventLines} (bare : block.Bare) (accounts : block.Accounts script cookie event) :
    ∀ line ∈ block.lines, line.isClosing = true := by
  have last := ScriptEvent.isClosing_of_isClosedBy accounts.closing
  unfold EventLines.lines
  rw [bare.effects]
  rcases bare.probe with nothing | ⟨notified, gone⟩
  · rw [nothing]
    exact List.forall_mem_singleton.mpr last
  · rw [gone]
    exact List.forall_mem_cons.mpr ⟨rfl, List.forall_mem_singleton.mpr last⟩

/-! ## All events -/

namespace Scene

variable {script : ReplayScript} {cookie : Int32} {world : World BuiltinAction}
  {monitor : Monitor BuiltinAction} {limit heard : Nat}

/-- After an event that ends the session nothing but closing lines is shown. -/
theorem Accounted.isClosing {event : ScriptEvent} {step : ReplayStep}
    {after : Monitor BuiltinAction} {block : EventLines}
    (accounted : Accounted script cookie world monitor event step after block)
    (ends : block.closing.endsSession = true) (processes : Nat → ProcessTable)
    (owner : Option UInt32) (events : List ScriptEvent) :
    ∀ line ∈ (Replay.happenAll owner script.session processes events step.world).lines,
      line.isClosing = true := by
  obtain ⟨last, blocks, played⟩ := accounted.scene.played processes owner events
  obtain ⟨bare, _⟩ := played.bare (accounted.ends ends)
  rw [played.lines_eq]
  intro line member
  obtain ⟨later, isLater, shown⟩ := List.mem_flatMap.mp member
  obtain ⟨event, accounts⟩ := EventLines.exists_accounted played.accounts isLater
  exact (bare later isLater).isClosing accounts line shown

/-- If a delivery fails while an event is handled, the logs part at that event. -/
theorem parts_at
    (scene : Scene (script.session.descriptor cookie) script.hal.stopStatus world monitor)
    (processes : Nat → ProcessTable) (owner : Option UInt32) (event : ScriptEvent)
    (events : List ScriptEvent) {front rest back : List ReplayLine} {told : Delivery}
    {callback : Callback} (taken : ∀ line ∈ front, line.isDeliveryFailed = false)
    (whole_eq : (Replay.happen script.session event
        (Replay.checkOwner (processes 0) owner world).world).lines =
      front ++ .delivered told :: rest)
    (cut_eq : (Replay.happen script.session event
        ((Replay.checkOwner (processes 0) owner world).world.breakingAfter limit)).lines =
      (front ++ .deliveryFailed told :: back) ++ [.verdict callback true])
    (silent : ∀ line ∈ back, line.isDelivery = false) :
    Nonempty (Parting script cookie [] (event :: events) (front.countP (·.isDelivered))
      (Replay.happenAll owner script.session processes (event :: events) world).lines
      (Replay.happenAll owner script.session processes (event :: events)
        (world.breakingAfter limit)).lines) := by
  obtain ⟨between, looked⟩ := scene.looked (processes 0) owner
  obtain ⟨cutBetween, cutLooked⟩ := (scene.breakingAfter limit).looked (processes 0) owner
  unfold Replay.happenAll
  rw [Replay.checkOwner_breakingAfter] at cutLooked ⊢
  obtain ⟨after, effects, closing, goes, shows, closes⟩ := cutLooked.scene.goes_happen event
  obtain ⟨rfl, closing_eq⟩ := List.append_inj' (goes.lines_eq.symm.trans cut_eq) rfl
  obtain rfl := List.singleton_inj.mp closing_eq
  have accounted := cutLooked.accounted goes shows closes
  have delivered : ((Replay.checkOwner (processes 0) owner world).lines ++
      front).countP (·.isDelivered) = front.countP (·.isDelivered) := by
    rw [List.countP_append, ReplayLine.countP_isDelivered_of_untold looked.untold, Nat.zero_add]
  have untaken := List.forall_mem_append.mpr
    ⟨ReplayLine.isDeliveryFailed_of_untold looked.untold, taken⟩
  -- the verdict finishes the session, so that the other events are bare
  have bare := accounted.isClosing rfl (fun look => processes (look + 1)) owner events
  apply Parting.here accounted.accounts rfl rfl delivered untaken silent bare
  · rw [ReplayStep.lines_andThen, ReplayStep.lines_andThen, whole_eq, ← List.append_assoc,
      List.append_assoc, List.cons_append]
    rfl
  · rw [ReplayStep.lines_andThen, accounted.lines_eq]

/-- The events of a script show the same for both listeners throughout, or the logs part. -/
theorem happenAll_breaks
    (scene : Scene (script.session.descriptor cookie) script.hal.stopStatus world monitor)
    (attends : world.Attends heard) (within : heard ≤ limit)
    (processes : Nat → ProcessTable) (owner : Option UInt32) (events : List ScriptEvent) :
    (Replay.happenAll owner script.session processes events world).Intact limit heard
        (Replay.happenAll owner script.session processes events (world.breakingAfter limit)) ∨
      Nonempty (Parting script cookie [] events (limit - heard)
        (Replay.happenAll owner script.session processes events world).lines
        (Replay.happenAll owner script.session processes events
          (world.breakingAfter limit)).lines) := by
  induction events generalizing processes world monitor heard with
  | nil => exact .inl (.of_untold within rfl attends (by simp [Replay.happenAll]))
  | cons event events ih =>
      have look := scene.checkOwner_intact attends within (processes 0) owner
      obtain ⟨between, looked⟩ := scene.looked (processes 0) owner
      have unheard := ReplayLine.countP_isDelivered_of_untold looked.untold
      have attending := look.attends
      rw [unheard, Nat.add_zero] at attending
      cases looked.scene.happen_breaks attending within event with
      | intact happened =>
          -- both go on with the other events on the same scene
          unfold Replay.happenAll
          have first := look.andThen (by rwa [unheard, Nat.add_zero])
          obtain ⟨after, block, accounted⟩ := scene.accounted (processes 0) owner event
          generalize ReplayStep.andThen (Replay.checkOwner (processes 0) owner world) _ = step,
            ReplayStep.andThen (Replay.checkOwner _ _ (world.breakingAfter limit)) _ = cutStep
            at first accounted ⊢
          rcases ih accounted.scene first.attends first.fits (fun look => processes (look + 1))
            with rest | ⟨⟨parting⟩⟩
          · exact .inl (first.andThen rest)
          · have taken := first.taken
            have fits := first.fits
            rw [ReplayStep.lines_andThen, ReplayStep.lines_andThen, first.lines_eq,
              first.cut_eq]
            rw [accounted.lines_eq] at parting taken fits ⊢
            have room : limit - heard = block.lines.countP (·.isDelivered) +
                (limit - (heard + block.lines.countP (·.isDelivered))) := by omega
            rw [room]
            exact .inr (parting.cons accounted.accounts taken)
      | @broken front rest back told callback taken full whole_eq cut_eq silent =>
          have room : limit - heard = front.countP (·.isDelivered) := by omega
          rw [room]
          exact .inr (scene.parts_at processes owner event events taken whole_eq cut_eq silent)

end Scene

/-! ## Replays -/

namespace ReplayScript

/-- The script with a listener that takes everything. -/
def unbroken (script : ReplayScript) : ReplayScript :=
  { script with listener := .standard }

/-- The script with a listener whose channel breaks after so many deliveries. -/
def breakingAfter (script : ReplayScript) (limit : Nat) : ReplayScript :=
  { script with listener := ⟨some limit⟩ }

/-- What both logs begin with. -/
def opening (script : ReplayScript) : List ReplayLine :=
  [.halStart script.session.kind script.hal.startStatus, .status .start script.hal.startStatus]

theorem untold_opening (script : ReplayScript) :
    ∀ line ∈ script.opening, line.isDelivery = false := by
  simp [opening, ReplayLine.isDelivery, ReplayLine.isDelivered, ReplayLine.isDeliveryFailed]

/-- Until the events begin, a replay goes the same way for both listeners. -/
theorem start_breakingAfter (script : ReplayScript) (config : MonitorConfig) (limit : Nat)
    (strangers : Nat → Bool) (token : Option (ClientToken Nat)) (cookie : Int32) :
    ((script.breakingAfter limit).make config strangers token cookie).andThen
        (Replay.perform .start) =
      ((script.unbroken.make config strangers token cookie).andThen
        (Replay.perform .start)).breakingAfter limit := by
  have noEvent : ∀ event, Operation.start ≠ .callback event := by simp
  have made : (script.breakingAfter limit).make config strangers token cookie =
      (script.unbroken.make config strangers token cookie).breakingAfter limit := rfl
  rw [made]
  simp only [ReplayStep.andThen, ReplayStep.breakingAfter, Replay.perform_breakingAfter noEvent]

theorem attends_start (script : ReplayScript) (config : MonitorConfig)
    (strangers : Nat → Bool) (token : Option (ClientToken Nat)) (cookie : Int32) :
    ((script.unbroken.make config strangers token cookie).andThen
      (Replay.perform .start)).world.Attends 0 := by
  have made : (script.unbroken.make config strangers token cookie).world.Attends 0 := by
    obtain ⟨_, monitor, scene, _, _, _, hears⟩ :=
      script.unbroken.scene_make config strangers token cookie
    intro other present
    obtain rfl := Option.some.inj (scene.found.symm.trans present)
    exact ⟨[], hears, rfl⟩
  exact Replay.attends_perform made (by simp)

/-- A listener whose channel breaks cuts a replay at one point.  If the replay with a listener
that takes everything delivers no more events than the other listener takes, both logs are the
same.  Otherwise they part at the first delivery above that number.  It fails in the second log,
and no other does; the same event of the script finishes the session, no other delivery is
shown, and nothing but closing lines follows. -/
theorem breaking_listener_cuts_once (script : ReplayScript) (config : MonitorConfig)
    (limit : Nat) (processes : Nat → ProcessTable) (owner : Option UInt32)
    (strangers : Nat → Bool) (token : Option (ClientToken Nat)) (counter : CookieCounter) :
    let cookie := (script.session.takeCookie counter).1
    let whole := (script.unbroken.runWith processes config owner strangers token cookie).lines
    let cut :=
      ((script.breakingAfter limit).runWith processes config owner strangers token cookie).lines
    (whole.countP (·.isDelivered) ≤ limit → cut = whole) ∧
      (limit < whole.countP (·.isDelivered) →
        Nonempty (Parting script cookie script.opening script.events limit whole cut) ∧
          cut.countP (·.isDeliveryFailed) = 1) := by
  intro cookie whole cut
  let started :=
    (script.unbroken.make config strangers token cookie).andThen (Replay.perform .start)
  let shown (world : World BuiltinAction) : List ReplayLine :=
    (Replay.happenAll owner script.session processes script.events world).lines
  let ending : List ReplayLine := if .destroy ∈ script.events then [] else [.destroyed]
  have closes : ∀ line ∈ ending, line.isClosing = true := by
    dsimp only [ending]
    split
    · exact List.forall_mem_nil _
    · exact List.forall_mem_singleton.mpr rfl
  have whole_eq : whole = script.opening ++ (shown started.world ++ ending) :=
    script.unbroken.lines_runWith config processes owner strangers token cookie
  have cut_eq : cut = script.opening ++ (shown (started.world.breakingAfter limit) ++ ending) := by
    have lines :=
      (script.breakingAfter limit).lines_runWith config processes owner strangers token cookie
    rw [script.start_breakingAfter] at lines
    exact lines
  obtain ⟨_, _, monitor, scene⟩ := script.unbroken.scene_start config strangers token cookie
  have scene : Scene (script.session.descriptor cookie) script.hal.stopStatus started.world
    monitor := scene
  have attends := script.attends_start config strangers token cookie
  rcases scene.happenAll_breaks attends (Nat.zero_le limit) processes owner script.events
    with intact | ⟨⟨parting⟩⟩
  · have few : whole.countP (·.isDelivered) ≤ limit := by
      have untold : ending.countP (·.isDelivered) = 0 := by
        dsimp only [ending]
        split <;> rfl
      rw [whole_eq, List.countP_append, List.countP_append, untold,
        ReplayLine.countP_isDelivered_of_untold script.untold_opening]
      exact intact.fits
    have same : cut = whole := by
      rw [whole_eq, cut_eq]
      exact congrArg (fun lines => script.opening ++ (lines ++ ending)) intact.lines_eq
    exact ⟨fun _ => same, fun many => absurd many (Nat.not_lt.mpr few)⟩
  · obtain ⟨parting⟩ := parting.frame script.untold_opening closes
    rw [whole_eq, cut_eq]
    exact ⟨fun few => absurd parting.lt_countP (Nat.not_lt.mpr few),
      fun _ => ⟨⟨parting⟩, parting.countP_isDeliveryFailed⟩⟩

/-- The listener breaks after the first of three deliveries.  The second is an acquisition,
which wakes the user all the same; but it finishes the session, and so the attempt that the
other replay accepts is dropped. -/
theorem breaking_listener_cuts_once_acquired :
    let spec : SessionSpec := ⟨.authenticate, 10, 20, false, "owner", 42, 1, 7, 0, [], true⟩
    let script : ReplayScript := ⟨spec, .standard, .standard,
      [.authenticated 7 false [], .acquired AcquiredCode.good 0, .authenticated 7 true [1],
        .stop true]⟩
    let config : MonitorConfig := ⟨.fingerprint, ⟨[], [], 60⟩, ⟨[], [], 5⟩, ⟨true, true⟩⟩
    let processes (_ : Nat) : ProcessTable := ⟨fun _ => true⟩
    let lines (script : ReplayScript) : List ReplayLine :=
      (script.runWith processes config none (fun _ => false) (some (.fresh none))
        (script.session.takeCookie .initial).1).lines
    let shared : List ReplayLine :=
      [.halStart .authenticate 0, .status .start 0, .haptic .doubleClick,
        .delivered (.authenticationFailed 1), .verdict .authenticated false]
    lines script.unbroken = shared ++
        [.delivered (.acquired 1 AcquiredCode.good 0), .userActivity 10,
          .verdict .acquired false, .haptic .click,
          .delivered (.authenticationSucceeded 7 1), .verdict .authenticated true,
          .status .stop 0, .destroyed] ∧
      lines (script.breakingAfter 1) = shared ++
        [.deliveryFailed (.acquired 1 AcquiredCode.good 0), .userActivity 10,
          .verdict .acquired true, .verdict .authenticated false, .status .stop 0,
          .destroyed] ∧
      1 < (lines script.unbroken).countP (·.isDelivered) ∧
      Nonempty (Parting script 42 script.opening script.events 1 (lines script.unbroken)
        (lines (script.breakingAfter 1))) := by
  intro spec script config processes lines shared
  have many : 1 < (lines script.unbroken).countP (·.isDelivered) := by decide
  have cuts := breaking_listener_cuts_once script config 1 processes none (fun _ => false)
    (some (.fresh none)) .initial
  exact ⟨by decide, by decide, many, (cuts.2 many).1⟩

end ReplayScript

end BiometricSession
