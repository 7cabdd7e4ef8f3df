import BiometricSession.Proofs.Replay.Account
import BiometricSession.Proofs.World.Breaking

/-!
# Replays whose listener breaks

A script can let the listener's channel break after a number of deliveries.  A replay with
such a listener shows what it shows with one that takes everything, line by line, up to the
first delivery that fails.  The event that is being handled then finishes the session, so that
no other delivery is attempted and nothing but closing lines follows.
-/

namespace BiometricSession

/-! ## Lines -/

namespace ReplayLine

def isDelivered : ReplayLine → Bool
  | delivered _ => true
  | _ => false

def isDeliveryFailed : ReplayLine → Bool
  | deliveryFailed _ => true
  | _ => false

/-- Whether a line shows that a delivery was attempted. -/
def isDelivery (line : ReplayLine) : Bool :=
  line.isDelivered || line.isDeliveryFailed

/-- Whether a line shows at most that something is closed or over. -/
def isClosing : ReplayLine → Bool
  | verdict .. | status .stop _ | clientDied _ | destroyed => true
  | _ => false

theorem countP_isDelivered_of_untold {lines : List ReplayLine}
    (untold : ∀ line ∈ lines, line.isDelivery = false) :
    lines.countP (·.isDelivered) = 0 := by
  rw [List.countP_eq_zero]
  intro line member delivered
  have none := untold line member
  simp [isDelivery, delivered] at none

theorem isDeliveryFailed_of_untold {lines : List ReplayLine}
    (untold : ∀ line ∈ lines, line.isDelivery = false) :
    ∀ line ∈ lines, line.isDeliveryFailed = false := by
  intro line member
  have none := untold line member
  cases failed : line.isDeliveryFailed with
  | false => rfl
  | true => simp [isDelivery, failed] at none

/-- The death of the client is shown without a delivery. -/
theorem untold_death {stops : List ReplayLine} {status : Int32}
    (cancels : ∀ line ∈ stops, line = .halStop false status) (notified : Nat) :
    ∀ line ∈ stops ++ [clientDied notified], line.isDelivery = false := by
  intro line member
  rcases List.mem_append.mp member with isStop | isDeath
  · rw [cancels line isStop]
    rfl
  · rw [List.mem_singleton.mp isDeath]
    rfl

end ReplayLine

namespace Effect

/-- Effects without deliveries show no line of one. -/
theorem untold_lines {effects : List Effect} (none : deliveries effects = []) :
    ∀ line ∈ lines effects, line.isDelivery = false := by
  intro line member
  obtain ⟨effect, isEffect, shown⟩ := List.mem_filterMap.mp member
  have noDelivery := List.filterMap_eq_nil_iff.mp none effect isEffect
  cases effect with
  | delivery => cases noDelivery
  | acquiredMetric | errorMetric | unlink | probed | probeSent | notice => cases shown
  | halStart | halStop | vibration | userActivity =>
      obtain rfl := Option.some.inj shown
      rfl

/-- Deliveries that were taken show one line each. -/
theorem countP_isDelivered_lines {effects : List Effect} (taken : Taken effects) :
    (lines effects).countP (·.isDelivered) = (attempts effects).length := by
  induction effects with
  | nil => rfl
  | cons effect effects ih =>
      obtain ⟨first, rest⟩ := taken_append.mp (show Taken ([effect] ++ effects) from taken)
      rw [← List.singleton_append, lines_append, attempts_append, List.countP_append,
        List.length_append, ih rest]
      congr 1
      cases effect with
      | delivery event answer =>
          obtain rfl : answer = .sent := first ⟨event, answer⟩ (by simp [deliveries, delivery?])
          rfl
      | _ => rfl

theorem isDeliveryFailed_lines {effects : List Effect} (taken : Taken effects) :
    ∀ line ∈ lines effects, line.isDeliveryFailed = false := by
  intro line member
  obtain ⟨effect, isEffect, shown⟩ := List.mem_filterMap.mp member
  cases effect with
  | delivery event answer =>
      obtain rfl : answer = .sent :=
        taken ⟨event, answer⟩ (List.mem_filterMap.mpr ⟨_, isEffect, rfl⟩)
      obtain rfl := Option.some.inj shown
      rfl
  | acquiredMetric | errorMetric | unlink | probed | probeSent | notice => cases shown
  | halStart | halStop | vibration | userActivity =>
      obtain rfl := Option.some.inj shown
      rfl

end Effect

/-! ## One operation -/

theorem Answers.calm_upTo (limit heard : Nat) (answers : Answers) :
    (answers.upTo limit heard).Calm := by
  intro earlier event
  change (if _ then DeliveryAnswer.sent else _) ≠ _
  split <;> simp

/-- What an operation comes to with a listener that takes everything, and with one that breaks
after so many events, if it has heard so many before. -/
inductive Step.Breaks (limit heard : Nat) (operation : Operation)
    (whole cut : Step BuiltinAction Reply) : Prop
  | intact (same : cut = whole) (taken : Effect.Taken whole.effects)
      (fits : heard + (Effect.attempts whole.effects).length ≤ limit)
  /-- The event whose delivery fails finishes the session, and no other delivery is
  attempted. -/
  | broken {event : HardwareEvent} (isEvent : operation = .callback event)
      {front rest back : List Effect} {told : ListenerEvent} (taken : Effect.Taken front)
      (full : heard + (Effect.attempts front).length = limit)
      (whole_eq : whole.effects = front ++ .delivery told .sent :: rest)
      (cut_eq : cut.effects = front ++ .delivery told (.refused .channelClosed) :: back)
      (silent : Effect.deliveries back = [])
      (finished : cut.ending = .returned (.verdict true))

/-- An operation without deliveries is the same for both listeners. -/
theorem Step.Breaks.of_untold {limit heard : Nat} {operation : Operation}
    {whole cut : Step BuiltinAction Reply} (within : heard ≤ limit) (same : cut = whole)
    (none : Effect.deliveries whole.effects = []) :
    whole.Breaks limit heard operation cut := by
  refine .intact same (by simp [Effect.Taken, none]) ?_
  simpa [Effect.attempts_eq_map_deliveries, none] using within

/-- After an event that was refused, an orderly call delivers nothing more and finishes the
session. -/
theorem Emission.Orderly.of_refused {emission : Emission Bool}
    (orderly : emission.Orderly (· = false)) {finished : Bool}
    (returned : emission.ending = .returned finished) {front back : List Effect}
    {told : ListenerEvent} {error : DeliveryError}
    (effects_eq : emission.effects = front ++ .delivery told (.refused error) :: back) :
    finished = true ∧ Effect.deliveries back = [] := by
  have deliveries_eq : Effect.deliveries emission.effects =
      Effect.deliveries front ++ ⟨told, .refused error⟩ :: Effect.deliveries back := by
    rw [effects_eq, Effect.deliveries_append]
    rfl
  have unroutine : DeliveryAttempt.routine ⟨told, .refused error⟩ = false := by
    simp [DeliveryAttempt.routine]
  refine ⟨?_, ?_⟩
  · cases finished with
    | true => rfl
    | false =>
        have routine := orderly.throughout false returned rfl ⟨told, .refused error⟩
          (by simp [deliveries_eq])
        cases unroutine.symm.trans routine
  · cases later : Effect.deliveries back with
    | nil => rfl
    | cons next others =>
        -- the refused event would not be the last one
        have routine := orderly.upToLast finished returned ⟨told, .refused error⟩
          (by simp [deliveries_eq, later])
        cases unroutine.symm.trans routine

namespace Session

variable {answers : Answers} {limit heard : Nat}

/-- Whatever is asked of a session, it does the same for both listeners, up to the first event
that is refused. -/
theorem breaks_perform (takes : answers.TakesAll) (within : heard ≤ limit) (setting : Setting)
    (session : Session BuiltinAction) (operation : Operation) :
    (session.perform setting answers operation).Breaks limit heard operation
      (session.perform setting (answers.upTo limit heard) operation) := by
  by_cases noEvent : ∀ event, operation ≠ .callback event
  · exact .of_untold within (perform_of_delivery noEvent setting answers session _)
      (deliveries_of_noEvent noEvent setting answers session)
  obtain ⟨event, rfl⟩ : ∃ event, operation = .callback event := by
    simpa using noEvent
  cases isOpen : session.isOpen with
  | false =>
      obtain ⟨same, none⟩ :=
        perform_callback_of_closed isOpen setting answers (answers.upTo limit heard) event
      exact .of_untold within same none
  | true =>
      obtain ⟨action_eq, breaks⟩ := breaks_reaction takes within setting session event
      have whole := effects_callback isOpen setting answers event
      have cut := effects_callback isOpen setting (answers.upTo limit heard) event
      have recovering : Effect.deliveries session.recovery = [] :=
        Effect.deliveries_eq_nil fun _ member => recovery_callsOut member
      have recovered : Effect.Taken session.recovery := by simp [Effect.Taken, recovering]
      have attempts_eq (effects : List Effect) :
          Effect.attempts (session.recovery ++ effects) = Effect.attempts effects := by
        rw [Effect.attempts_append, Effect.attempts_eq_map_deliveries session.recovery,
          recovering]
        rfl
      cases breaks with
      | intact same taken fits =>
          have reaction_eq := congr (congrArg Reaction.mk action_eq) same
          refine .intact (perform_callback_congr reaction_eq) ?_ ?_
          · rw [whole]
            exact Effect.taken_append.mpr ⟨recovered, taken⟩
          · rw [whole, attempts_eq]
            exact fits
      | @broken front rest back told taken full whole_eq cut_eq =>
          obtain ⟨finished, returned⟩ :=
            (plays_reaction (answers.calm_upTo limit heard) setting session event).returns
          obtain ⟨rfl, silent⟩ := (orderly_reaction _ _ _ _).of_refused returned cut_eq
          rw [whole_eq, ← List.append_assoc] at whole
          rw [cut_eq, ← List.append_assoc] at cut
          refine .broken rfl (Effect.taken_append.mpr ⟨recovered, taken⟩) ?_ whole cut silent
            (ending_callback isOpen returned)
          rw [attempts_eq]
          exact full

end Session

/-! ## Steps of a replay -/

/-- The same step, if the channels of all listeners break after so many events. -/
def ReplayStep.breakingAfter (limit : Nat) (step : ReplayStep) : ReplayStep :=
  { step with world := step.world.breakingAfter limit }

/-- A replay has gone the same way for both listeners, which had heard so many events before.
The listener that breaks has not refused anything yet. -/
structure ReplayStep.Intact (limit heard : Nat) (step cut : ReplayStep) : Prop where
  cut_eq : cut = step.breakingAfter limit
  attends : step.world.Attends (heard + step.lines.countP (·.isDelivered))
  fits : heard + step.lines.countP (·.isDelivered) ≤ limit
  taken : ∀ line ∈ step.lines, line.isDeliveryFailed = false

namespace ReplayStep.Intact

variable {limit heard : Nat} {step cut : ReplayStep}

/-- A step that tells the client nothing. -/
theorem of_untold (within : heard ≤ limit) (cut_eq : cut = step.breakingAfter limit)
    (attends : step.world.Attends heard)
    (untold : ∀ line ∈ step.lines, line.isDelivery = false) :
    step.Intact limit heard cut := by
  have none := ReplayLine.countP_isDelivered_of_untold untold
  exact ⟨cut_eq, by rwa [none], by rwa [none],
    ReplayLine.isDeliveryFailed_of_untold untold⟩

theorem lines_eq (intact : step.Intact limit heard cut) : cut.lines = step.lines := by
  rw [intact.cut_eq]
  rfl

theorem andThen (first : step.Intact limit heard cut)
    {next : World BuiltinAction → ReplayStep}
    (second : (next step.world).Intact limit (heard + step.lines.countP (·.isDelivered))
      (next (step.world.breakingAfter limit))) :
    (step.andThen next).Intact limit heard (cut.andThen next) := by
  have count : heard + (step.andThen next).lines.countP (·.isDelivered) =
      heard + step.lines.countP (·.isDelivered) +
        (next step.world).lines.countP (·.isDelivered) := by
    rw [lines_andThen, List.countP_append, Nat.add_assoc]
  refine ⟨?_, ?_, ?_, ?_⟩
  · rw [first.cut_eq]
    simp only [ReplayStep.andThen, breakingAfter, second.cut_eq]
  · rw [count]
    exact second.attends
  · rw [count]
    exact second.fits
  · rw [lines_andThen]
    exact List.forall_mem_append.mpr ⟨first.taken, second.taken⟩

end ReplayStep.Intact

namespace Replay

variable {world : World BuiltinAction} {limit heard : Nat}

/-- An operation that is no event of the hardware is the same for both listeners. -/
theorem perform_breakingAfter {operation : Operation}
    (noEvent : ∀ event, operation ≠ .callback event) (world : World BuiltinAction) :
    perform operation (world.breakingAfter limit) =
      (perform operation world).breakingAfter limit := by
  unfold perform
  rw [World.monitor?_breakingAfter]
  cases world.monitor? 0 with
  | none => rfl
  | some monitor =>
      simp only [Option.map_some, World.perform_breakingAfter_of_noEvent noEvent]
      rfl

theorem attends_perform {operation : Operation} (attends : world.Attends heard)
    (noEvent : ∀ event, operation ≠ .callback event) :
    (perform operation world).world.Attends heard := by
  unfold perform
  cases found : world.monitor? 0 with
  | none => exact attends
  | some monitor => exact World.attends_perform attends found noEvent

theorem clientDeath_breakingAfter (world : World BuiltinAction) :
    clientDeath (world.breakingAfter limit) = (clientDeath world).breakingAfter limit := by
  rw [clientDeath, World.notifyDeath_breakingAfter]
  rfl

theorem checkOwner_breakingAfter (processes : ProcessTable) (owner : Option UInt32)
    (world : World BuiltinAction) :
    checkOwner processes owner (world.breakingAfter limit) =
      (checkOwner processes owner world).breakingAfter limit := by
  unfold checkOwner
  rw [show (world.breakingAfter limit).tokens = world.tokens from rfl]
  split
  · rw [clientDeath_breakingAfter]
    split <;> rfl
  · rfl

theorem attends_checkOwner (attends : world.Attends heard) (processes : ProcessTable)
    (owner : Option UInt32) : (checkOwner processes owner world).world.Attends heard := by
  rcases Scene.checkOwner_cases processes owner world with nothing | ⟨record, gone⟩
  · rw [nothing]
    exact attends
  · rw [gone]
    exact World.attends_notifyDeath attends 0

end Replay

/-! ## Scenes -/

namespace Scene

variable {descriptor : SessionDescriptor} {stopStatus : Int32}
  {world : World BuiltinAction} {monitor between : Monitor BuiltinAction} {limit heard : Nat}

theorem breakingAfter (scene : Scene descriptor stopStatus world monitor) (limit : Nat) :
    Scene descriptor stopStatus (world.breakingAfter limit) (monitor.breakingAfter limit) where
  alone := by
    simp only [World.breakingAfter, scene.alone]
    rfl
  sound := scene.sound
  descriptor_eq := scene.descriptor_eq
  calm := by
    intro listener isListener told event
    obtain ⟨before, _, rfl⟩ := Option.map_eq_some_iff.mp isListener
    change (if _ then DeliveryAnswer.sent else _) ≠ _
    split <;> simp
  steady := scene.steady

theorem Looked.untold {look : ReplayStep}
    (looked : Looked descriptor stopStatus world monitor look between) :
    ∀ line ∈ look.lines, line.isDelivery = false := by
  rcases looked.probe with nothing | ⟨stops, notified, gone, cancels⟩
  · rw [nothing]
    exact List.forall_mem_nil _
  · rw [gone]
    exact ReplayLine.untold_death cancels notified

end Scene

/-- What a replay shows on the way from a scene, for both listeners, which have heard so many
events before. -/
inductive ReplayStep.Breaks (limit heard : Nat) (step cut : ReplayStep) : Prop
  | intact (intact : step.Intact limit heard cut)
  /-- The event whose delivery fails finishes the session. -/
  | broken {front rest back : List ReplayLine} {told : Delivery} {callback : Callback}
      (taken : ∀ line ∈ front, line.isDeliveryFailed = false)
      (full : heard + front.countP (·.isDelivered) = limit)
      (whole_eq : step.lines = front ++ .delivered told :: rest)
      (cut_eq : cut.lines =
        (front ++ .deliveryFailed told :: back) ++ [.verdict callback true])
      (silent : ∀ line ∈ back, line.isDelivery = false)

theorem Replay.isDelivery_of_answer {operation : Operation} {reply : Reply}
    {closing : ReplayLine} (answer : answerLine? operation reply = some closing) :
    closing.isDelivery = false := by
  cases operation <;> cases reply <;> cases answer <;> rfl

namespace Scene

variable {descriptor : SessionDescriptor} {stopStatus : Int32}
  {world : World BuiltinAction} {monitor : Monitor BuiltinAction} {limit heard : Nat}
  {operation : Operation}

/-- A replay shows the effects of an operation and what the session answers. -/
theorem lines_perform (scene : Scene descriptor stopStatus world monitor)
    (begun : operation ≠ .start)
    (shown : ∀ clearListener, operation ≠ .clientDied clearListener) :
    let step := monitor.session.perform monitor.setting (world.answers monitor) operation
    ∃ reply closing, step.ending = .returned reply ∧
      Replay.answerLine? operation reply = some closing ∧
      (Replay.perform operation world).lines = Effect.lines step.effects ++ [closing] := by
  intro step
  obtain ⟨reply, ended, fits⟩ := (scene.plays begun).answers
  obtain ⟨closing, answer⟩ := Replay.exists_answerLine fits shown
  have returned : (world.perform 0 monitor operation).ending = .returned reply := ended
  refine ⟨reply, closing, ended, answer, ?_⟩
  rw [scene.perform_eq, Replay.lines_report_of_returned returned, linesOf_perform, answer]
  rfl

/-- An operation shows the same for both listeners, up to the first delivery that fails. -/
theorem perform_breaks (scene : Scene descriptor stopStatus world monitor)
    (attends : world.Attends heard) (within : heard ≤ limit) (begun : operation ≠ .start)
    (shown : ∀ clearListener, operation ≠ .clientDied clearListener) :
    (Replay.perform operation world).Breaks limit heard
      (Replay.perform operation (world.breakingAfter limit)) := by
  obtain ⟨takes, answers_eq⟩ :=
    World.answers_of_attends (attends monitor scene.found) world
  have cutScene := scene.breakingAfter limit
  obtain ⟨reply, closing, ended, answer, lines_eq⟩ := scene.lines_perform begun shown
  obtain ⟨cutReply, cutClosing, cutEnded, cutAnswer, cutLines_eq⟩ :=
    cutScene.lines_perform begun shown
  rw [answers_eq] at cutEnded cutLines_eq
  cases Session.breaks_perform takes within monitor.setting monitor.session operation with
  | intact same taken fits =>
      have count : (Replay.perform operation world).lines.countP (·.isDelivered) =
          (Effect.attempts (monitor.session.perform monitor.setting (world.answers monitor)
            operation).effects).length := by
        have none : [closing].countP (·.isDelivered) = 0 :=
          ReplayLine.countP_isDelivered_of_untold (by simp [Replay.isDelivery_of_answer answer])
        rw [lines_eq, List.countP_append, none, Effect.countP_isDelivered_lines taken]
        rfl
      refine .intact ⟨?_, ?_, ?_, ?_⟩
      · rw [← answers_eq] at same
        rw [cutScene.perform_eq, scene.perform_eq, World.perform_breakingAfter same]
        rfl
      · intro after present
        rw [scene.perform_eq, Replay.world_report,
          World.monitor?_performed scene.found] at present
        obtain rfl := Option.some.inj present
        rw [count]
        exact (attends monitor scene.found).performed _ operation
      · rw [count]
        exact fits
      · rw [lines_eq]
        refine List.forall_mem_append.mpr ⟨Effect.isDeliveryFailed_lines taken, ?_⟩
        exact ReplayLine.isDeliveryFailed_of_untold
          (by simp [Replay.isDelivery_of_answer answer])
  | @broken event isEvent front rest back told taken full whole_eq cut_eq silent finished =>
      obtain rfl := isEvent
      obtain rfl := Ending.returned.inj (cutEnded.symm.trans finished)
      obtain rfl : _ = cutClosing := Option.some.inj cutAnswer
      have cutEffects : (Session.perform (monitor.breakingAfter limit).setting
          ((world.answers monitor).upTo limit heard) (monitor.breakingAfter limit).session
            (.callback event)).effects = _ := cut_eq
      rw [whole_eq, Effect.lines_append, List.append_assoc] at lines_eq
      rw [cutEffects, Effect.lines_append] at cutLines_eq
      refine .broken (Effect.isDeliveryFailed_lines taken) ?_ lines_eq cutLines_eq
        (Effect.untold_lines silent)
      rw [Effect.countP_isDelivered_lines taken]
      exact full

variable {script : ReplayScript} {cookie : Int32}

/-- An event of the script shows the same for both listeners, up to the first delivery that
fails. -/
theorem happen_breaks
    (scene : Scene (script.session.descriptor cookie) script.hal.stopStatus world monitor)
    (attends : world.Attends heard) (within : heard ≤ limit) (event : ScriptEvent) :
    (Replay.happen script.session event world).Breaks limit heard
      (Replay.happen script.session event (world.breakingAfter limit)) := by
  cases asks : event.operation? script.session with
  | some operation =>
      obtain ⟨begun, shown⟩ := ScriptEvent.operation?_ne asks
      simp only [Replay.happen, asks]
      exact scene.perform_breaks attends within begun shown
  | none =>
      simp only [Replay.happen, asks,
        show (world.breakingAfter limit).tokens = world.tokens from rfl]
      cases world.tokens with
      | nil =>
          exact .intact (.of_untold within rfl attends (List.forall_mem_singleton.mpr rfl))
      | cons token tokens =>
          obtain ⟨after, effects, notified, goes, cancels⟩ := scene.goes_clientDeath
          refine .intact (.of_untold within (Replay.clientDeath_breakingAfter world)
            (World.attends_notifyDeath attends 0) ?_)
          rw [goes.lines_eq]
          exact ReplayLine.untold_death cancels _

theorem checkOwner_intact
    (scene : Scene (script.session.descriptor cookie) script.hal.stopStatus world monitor)
    (attends : world.Attends heard) (within : heard ≤ limit) (processes : ProcessTable)
    (owner : Option UInt32) :
    (Replay.checkOwner processes owner world).Intact limit heard
      (Replay.checkOwner processes owner (world.breakingAfter limit)) := by
  obtain ⟨after, looked⟩ := scene.looked processes owner
  exact .of_untold within (Replay.checkOwner_breakingAfter processes owner world)
    (Replay.attends_checkOwner attends processes owner) looked.untold

end Scene

end BiometricSession
