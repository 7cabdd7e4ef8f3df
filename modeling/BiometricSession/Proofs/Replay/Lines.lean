import BiometricSession.Proofs.Action.Composed
import BiometricSession.Proofs.Action.Reports
import BiometricSession.Proofs.Session.Soundness
import BiometricSession.Replay.Run
import Mathlib.Algebra.GroupWithZero.Nat

/-!
# What a replay shows of its session

A replay shows an effect of its session by one line at most.  Which lines an operation can
show is fixed by the operation and by what was fixed when the session was made: a call of
the hardware for a stop or a death, and for an event what the client is told of it, the
vibration that confirms it and the sign that the user is active.  As long as no collaborator
breaks off a call, every operation comes to its end.
-/

namespace BiometricSession

/-! ## Kinds of lines -/

namespace ReplayLine

/-- How many recipients a line says were told of the client's death. -/
def notified : ReplayLine → Nat
  | clientDied count => count
  | _ => 0

/-- Whether a line shows that an event has finished the session. -/
def finishes : ReplayLine → Bool
  | verdict _ finished => finished
  | _ => false

/-- Whether a line shows that the session has ended. -/
def endsSession : ReplayLine → Bool
  | verdict _ finished => finished
  | destroyed => true
  | _ => false

/-- Whether a line closes something that a session does after its end: no verdict finishes it
again, and a stop is answered by zero. -/
def isIdle : ReplayLine → Bool
  | verdict _ finished => !finished
  | status _ code => code = 0
  | _ => true

/-- Whether a line shows an effect of the session, and closes nothing. -/
def isEffect : ReplayLine → Bool
  | halStart .. | halStop .. | delivered _ | deliveryFailed _ | haptic _ | userActivity _ => true
  | verdict .. | status .. | clientDied _ | destroyed => false

theorem notified_of_isEffect {line : ReplayLine} (isEffect : line.isEffect = true) :
    line.notified = 0 := by
  cases line with
  | clientDied => cases isEffect
  | _ => rfl

theorem sum_notified {lines : List ReplayLine} (effects : ∀ line ∈ lines, line.isEffect = true) :
    (lines.map (·.notified)).sum = 0 := by
  rw [List.sum_eq_zero_iff_forall_eq_nat]
  intro count member
  obtain ⟨line, isLine, rfl⟩ := List.mem_map.mp member
  exact notified_of_isEffect (effects line isLine)

theorem finishes_of_isEffect {line : ReplayLine} (isEffect : line.isEffect = true) :
    line.finishes = false := by
  cases line with
  | verdict => cases isEffect
  | _ => rfl

theorem endsSession_of_finishes {line : ReplayLine} (finishes : line.finishes = true) :
    line.endsSession = true := by
  cases line with
  | verdict => exact finishes
  | _ => cases finishes

theorem finishes_of_isIdle {line : ReplayLine} (idle : line.isIdle = true) :
    line.finishes = false := by
  cases line with
  | verdict callback finished => simpa [isIdle, finishes] using idle
  | _ => rfl

end ReplayLine

/-! ## Lines of effects -/

namespace Effect

/-- The line that a replay shows of an effect, if it shows one. -/
def line? : Effect → Option ReplayLine
  | halStart _ request answer => some (.halStart request.kind answer.code)
  | halStop byClient answer => some (.halStop byClient answer.code)
  | delivery event .sent => some (.delivered (.ofEvent event))
  | delivery event (.refused _) | delivery event .crash =>
      some (.deliveryFailed (.ofEvent event))
  | vibration effect _ => some (.haptic effect)
  | userActivity user => some (.userActivity user)
  | _ => none

def lines (effects : List Effect) : List ReplayLine :=
  effects.filterMap line?

@[simp]
theorem lines_nil : lines [] = [] :=
  rfl

@[simp]
theorem lines_append (first second : List Effect) :
    lines (first ++ second) = lines first ++ lines second :=
  List.filterMap_append

theorem line?_of_callsOut {effect : Effect} (silent : effect.callsOut = false) :
    effect.line? = none := by
  cases effect with
  | notice | unlink => rfl
  | _ => cases silent

theorem lines_of_callsOut {effects : List Effect}
    (silent : ∀ effect ∈ effects, effect.callsOut = false) : lines effects = [] :=
  List.filterMap_eq_nil_iff.mpr fun effect member => line?_of_callsOut (silent effect member)

end Effect

namespace Occurrence

theorem filterMap_line?_ofEffect (setting : Setting) (effect : Effect) :
    (ofEffect setting effect).filterMap line? = effect.line?.toList := by
  cases effect with
  | delivery event answer => cases answer <;> rfl
  | _ => rfl

/-- The lines of what happens in a replay's world. -/
def linesOf (happenings : List Happening) : List ReplayLine :=
  (happenings.flatMap ofHappening).filterMap line?

@[simp]
theorem linesOf_nil : linesOf [] = [] :=
  rfl

@[simp]
theorem linesOf_append (first second : List Happening) :
    linesOf (first ++ second) = linesOf first ++ linesOf second := by
  simp [linesOf]

@[simp]
theorem linesOf_effects (position : Nat) (setting : Setting) (effects : List Effect) :
    linesOf (effects.map (.effect position setting)) = Effect.lines effects := by
  induction effects with
  | nil => rfl
  | cons effect effects ih =>
      change ((ofEffect setting effect ++ _).filterMap line?) = _
      rw [List.filterMap_append, filterMap_line?_ofEffect]
      change _ ++ linesOf _ = _
      rw [ih]
      unfold Effect.lines
      rw [List.filterMap_cons]
      cases effect.line? <;> rfl

end Occurrence

namespace ReplayStep

/-- The lines that a replay shows on the way to a world. -/
def lines (step : ReplayStep) : List ReplayLine :=
  step.occurrences.filterMap Occurrence.line?

@[simp]
theorem lines_still (world : World BuiltinAction) : lines ⟨world, []⟩ = [] :=
  rfl

@[simp]
theorem lines_andThen (first : ReplayStep) (next : World BuiltinAction → ReplayStep) :
    (first.andThen next).lines = first.lines ++ (next first.world).lines := by
  simp [andThen, lines]

@[simp]
theorem world_andThen (first : ReplayStep) (next : World BuiltinAction → ReplayStep) :
    (first.andThen next).world = (next first.world).world :=
  rfl

end ReplayStep

namespace Replay

theorem lines_report_of_returned {Value : Type} {step : WorldStep BuiltinAction Value}
    {value : Value} (returned : step.ending = .returned value)
    (line? : Value → Option ReplayLine) :
    (report step line?).lines = Occurrence.linesOf step.happenings ++ (line? value).toList := by
  have shown : ((line? value).toList.map Occurrence.shown).filterMap Occurrence.line? =
      (line? value).toList := by
    cases line? value <;> rfl
  simp only [ReplayStep.lines, report, returned, List.filterMap_append, shown]
  rfl

theorem lines_report_of_unanswered {Value : Type} (step : WorldStep BuiltinAction Value) :
    (report step fun _ => none).lines = Occurrence.linesOf step.happenings := by
  simp only [ReplayStep.lines, report]
  cases step.ending <;> simp [Occurrence.linesOf]

@[simp]
theorem world_report {Value : Type} (step : WorldStep BuiltinAction Value)
    (line? : Value → Option ReplayLine) : (report step line?).world = step.world :=
  rfl

end Replay

/-! ## Calls -/

/-- An emission comes to its end and shows only lines of some kind. -/
structure Emission.Plays {Value : Type} (shown : ReplayLine → Prop)
    (emission : Emission Value) : Prop where
  returns : ∃ value, emission.ending = .returned value
  shows : ∀ line ∈ Effect.lines emission.effects, shown line

namespace Call

variable {First Second Value : Type} {shown : ReplayLine → Prop}

/-- A call comes to its end and shows only lines of some kind, whatever was delivered before
it. -/
def Plays (shown : ReplayLine → Prop) (call : Call Value) : Prop :=
  ∀ earlier, (call earlier).Plays shown

namespace Plays

theorem pure (value : Value) : (Pure.pure value : Call Value).Plays shown :=
  fun _ => ⟨⟨value, rfl⟩, by simp [Pure.pure, Call.pure]⟩

theorem emit {effects : List Effect} (shows : ∀ line ∈ Effect.lines effects, shown line) :
    (Call.emit effects).Plays shown :=
  fun _ => ⟨⟨(), rfl⟩, shows⟩

theorem note (notice : Notice) : (Call.note notice).Plays shown :=
  emit (by simp [Effect.lines, Effect.line?])

theorem bind {first : Call First} {next : First → Call Second} (front : first.Plays shown)
    (back : ∀ value, (next value).Plays shown) : (first >>= next).Plays shown := by
  intro earlier
  obtain ⟨value, ended⟩ := (front earlier).returns
  obtain ⟨between, joined⟩ := bind_eq_of_returned next ended
  rw [joined]
  refine ⟨(back value between).returns, ?_⟩
  rw [Effect.lines_append]
  intro line member
  rcases List.mem_append.mp member with before | after
  · exact (front earlier).shows line before
  · exact (back value between).shows line after

end Plays

end Call

/-! ## Events -/

namespace HardwareEvent

/-- What the client may be told of an event, as far as a line shows it. -/
def news (descriptor : SessionDescriptor) : HardwareEvent → List Delivery
  | acquired info vendor => [.acquired descriptor.device info vendor]
  | error device code vendor => [.error device code vendor descriptor.cookie]
  | result (.enrolled identifier remaining) => [.enrollResult identifier.biometric remaining]
  | result (.authenticated identifier true token) =>
      [.authenticationSucceeded identifier.biometric token.length]
  | result (.authenticated _ false _) =>
      [.authenticationFailed descriptor.device,
        .error descriptor.device ErrorCode.lockout 0 descriptor.cookie]
  | result (.removed identifier remaining) => [.removed identifier.biometric remaining]
  | result (.enumerated identifier remaining) => [.enumerated identifier.biometric remaining]

/-- The vibration that can confirm an event. -/
def vibration? : HardwareEvent → Option HapticEffect
  | result outcome => outcome.vibration?
  | acquired .. | error .. => none

/-- Whether an event shows that the user is active. -/
def wakes : HardwareEvent → Bool
  | acquired info _ => info = AcquiredCode.good
  | error .. | result _ => false

/-- The lines that an event of the hardware may show. -/
def shows (descriptor : SessionDescriptor) (event : HardwareEvent) : ReplayLine → Prop
  | .delivered told | .deliveryFailed told => told ∈ event.news descriptor
  | .haptic effect => event.vibration? = some effect
  | .userActivity user => event.wakes = true ∧ user = descriptor.targetUser
  | _ => False

theorem isEffect_of_shows {descriptor : SessionDescriptor} {event : HardwareEvent}
    {line : ReplayLine} (shown : event.shows descriptor line) : line.isEffect = true := by
  cases line with
  | delivered | deliveryFailed | haptic | userActivity => rfl
  | _ => cases shown

theorem mem_news_result (descriptor : SessionDescriptor) (outcome : HardwareResult) :
    Delivery.ofEvent (outcome.news descriptor.device) ∈ (result outcome).news descriptor := by
  cases outcome with
  | authenticated identifier accepted token => cases accepted <;> exact List.mem_cons_self
  | enrolled | removed | enumerated => exact List.mem_cons_self

theorem lockout_mem_news (descriptor : SessionDescriptor) {outcome : HardwareResult}
    (rejection : outcome.isRejection = true) :
    Delivery.error descriptor.device ErrorCode.lockout 0 descriptor.cookie ∈
      (result outcome).news descriptor := by
  cases outcome with
  | authenticated identifier accepted token =>
      cases accepted with
      | true => cases rejection
      | false => exact List.mem_cons_of_mem _ List.mem_cons_self
  | enrolled | removed | enumerated => cases rejection

end HardwareEvent

/-! ## What the scope offers -/

/-- The listener breaks off no delivery. -/
def Answers.Calm (answers : Answers) : Prop :=
  ∀ earlier event, answers.delivery earlier event ≠ .crash

namespace Scope

variable {scope : Scope} {event : HardwareEvent}

theorem plays_vibrate {effect : Option HapticEffect}
    (fits : ∀ known ∈ effect, event.vibration? = some known) :
    (vibrate effect).Plays (event.shows scope.setting.descriptor) := by
  refine Call.Plays.emit ?_
  cases effect with
  | none => simp
  | some effect => simpa [Effect.lines, Effect.line?, HardwareEvent.shows] using fits effect rfl

theorem plays_deliverOrNote (calm : scope.answers.Calm) {told : ListenerEvent}
    (isNews : .ofEvent told ∈ event.news scope.setting.descriptor) :
    (scope.deliverOrNote told).Plays (event.shows scope.setting.descriptor) := by
  intro earlier
  rw [deliverOrNote_eq]
  have unbroken := calm earlier told
  split
  · split
    · exact ⟨⟨_, rfl⟩, by simpa [Effect.lines, Effect.line?, HardwareEvent.shows] using isNews⟩
    · exact ⟨⟨_, rfl⟩, by simpa [Effect.lines, Effect.line?, HardwareEvent.shows] using isNews⟩
    · contradiction
  · exact ⟨⟨_, rfl⟩, by simp⟩

theorem plays_reportError (calm : scope.answers.Calm) {kind : ClientKind} {device : UInt64}
    {error vendor : Int32}
    (isNews : .error device error vendor scope.setting.descriptor.cookie ∈
      event.news scope.setting.descriptor) :
    (scope.reportError kind device error vendor).Plays
      (event.shows scope.setting.descriptor) := by
  unfold reportError
  refine (Call.Plays.emit (by simp [Effect.lines, Effect.line?])).bind ?_
  intro _
  refine (plays_deliverOrNote calm ?_).bind fun _ => .pure _
  exact isNews

end Scope

theorem Scope.composes_plays (scope : Scope) (calm : scope.answers.Calm) (kind : ClientKind)
    (result : HardwareResult) :
    scope.Composes kind result fun call =>
      call.Plays ((HardwareEvent.result result).shows scope.setting.descriptor) where
  pure := Call.Plays.pure
  bind := Call.Plays.bind
  note := Call.Plays.note
  vibrate _ fits := plays_vibrate fits
  tell := plays_deliverOrNote calm (HardwareEvent.mem_news_result _ result)
  lockout _ rejection := plays_reportError calm (HardwareEvent.lockout_mem_news _ rejection)

namespace Session

variable {setting : Setting} {answers : Answers} {session : Session BuiltinAction}

theorem plays_acquired {scope : Scope} (calm : scope.answers.Calm) (action : BuiltinAction)
    (info vendor : Int32) :
    (acquired scope action info vendor).Plays
      ((HardwareEvent.acquired info vendor).shows scope.setting.descriptor) := by
  have wake : ∀ failed : Bool,
      (do
        if info = AcquiredCode.good then
          Call.emit [.userActivity scope.user]
        return failed : Call Bool).Plays
        ((HardwareEvent.acquired info vendor).shows scope.setting.descriptor) := by
    intro failed
    dsimp only
    split
    · rename_i good
      refine (Call.Plays.emit ?_).bind fun _ => .pure failed
      simp [Effect.lines, Effect.line?, HardwareEvent.shows, HardwareEvent.wakes, good,
        Scope.user]
    · exact .pure failed
  unfold acquired
  refine (Call.Plays.emit (by simp [Effect.lines, Effect.line?])).bind ?_
  intro _
  refine (Call.Plays.note _).bind ?_
  intro _
  dsimp only
  split
  · refine (Call.Plays.note _).bind ?_
    intro _
    exact (Call.Plays.pure false).bind wake
  · exact (Scope.plays_deliverOrNote calm List.mem_cons_self).bind wake

/-- What a session makes of an event comes to its end and shows only what the event may
show. -/
theorem plays_reaction (calm : answers.Calm) (setting : Setting)
    (session : Session BuiltinAction) (event : HardwareEvent) :
    (session.reaction setting answers event).emission.Plays
      (event.shows setting.descriptor) := by
  let scope := session.scope setting answers
  have calm : scope.answers.Calm := calm
  cases event with
  | acquired info vendor =>
      exact plays_acquired calm session.action info vendor []
  | error device error vendor =>
      have report : (failed scope session.action device error vendor).Plays
          ((HardwareEvent.error device error vendor).shows setting.descriptor) := by
        unfold failed
        refine (Scope.plays_reportError calm ?_).bind fun _ => .pure _
        exact List.mem_cons_self
      exact report []
  | result result =>
      have composes := scope.composes_plays calm session.action.kind result
      obtain ⟨call, plays, answer⟩ := BuiltinAction.respond_composed composes
      change (session.action.respond scope result).emission.Plays _
      rw [answer]
      exact plays []

end Session

/-! ## Operations -/

namespace Operation

/-- The lines that an operation may show after the start, given how the hardware answers a
stop. -/
def shows (descriptor : SessionDescriptor) (stopStatus : Int32) :
    Operation → ReplayLine → Prop
  | start, _ | destroy, _ => False
  | stop byClient, line => line = .halStop byClient stopStatus
  | callback event, line => event.shows descriptor line
  | clientDied _, line => line = .halStop false stopStatus

/-- Whether an answer is of the kind that an operation gives. -/
def isAnsweredBy : Operation → Reply → Bool
  | start, .status _ | stop _, .status _ | callback _, .verdict _ | clientDied _, .none
  | destroy, .none => true
  | _, _ => false

theorem isEffect_of_shows {descriptor : SessionDescriptor} {stopStatus : Int32}
    {operation : Operation} {line : ReplayLine}
    (shown : operation.shows descriptor stopStatus line) : line.isEffect = true := by
  cases operation with
  | start | destroy => cases shown
  | callback event => exact HardwareEvent.isEffect_of_shows shown
  | stop | clientDied =>
      rw [shown]
      rfl

end Operation

/-- A session comes through an operation, which shows only lines of its own. -/
structure Step.Plays (setting : Setting) (stopStatus : Int32) (operation : Operation)
    (step : Step BuiltinAction Reply) : Prop where
  shows : ∀ line ∈ Effect.lines step.effects,
    operation.shows setting.descriptor stopStatus line
  answers : ∃ reply, step.ending = .returned reply ∧ operation.isAnsweredBy reply = true
  ends : step.ending = .returned (.verdict true) → step.session.phase = .terminated

namespace Session

variable {setting : Setting} {answers : Answers} {session : Session BuiltinAction}
  {stopStatus : Int32}

theorem Cancelling.plays {byClient : Bool} {step : Step BuiltinAction Int32}
    (stops : answers.stop = .status stopStatus)
    (cancelling : Cancelling answers session byClient step) :
    (∀ line ∈ Effect.lines step.effects, line = .halStop byClient stopStatus) ∧
      ∃ code, step.ending = .returned code := by
  cases cancelling with
  | ended | repeated => exact ⟨by simp [Effect.lines, Effect.line?], 0, rfl⟩
  | broken live first answer => cases stops.symm.trans answer
  | accepted live first answer | refused live first nonzero answer =>
      obtain rfl := HalAnswer.status.inj (stops.symm.trans answer)
      exact ⟨by simp [Effect.lines, Effect.line?, HalAnswer.code], _, rfl⟩

theorem Outcome.plays {operation : Operation} {step : Step BuiltinAction Reply}
    (calm : answers.Calm) (stops : answers.stop = .status stopStatus)
    (begun : operation ≠ .start)
    (outcome : Outcome setting answers session operation step) :
    step.Plays setting stopStatus operation := by
  cases outcome with
  | startIgnored | startBroken | startAccepted | startRefused => contradiction
  | stopped cancelling =>
      obtain ⟨shows, code, ended⟩ := cancelling.plays stops
      exact ⟨shows, ⟨.status code, by simp [ended, Ending.map], rfl⟩, by
        simp [ended, Ending.map]⟩
  | droppedAfterVerdict | droppedAfterDestroy =>
      exact ⟨by simp [Effect.lines, Effect.line?], ⟨_, rfl, rfl⟩, by simp⟩
  | @reactionBroken event undone live crash ending =>
      obtain ⟨value, returned⟩ := (plays_reaction calm setting session event).returns
      cases ending.symm.trans returned
  | @finished event undone live ending =>
      exact ⟨(plays_reaction calm setting session event).shows, ⟨_, rfl, rfl⟩, fun _ => rfl⟩
  | @continued event undone live ending =>
      exact ⟨(plays_reaction calm setting session event).shows, ⟨_, rfl, rfl⟩, by simp⟩
  | diedAfterDestroy =>
      exact ⟨by simp [Effect.lines, Effect.line?], ⟨_, rfl, rfl⟩, by simp⟩
  | deathBroken standing cancelling =>
      obtain ⟨_, code, ended⟩ := cancelling.plays stops
      cases ended
  | deathHandled standing cancelling =>
      obtain ⟨shows, _⟩ := cancelling.plays stops
      exact ⟨shows, ⟨_, rfl, rfl⟩, by simp⟩
  | destroyed =>
      have silent : Effect.lines (session.destroyEffects answers) = [] :=
        Effect.lines_of_callsOut fun _ member => destroyEffects_callsOut member
      exact ⟨by simp [silent], ⟨_, rfl, rfl⟩, by simp⟩

theorem plays_perform (calm : answers.Calm) (stops : answers.stop = .status stopStatus)
    (setting : Setting) (session : Session BuiltinAction) {operation : Operation}
    (begun : operation ≠ .start) :
    (session.perform setting answers operation).Plays setting stopStatus operation := by
  obtain ⟨step, outcome, performed⟩ := perform_outcome setting answers session operation
  have plays := outcome.plays calm stops begun
  have recovering : Effect.lines session.recovery = [] :=
    Effect.lines_of_callsOut fun _ member => recovery_callsOut member
  rw [performed]
  refine ⟨?_, by simpa using plays.answers, by simpa using plays.ends⟩
  rw [locked_effects, Effect.lines_append, recovering]
  exact plays.shows

/-- A session that was not begun yet asks the hardware to start, and answers what the
hardware does. -/
theorem lines_start (setting : Setting) {startStatus : Int32}
    (created : session.phase = .created)
    (starts : answers.start = .status startStatus) :
    Effect.lines (session.perform setting answers .start).effects =
        [.halStart session.action.request.kind startStatus] ∧
      (session.perform setting answers .start).ending = .returned (.status startStatus) := by
  obtain ⟨step, outcome, performed⟩ := perform_outcome setting answers session .start
  have recovering : Effect.lines session.recovery = [] :=
    Effect.lines_of_callsOut fun _ member => recovery_callsOut member
  rw [performed, locked_effects, locked_ending, Effect.lines_append, recovering]
  cases outcome with
  | startIgnored begun => contradiction
  | startBroken _ answer => cases starts.symm.trans answer
  | startAccepted _ answer | startRefused _ nonzero answer =>
      obtain rfl := HalAnswer.status.inj (starts.symm.trans answer)
      exact ⟨rfl, rfl⟩

end Session

end BiometricSession
