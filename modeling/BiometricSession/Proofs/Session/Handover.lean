import BiometricSession.Proofs.Action.Counting
import BiometricSession.Proofs.Action.Scoped
import BiometricSession.Proofs.Session.Aging
import BiometricSession.Proofs.Session.Hardware

/-!
# Handing an operation over to the hardware

An operation calls the hardware once at most.  A session asks for a start only while
it is created, and is running once the hardware has taken it; it asks for a stop only
while it is not cancelled, and is cancelled once the hardware has taken that.  So
neither call follows an accepted one of its kind.  The request is the one that the
action was made with, whatever the hardware has reported in between.

A refused call leaves no trace in the session, which may try again.
-/

namespace BiometricSession

namespace Effect

/-- Whether an effect asks the hardware to start. -/
def isStart : Effect → Bool
  | halStart .. => true
  | _ => false

/-- Whether an effect asks the hardware to stop. -/
def isStop : Effect → Bool
  | halStop .. => true
  | _ => false

theorem acceptedStart_iff {descriptor : SessionDescriptor} {request : HalRequest}
    {answer : HalAnswer} :
    (halStart descriptor request answer).acceptedStart = true ↔ answer = .status 0 := by
  cases answer <;> simp [acceptedStart]

theorem acceptedStop_iff {byClient : Bool} {answer : HalAnswer} :
    (halStop byClient answer).acceptedStop = true ↔ answer = .status 0 := by
  cases answer <;> simp [acceptedStop]

theorem isStart_of_acceptedStart {effect : Effect} (accepted : effect.acceptedStart = true) :
    effect.isStart = true := by
  cases effect with
  | halStart => rfl
  | _ => cases accepted

theorem isStop_of_acceptedStop {effect : Effect} (accepted : effect.acceptedStop = true) :
    effect.isStop = true := by
  cases effect with
  | halStop => rfl
  | _ => cases accepted

/-- Among some calls, none of a kind follows an accepted one; as long as more calls of
the kind may come, none was accepted. -/
structure Closes (accepted kind : Effect → Bool) (mayCall : Prop) (calls : List Effect) :
    Prop where
  none_after : ∀ earlier call later, calls = earlier ++ call :: later →
    accepted call = true → ∀ other ∈ later, kind other = false
  none_yet : mayCall → ∀ call ∈ calls, accepted call = false

theorem hardwareCalls_eq_nil_of_inReach {effects : List Effect} {listening : Bool}
    (within : ∀ effect ∈ effects, effect.inReach listening = true) :
    hardwareCalls effects = [] := by
  refine List.filter_eq_nil_iff.mpr ?_
  intro effect member
  have reach := within effect member
  cases effect with
  | halStart | halStop => cases reach
  | _ => simp [reachesHardware]

namespace Closes

variable {accepted kind : Effect → Bool} {mayCall still : Prop} {calls : List Effect}

theorem nil : Closes accepted kind mayCall [] :=
  ⟨by simp, by simp⟩

theorem mono (closes : Closes accepted kind mayCall calls) (fewer : still → mayCall) :
    Closes accepted kind still calls :=
  ⟨closes.none_after, closes.none_yet ∘ fewer⟩

/-- One more call, which is of the kind only if that was possible, and ends the
possibility if it is accepted. -/
theorem snoc (closes : Closes accepted kind mayCall calls) {call : Effect}
    (allowed : kind call = true → mayCall) (fewer : still → mayCall)
    (closed : accepted call = true → ¬ still) :
    Closes accepted kind still (calls ++ [call]) where
  none_after := by
    intro earlier first later split isAccepted other member
    -- the new call comes last, so that it is `first` only if nothing follows
    rcases List.eq_nil_or_concat later with rfl | ⟨between, last, rfl⟩
    · cases member
    rw [List.concat_eq_append, ← List.cons_append, ← List.append_assoc] at split
    obtain ⟨past, isLast⟩ := List.append_inj' split rfl
    obtain rfl := List.head_eq_of_cons_eq isLast
    rw [List.concat_eq_append] at member
    rcases List.mem_append.mp member with before | now
    · exact closes.none_after earlier first between past isAccepted other before
    · obtain rfl := List.mem_singleton.mp now
      cases isKind : kind other with
      | false => rfl
      | true =>
          have unaccepted := closes.none_yet (allowed isKind) first (by simp [past])
          simp [isAccepted] at unaccepted
  none_yet := by
    intro possible other member
    rcases List.mem_append.mp member with before | now
    · exact closes.none_yet (fewer possible) other before
    · obtain rfl := List.mem_singleton.mp now
      exact Bool.eq_false_iff.mpr fun isAccepted => closed isAccepted possible

end Closes

end Effect

namespace Session

variable {Action : Type} {session : Session Action}

/-- A call of the hardware that a session may make, given what it is afterwards. -/
inductive Asks (setting : Setting) (request : HalRequest) (session after : Session Action) :
    Effect → Prop
  | start (created : session.phase = .created) {answer : HalAnswer}
      (taken : answer = .status 0 → after.phase = .running) :
      Asks setting request session after (.halStart setting.descriptor request answer)
  | stop (first : session.cancelled = false) {byClient : Bool} {answer : HalAnswer}
      (taken : answer = .status 0 → after.cancelled = true) :
      Asks setting request session after (.halStop byClient answer)

/-- Some effects call the hardware once at most. -/
def AsksOnce (setting : Setting) (request : HalRequest) (session after : Session Action)
    (effects : List Effect) : Prop :=
  Effect.hardwareCalls effects = [] ∨
    ∃ call, Effect.hardwareCalls effects = [call] ∧ Asks setting request session after call

theorem Cancelling.asksOnce {answers : Answers} {byClient : Bool} {step : Step Action Int32}
    (cancelling : Cancelling answers session byClient step) (setting : Setting)
    (request : HalRequest) :
    AsksOnce setting request session step.session step.effects := by
  cases cancelling with
  | ended | repeated => exact .inl rfl
  | broken live first => exact .inr ⟨_, rfl, .stop first (by simp)⟩
  | accepted live first => exact .inr ⟨_, rfl, .stop first fun _ => rfl⟩
  | refused live first nonzero => exact .inr ⟨_, rfl, .stop first (by simp [nonzero])⟩

section Action

variable [HardwareAction Action] {setting : Setting} {answers : Answers}
  {operation : Operation}

theorem reaction_hardwareCalls [ScopedAction Action] (setting : Setting) (answers : Answers)
    (session : Session Action) (event : HardwareEvent) :
    Effect.hardwareCalls (session.reaction setting answers event).emission.effects = [] :=
  Effect.hardwareCalls_eq_nil_of_inReach (session.reaction_inReach setting answers event)

theorem Outcome.asksOnce [ScopedAction Action] {step : Step Action Reply}
    (outcome : Outcome setting answers session operation step) :
    AsksOnce setting (HardwareAction.request session.action) session step.session
      step.effects := by
  cases outcome with
  | startIgnored | droppedAfterVerdict | droppedAfterDestroy | diedAfterDestroy =>
      exact .inl rfl
  | startBroken created => exact .inr ⟨_, rfl, .start created (by simp)⟩
  | startAccepted created => exact .inr ⟨_, rfl, .start created fun _ => rfl⟩
  | startRefused created nonzero => exact .inr ⟨_, rfl, .start created (by simp [nonzero])⟩
  | stopped cancelling => exact cancelling.asksOnce setting _
  | reactionBroken | finished | continued =>
      exact .inl (session.reaction_hardwareCalls setting answers _)
  | deathBroken standing cancelling => exact cancelling.asksOnce setting _
  | deathHandled standing cancelling =>
      rcases cancelling.asksOnce setting (HardwareAction.request session.action) with
        nothing | ⟨call, only, asks⟩
      · exact .inl nothing
      · refine .inr ⟨call, only, ?_⟩
        cases asks with
        | start created taken => exact .start created taken
        | stop first taken => exact .stop first taken
  | destroyed =>
      exact .inl (Effect.hardwareCalls_eq_nil fun effect member =>
        destroyEffects_callsOut member)

omit [HardwareAction Action] in
theorem hardwareCalls_locked {Value : Type} (session : Session Action)
    (step : Step Action Value) :
    Effect.hardwareCalls (session.locked step).effects = Effect.hardwareCalls step.effects := by
  rw [locked_effects, Effect.hardwareCalls_append,
    Effect.hardwareCalls_eq_nil fun effect member => recovery_callsOut member]
  rfl

/-- An operation calls the hardware once at most, and only if its session may. -/
theorem asksOnce_perform [ScopedAction Action] (setting : Setting) (answers : Answers)
    (session : Session Action) (operation : Operation) :
    let step := session.perform setting answers operation
    AsksOnce setting (HardwareAction.request session.action) session step.session
      step.effects := by
  obtain ⟨step, outcome, performed⟩ := perform_outcome setting answers session operation
  simp only [performed, AsksOnce, hardwareCalls_locked]
  rcases outcome.asksOnce with nothing | ⟨call, only, asks⟩
  · exact .inl nothing
  · refine .inr ⟨call, only, ?_⟩
    cases asks with
    | start created taken => exact .start created (by simpa using taken)
    | stop first taken => exact .stop first (by simpa using taken)

/-- An operation that makes a call which the hardware refuses with a code. -/
inductive Refused (code : Int32) (effects : List Effect) : Operation → Prop
  | start {descriptor : SessionDescriptor} {request : HalRequest}
      (call : .halStart descriptor request (.status code) ∈ effects) : Refused code effects .start
  | stop {byClient asked : Bool} (call : .halStop asked (.status code) ∈ effects) :
      Refused code effects (.stop byClient)

omit [HardwareAction Action] in
theorem notice_of_recovery {effect : Effect} (member : effect ∈ session.recovery) :
    effect = .notice .recoveringLock := by
  unfold recovery at member
  split at member
  · exact List.mem_singleton.mp member
  · cases member

omit [HardwareAction Action] in
theorem attempts_recovery (session : Session Action) :
    Effect.attempts session.recovery = [] := by
  unfold recovery
  cases session.poisoned <;> rfl

omit [HardwareAction Action] in
theorem Refused.of_recovery {code : Int32} {effects : List Effect}
    (refused : Refused code (session.recovery ++ effects) operation) :
    Refused code effects operation := by
  cases refused with
  | start call =>
      rcases List.mem_append.mp call with recovering | called
      · cases notice_of_recovery recovering
      · exact .start called
  | stop call =>
      rcases List.mem_append.mp call with recovering | called
      · cases notice_of_recovery recovering
      · exact .stop called

omit [HardwareAction Action] in
theorem Cancelling.of_refused {byClient asked : Bool} {step : Step Action Int32}
    (cancelling : Cancelling answers session byClient step) {code : Int32}
    (nonzero : code ≠ 0) (call : .halStop asked (.status code) ∈ step.effects) :
    step.session = session ∧ step.ending = .returned code ∧
      Effect.attempts step.effects = [] := by
  cases cancelling with
  | ended | repeated | broken => simp at call
  | accepted => simp [nonzero] at call
  | refused live first other answer =>
      obtain ⟨_, rfl⟩ : asked = byClient ∧ code = _ := by simpa using call
      exact ⟨rfl, rfl, rfl⟩

theorem Outcome.of_refused {step : Step Action Reply}
    (outcome : Outcome setting answers session operation step) {code : Int32}
    (nonzero : code ≠ 0) (refused : Refused code step.effects operation) :
    step.session = session ∧ step.ending = .returned (.status code) ∧
      Effect.attempts step.effects = [] := by
  cases refused with
  | start call =>
      cases outcome with
      | startIgnored | startBroken => simp at call
      | startAccepted => simp [nonzero] at call
      | startRefused created other answer =>
          obtain ⟨_, _, rfl⟩ : _ ∧ _ ∧ code = _ := by simpa using call
          exact ⟨rfl, rfl, rfl⟩
  | stop call =>
      cases outcome with
      | stopped cancelling =>
          obtain ⟨same, returned, untold⟩ := cancelling.of_refused nonzero call
          exact ⟨same, by simp [returned, Ending.map], untold⟩

/-- A call that the hardware refuses is answered with the hardware's code and leaves the
session as it was. -/
theorem perform_of_refused (setting : Setting) (answers : Answers)
    (session : Session Action) (operation : Operation) {code : Int32} (nonzero : code ≠ 0)
    (refused : Refused code (session.perform setting answers operation).effects operation) :
    let step := session.perform setting answers operation
    step.session = session ∧ step.ending = .returned (.status code) ∧
      Effect.attempts step.effects = [] := by
  obtain ⟨step, outcome, performed⟩ := perform_outcome setting answers session operation
  rw [performed, locked_effects] at refused
  obtain ⟨same, returned, untold⟩ := outcome.of_refused nonzero refused.of_recovery
  simp only [performed, locked_session, locked_effects, locked_ending, returned]
  refine ⟨same, trivial, ?_⟩
  have joined : Effect.attempts (session.recovery ++ step.effects) =
      Effect.attempts session.recovery ++ Effect.attempts step.effects :=
    List.filterMap_append
  rw [joined, attempts_recovery, untold]
  rfl

theorem hardwareCalls_drop (setting : Setting) (answers : Answers)
    (session : Session Action) :
    Effect.hardwareCalls (session.drop setting answers).effects = [] := by
  have opening : Effect.hardwareCalls
      (.notice .leaked :: session.unlinking answers .leakUnlinkFailed) = [] :=
    (Effect.hardwareCalls_notice _ _).trans
      (Effect.hardwareCalls_eq_nil fun effect member => unlinking_callsOut member)
  have reported := Effect.hardwareCalls_eq_nil_of_inReach
    ((session.scope setting answers).scoped_reportError (HardwareAction.kind session.action)
      (session.scope setting answers).device ErrorCode.hardwareUnavailable 0 [])
  unfold drop
  cases session.token with
  | none => rfl
  | some token =>
      cases session.done with
      | true => exact opening
      | false =>
          simp only [Bool.false_eq_true, if_false, Effect.hardwareCalls_append, opening]
          exact reported

end Action

/-! ## The four actions -/

section Builtin

variable {session : Session BuiltinAction} {setting : Setting} {answers : Answers}
  {operation : Operation}

/-- A session and the calls of the hardware in its life so far. -/
structure HandsOver (session : Session BuiltinAction) (setting : Setting)
    (request : HalRequest) (calls : List Effect) : Prop where
  starts : Effect.Closes (·.acceptedStart) (·.isStart) (session.phase = .created) calls
  stops : Effect.Closes (·.acceptedStop) (·.isStop) (session.cancelled = false) calls
  faithful : ∀ descriptor asked answer, .halStart descriptor asked answer ∈ calls →
    descriptor = setting.descriptor ∧ asked = request
  request_eq : session.action.request = request

namespace HandsOver

variable {request : HalRequest} {calls : List Effect}

theorem make (setting : Setting) (action : BuiltinAction) (listening : Bool)
    (linked : Option (Nat × Except TokenError Nat)) :
    (Session.make action listening linked).1.HandsOver setting action.request [] := by
  refine ⟨.nil, .nil, by simp, ?_⟩
  rcases linked with _ | ⟨token, error | link⟩ <;> rfl

theorem perform (handsOver : session.HandsOver setting request calls) (answers : Answers)
    (operation : Operation) :
    let step := session.perform setting answers operation
    step.session.HandsOver setting request (calls ++ Effect.hardwareCalls step.effects) := by
  intro step
  have ages := session.ages_perform setting answers operation
  have request_eq : step.session.action.request = request :=
    (counts_perform setting answers session operation).request_eq.trans handsOver.request_eq
  -- a session that is created, or not cancelled, now was so before: neither
  -- possibility comes back
  rcases asksOnce_perform setting answers session operation with
    nothing | ⟨call, only, asks⟩
  · rw [nothing, List.append_nil]
    exact ⟨handsOver.starts.mono ages.created, handsOver.stops.mono ages.uncancelled,
      handsOver.faithful, request_eq⟩
  rw [only]
  cases asks with
  | start created taken =>
      refine ⟨handsOver.starts.snoc (fun _ => created) ages.created ?_,
        handsOver.stops.snoc (by simp [Effect.isStop]) ages.uncancelled
          (by simp [Effect.acceptedStop]), ?_, request_eq⟩
      · intro accepted still
        cases (taken (Effect.acceptedStart_iff.mp accepted)).symm.trans still
      · intro descriptor asked answer member
        rcases List.mem_append.mp member with before | now
        · exact handsOver.faithful descriptor asked answer before
        · obtain ⟨rfl, rfl, rfl⟩ := Effect.halStart.inj (List.mem_singleton.mp now)
          exact ⟨rfl, handsOver.request_eq⟩
  | stop first taken =>
      refine ⟨handsOver.starts.snoc (by simp [Effect.isStart]) ages.created
          (by simp [Effect.acceptedStart]),
        handsOver.stops.snoc (fun _ => first) ages.uncancelled ?_, ?_, request_eq⟩
      · intro accepted still
        cases (taken (Effect.acceptedStop_iff.mp accepted)).symm.trans still
      · intro descriptor asked answer member
        rcases List.mem_append.mp member with before | now
        · exact handsOver.faithful descriptor asked answer before
        · cases List.mem_singleton.mp now

end HandsOver

end Builtin

end Session

/-- A session with one of the four actions keeps its account in the course of its
life. -/
theorem Course.handsOver {setting : Setting} {first last : Session BuiltinAction}
    {life : List SessionDeed} (course : Course setting first life last) {request : HalRequest}
    {calls : List Effect} (handsOver : first.HandsOver setting request calls) :
    last.HandsOver setting request
      (calls ++ Effect.hardwareCalls (life.flatMap (·.effects))) := by
  induction course with
  | start => simpa using handsOver
  | perform course answers operation ih =>
      simpa [SessionDeed.of] using ih.perform answers operation

end BiometricSession
