import BiometricSession.Proofs.Session.Handover
import BiometricSession.Proofs.World.Lifetime
import BiometricSession.Proofs.World.Linked
import BiometricSession.Proofs.World.Termination

/-!
# One start and one stop

From the making of a session to its being given up, the hardware takes one start and
one stop from it at most, and is asked for neither again once it has taken it.  Every
start passes on the descriptor and the request that the session was made with.  A start
or a stop that the hardware refuses answers with the hardware's code and leaves the
whole world as it was, except that the hardware goes on to its next answer; so it can be
tried again.
-/

namespace BiometricSession

/-- A deed is a start or a stop of the session at a position that the hardware refuses
with a code. -/
def WorldDeed.Refused {Action : Type} (position : Nat) (code : Int32)
    (deed : WorldDeed Action) : Prop :=
  ∃ operation, deed.command = .perform position operation ∧
    Session.Refused code (World.effectsOf position deed.step.happenings) operation

namespace World

/-! ## Refused calls -/

section Action

variable {Action : Type} [HardwareAction Action] {world : World Action} {position : Nat}
  {monitor : Monitor Action}

omit [HardwareAction Action] in
theorem settle_of_unchanged (found : world.monitor? position = some monitor)
    {effects : List Effect} (tokens : effects.foldl applyEffect world.tokens = world.tokens) :
    world.settle position (some monitor) effects =
      { world with hal := world.hal.after effects } := by
  have within := lt_length_of_monitor? found
  have stands : world.monitors[position] = some monitor := by
    simpa [monitor?, within] using found
  unfold settle
  rw [tokens, ← stands, List.set_getElem_self]

/-- An operation that neither changes its session nor reaches the listener or the token
leaves the world as it was, with the hardware gone on to its next answer. -/
theorem perform_of_unchanged [ScopedAction Action]
    (found : world.monitor? position = some monitor) {operation : Operation}
    (standing : operation ≠ .destroy)
    (same : (monitor.session.perform monitor.setting (world.answers monitor)
      operation).session = monitor.session)
    (untold : Effect.attempts (monitor.session.perform monitor.setting
      (world.answers monitor) operation).effects = []) :
    (world.perform position monitor operation).world =
      { world with
        hal := world.hal.after (monitor.session.perform monitor.setting
          (world.answers monitor) operation).effects } := by
  have tokens := tokens_perform world position monitor operation
  rw [if_neg standing] at tokens
  have unchanged : monitor.performed (world.answers monitor) operation = monitor := by
    rw [Monitor.performed_of_untold untold, same]
  have settled : (world.perform position monitor operation).world =
      world.settle position (some (monitor.performed (world.answers monitor) operation))
        (monitor.session.perform monitor.setting (world.answers monitor) operation).effects :=
    rfl
  rw [settled, unchanged]
  exact settle_of_unchanged found tokens

/-- A start or a stop that the hardware refuses answers with the hardware's code and
changes nothing, but that the hardware goes on to its next answer. -/
theorem obey_of_refused [ScopedAction Action] {command : WorldCommand Action} {code : Int32}
    (nonzero : code ≠ 0)
    (refused : WorldDeed.Refused position code ⟨world, command, world.obey command⟩) :
    (world.obey command).ending = .returned (.reply (.status code)) ∧
      (world.obey command).world =
        { world with
          hal := world.hal.after (effectsOf position (world.obey command).happenings) } := by
  obtain ⟨operation, isCommand, refused⟩ := refused
  simp only at isCommand refused
  subst isCommand
  cases found : world.monitor? position with
  | none =>
      simp only [obey, found, still_happenings, effectsOf_nil] at refused
      cases refused with
      | start call | stop call => cases call
  | some monitor =>
      rw [obey_perform found] at refused ⊢
      simp only [perform, WorldStep.map_happenings, effectsOf_effects, if_true] at refused
      obtain ⟨same, returned, untold⟩ := monitor.session.perform_of_refused monitor.setting
        (world.answers monitor) operation nonzero refused
      have standing : operation ≠ .destroy := by
        rintro rfl
        cases refused
      refine ⟨by simp [perform, returned, Ending.map], ?_⟩
      rw [WorldStep.map_world, perform_of_unchanged found standing same untold,
        WorldStep.map_happenings, perform, effectsOf_effects, if_pos rfl]

end Action

/-! ## Calls from the making on -/

theorem countP_accepted_le_one {accepted kind : Effect → Bool} {mayCall : Prop}
    {calls : List Effect} (closes : Effect.Closes accepted kind mayCall calls)
    (ofKind : ∀ {effect}, accepted effect = true → kind effect = true) :
    calls.countP accepted ≤ 1 := by
  apply countP_le_one
  intro earlier call later split taken other member
  have silent := closes.none_after earlier call later split taken other member
  cases again : accepted other with
  | false => rfl
  | true => cases silent.symm.trans (ofKind again)

variable {world : World BuiltinAction}

/-- What the hardware is asked by a session with one of the four actions, from its making
on. -/
theorem handsOver_run (world : World BuiltinAction) (setting : Setting)
    (action : BuiltinAction) (token : Option Nat) (listener : Option Listener)
    (commands : List (WorldCommand BuiltinAction)) :
    ∃ session : Session BuiltinAction, session.HandsOver setting action.request
      (Effect.hardwareCalls (effectsDuring world.monitors.length
        ((world.obey (.make setting action token listener)).world.deeds commands))) := by
  obtain ⟨linked, monitors, _⟩ := make_eq world setting action token listener
  have found : (world.obey (.make setting action token listener)).world.monitor?
      world.monitors.length =
        some ⟨setting, (Session.make action listener.isSome linked).1, listener⟩ :=
    (monitor?_append world _ monitors _).trans (if_pos rfl)
  have made := Session.HandsOver.make setting action listener.isSome linked
  cases lifetime found commands with
  | @standing life last _ course present shows =>
      exact ⟨last, by simpa [shows] using course.handsOver made⟩
  | @givenUp life last answers course absent shows =>
      exact ⟨last, by simpa [shows, Session.hardwareCalls_drop] using course.handsOver made⟩

/-- However a session with one of the four actions is made and whatever a run does after
that, the hardware takes one start and one stop from the session at most and hears of
neither again afterwards; every start passes on what the session was made with; and a
start or a stop that the hardware refuses is answered with the hardware's code and
changes nothing in the world, but that the hardware goes on to its next answer. -/
theorem hardware_takes_one_start_and_one_stop (world : World BuiltinAction)
    (setting : Setting) (action : BuiltinAction) (token : Option Nat)
    (listener : Option Listener) (commands : List (WorldCommand BuiltinAction)) :
    let position := world.monitors.length
    let deeds := (world.obey (.make setting action token listener)).world.deeds commands
    let calls := Effect.hardwareCalls (effectsDuring position deeds)
    (calls.countP (·.acceptedStart) ≤ 1 ∧
      ∀ earlier call later, calls = earlier ++ call :: later → call.acceptedStart = true →
        ∀ other ∈ later, other.isStart = false) ∧
      (calls.countP (·.acceptedStop) ≤ 1 ∧
        ∀ earlier call later, calls = earlier ++ call :: later → call.acceptedStop = true →
          ∀ other ∈ later, other.isStop = false) ∧
        (∀ descriptor request answer, .halStart descriptor request answer ∈ calls →
          descriptor = setting.descriptor ∧ request = action.request) ∧
          ∀ deed ∈ deeds, ∀ code, code ≠ 0 → deed.Refused position code →
            deed.step.ending = .returned (.reply (.status code)) ∧
              deed.step.world =
                { deed.before with
                  hal := deed.before.hal.after
                    (effectsOf position deed.step.happenings) } := by
  intro position deeds calls
  obtain ⟨session, handsOver⟩ :=
    handsOver_run world setting action token listener commands
  have startsOnce := countP_accepted_le_one handsOver.starts Effect.isStart_of_acceptedStart
  have stopsOnce := countP_accepted_le_one handsOver.stops Effect.isStop_of_acceptedStop
  refine ⟨⟨startsOnce, handsOver.starts.none_after⟩, ⟨stopsOnce, handsOver.stops.none_after⟩,
    handsOver.faithful, ?_⟩
  intro deed member code nonzero refused
  obtain ⟨before, command, done⟩ := deed
  obtain rfl : done = before.obey command := step_of_mem_deeds member
  exact obey_of_refused nonzero refused

/-- The hardware refuses the first start and the first stop of a session and takes the
second of each; a third start, a third stop and the death of the client do not reach it
any more. -/
theorem hardware_takes_one_start_and_one_stop_retried :
    let setting : Setting := ⟨⟨10, 20, false, "owner", 42, 1⟩, .fingerprint, .standard true⟩
    let action : BuiltinAction := .authenticate (.fresh 7 (.empty 6) 3)
    let hal : Hal :=
      ⟨fun call => .status (if call = 0 then 5 else 0),
        fun call => .status (if call = 0 then 7 else 0)⟩
    let commands : List (WorldCommand BuiltinAction) :=
      [.setHal hal, .perform 0 .start, .perform 0 .start,
        .perform 0 (.callback (.result (.authenticated default false []))), .perform 0 .start,
        .perform 0 (.stop true), .perform 0 (.stop true), .perform 0 (.stop false),
        .notifyDeath 0]
    let made := ((fresh [none]).obey (.make setting action (some 0) none)).world
    let calls := Effect.hardwareCalls (effectsDuring 0 (made.deeds commands))
    let stubborn := made.setHal hal
    let attempt : WorldDeed BuiltinAction :=
      ⟨stubborn, .perform 0 .start, stubborn.obey (.perform 0 .start)⟩
    calls = [.halStart setting.descriptor action.request (.status 5),
        .halStart setting.descriptor action.request (.status 0),
        .halStop true (.status 7), .halStop true (.status 0)] ∧
      calls.countP (·.acceptedStart) ≤ 1 ∧ calls.countP (·.acceptedStop) ≤ 1 ∧
        attempt.Refused 0 5 ∧
          attempt.step.world =
            made.setHal ⟨fun call => hal.start (call + 1), fun call => hal.stop (call + 0)⟩ := by
  intro setting action hal commands made calls stubborn attempt
  have once := hardware_takes_one_start_and_one_stop (fresh [none]) setting action (some 0)
    none commands
  have member : attempt ∈ made.deeds commands := List.mem_of_getElem? (i := 1) rfl
  have call : .halStart setting.descriptor action.request (.status 5) ∈
      effectsOf 0 attempt.step.happenings := by decide
  have refused : attempt.Refused 0 5 := ⟨.start, rfl, .start call⟩
  exact ⟨by decide, once.1.1, once.2.1.1, refused,
    (once.2.2.2 attempt member 5 (by decide) refused).2⟩

end World

end BiometricSession
