import BiometricSession.Proofs.Session.Hardware
import BiometricSession.Proofs.World.Life
import Mathlib.Data.List.Basic

/-!
# Cancelling what is in flight

A running session with the flag of cancelling set says that its operation in
flight was asked to abort.  That is so exactly if no stop was accepted before
the start: a stop of a session that is only created reaches the hardware, sets
the flag, and hides every later stop and the client's death from the hardware.

The account of accepted calls leaves one start and one stop in the past of such
a session; the rest is a matter of their order.
-/

namespace BiometricSession

/-! ## Order of accepted calls -/

namespace Effect

/-- Whether an effect of the first kind comes before one of the second kind. -/
def precedes (first second : Effect → Bool) : List Effect → Bool
  | [] => false
  | effect :: effects =>
      (first effect && effects.any second) || precedes first second effects

/-- Whether the hardware accepted a stop after it had accepted a start. -/
def aborted (calls : List Effect) : Bool :=
  precedes acceptedStart acceptedStop calls

/-- Whether the hardware accepted a stop before it accepted a start. -/
def stoppedTooSoon (calls : List Effect) : Bool :=
  precedes acceptedStop acceptedStart calls

theorem any_eq_false_of_countP {kind : Effect → Bool} {effects : List Effect}
    (none : effects.countP kind = 0) : effects.any kind = false := by
  rw [List.any_eq_false]
  exact List.countP_eq_zero.mp none

theorem any_eq_true_of_countP {kind : Effect → Bool} {effects : List Effect}
    (one : effects.countP kind = 1) : effects.any kind = true := by
  have some : 0 < effects.countP kind := by omega
  rw [List.any_eq_true]
  exact List.countP_pos_iff.mp some

theorem precedes_eq_false {first second : Effect → Bool} {effects : List Effect}
    (none : effects.countP second = 0) : precedes first second effects = false := by
  induction effects with
  | nil => rfl
  | cons effect effects ih =>
      rw [List.countP_cons] at none
      have rest : effects.countP second = 0 := by omega
      simp [precedes, any_eq_false_of_countP rest, ih rest]

/-- With one effect of each of two exclusive kinds, either kind comes first
unless the other does. -/
theorem precedes_eq_not {first second : Effect → Bool} {effects : List Effect}
    (exclusive : ∀ effect, first effect = true → second effect = false)
    (oneFirst : effects.countP first = 1) (oneSecond : effects.countP second = 1) :
    precedes first second effects = !precedes second first effects := by
  induction effects with
  | nil => simp at oneFirst
  | cons effect effects ih =>
      rw [List.countP_cons] at oneFirst oneSecond
      cases isFirst : first effect with
      | true =>
          have notSecond := exclusive effect isFirst
          have noFirst : effects.countP first = 0 := by simpa [isFirst] using oneFirst
          have oneMore : effects.countP second = 1 := by
            simpa [notSecond] using oneSecond
          simp [precedes, isFirst, notSecond, any_eq_true_of_countP oneMore,
            precedes_eq_false noFirst]
      | false =>
          have oneMore : effects.countP first = 1 := by simpa [isFirst] using oneFirst
          cases isSecond : second effect with
          | true =>
              have noSecond : effects.countP second = 0 := by
                simpa [isSecond] using oneSecond
              simp [precedes, isFirst, isSecond, any_eq_true_of_countP oneMore,
                precedes_eq_false noSecond]
          | false =>
              have rest := ih oneMore (by simpa [isSecond] using oneSecond)
              simp [precedes, isFirst, isSecond, rest]

theorem acceptedStop_eq_false {effect : Effect} (start : effect.acceptedStart = true) :
    effect.acceptedStop = false := by
  cases effect with
  | halStop => simp [acceptedStart] at start
  | _ => rfl

end Effect

/-- The hardware takes every stop among some effects. -/
def Effect.StopsTaken (effects : List Effect) : Prop :=
  ∀ byClient answer, .halStop byClient answer ∈ effects → answer = .status 0

theorem Effect.StopsTaken.of_subset {effects part : List Effect}
    (taken : Effect.StopsTaken effects) (within : part ⊆ effects) : Effect.StopsTaken part :=
  fun byClient answer member => taken byClient answer (within member)

namespace Session

variable {Action : Type} {session : Session Action}

/-- A session says that its operation in flight was asked to abort. -/
structure SaysAborted (session : Session Action) : Prop where
  running : session.phase = .running
  cancelled : session.cancelled = true

/-- What a session says about its operation is true exactly if no stop came
before the start. -/
theorem Accounts.aborted_iff {calls : List Effect} (accounts : session.Accounts calls)
    (asserted : session.SaysAborted) :
    Effect.aborted calls = true ↔ Effect.stoppedTooSoon calls = false := by
  have oneStop : calls.countP (·.acceptedStop) = 1 := by
    rw [accounts.stops, asserted.cancelled]
    rfl
  have order := Effect.precedes_eq_not (fun _ start => Effect.acceptedStop_eq_false start)
    (accounts.running asserted.running) oneStop
  rw [Effect.aborted, Effect.stoppedTooSoon, order, Bool.not_eq_true']

theorem SaysAborted.locked {Value : Type} {step : Step Action Value}
    (asserted : step.session.SaysAborted) : (session.locked step).session.SaysAborted :=
  ⟨by simpa using asserted.running, by simpa using asserted.cancelled⟩

namespace Cancelling

variable {answers : Answers} {byClient : Bool} {step : Step Action Int32}

theorem saysAborted_of_success (cancelling : Cancelling answers session byClient step)
    (running : session.phase = .running) (success : step.ending = .returned 0) :
    step.session.SaysAborted := by
  cases cancelling with
  | ended terminated => simp [running] at terminated
  | repeated live before => exact ⟨running, before⟩
  | broken => cases success
  | accepted => exact ⟨running, rfl⟩
  | refused live first nonzero => exact absurd (Ending.returned.inj success) nonzero

theorem saysAborted_of_taken (cancelling : Cancelling answers session byClient step)
    (running : session.phase = .running) (taken : Effect.StopsTaken step.effects) :
    step.session.SaysAborted := by
  cases cancelling with
  | ended terminated => simp [running] at terminated
  | repeated live before => exact ⟨running, before⟩
  | broken live first answer => cases taken _ _ List.mem_cons_self
  | accepted => exact ⟨running, rfl⟩
  | refused live first nonzero answer =>
      exact absurd (HalAnswer.status.inj (taken _ _ List.mem_cons_self)) nonzero

theorem saysAborted (cancelling : Cancelling answers session byClient step)
    (asserted : session.SaysAborted) : step.session.SaysAborted := by
  cases cancelling with
  | accepted => exact ⟨asserted.running, rfl⟩
  | ended | repeated | broken | refused => exact asserted

end Cancelling

section Action

variable [HardwareAction Action] {setting : Setting} {answers : Answers}

theorem saysAborted_of_stop (setting : Setting) (answers : Answers) {byClient : Bool}
    (running : session.phase = .running)
    (success : (session.perform setting answers (.stop byClient)).ending =
      .returned (.status 0)) :
    (session.perform setting answers (.stop byClient)).session.SaysAborted := by
  obtain ⟨step, outcome, performed⟩ :=
    perform_outcome setting answers session (.stop byClient)
  rw [performed] at success ⊢
  rw [locked_ending] at success
  apply SaysAborted.locked
  cases outcome with
  | stopped cancelling =>
      obtain ⟨status, returned, isStatus⟩ := Ending.map_eq_returned.mp success
      obtain rfl := Reply.status.inj isStatus
      exact cancelling.saysAborted_of_success running returned

theorem saysAborted_of_clientDied (setting : Setting) {answers : Answers}
    (clearListener : Bool) (running : session.phase = .running)
    (standing : session.destroyed = false)
    (taken : Effect.StopsTaken
      (session.perform setting answers (.clientDied clearListener)).effects) :
    (session.perform setting answers (.clientDied clearListener)).session.SaysAborted := by
  obtain ⟨step, outcome, performed⟩ :=
    perform_outcome setting answers session (.clientDied clearListener)
  rw [performed] at taken ⊢
  rw [locked_effects] at taken
  have own := taken.of_subset (List.subset_append_right _ step.effects)
  apply SaysAborted.locked
  cases outcome with
  | diedAfterDestroy destroyed => simp [standing] at destroyed
  | deathBroken _ cancelling =>
      exact cancelling.saysAborted_of_taken running (own.of_subset (List.subset_cons_self _ _))
  | deathHandled _ cancelling =>
      have asserted :=
        cancelling.saysAborted_of_taken running (own.of_subset (List.subset_cons_self _ _))
      exact ⟨asserted.running, asserted.cancelled⟩

theorem SaysAborted.clientDied (asserted : session.SaysAborted) (clearListener : Bool) :
    (session.perform setting answers (.clientDied clearListener)).session.SaysAborted := by
  obtain ⟨step, outcome, performed⟩ :=
    perform_outcome setting answers session (.clientDied clearListener)
  rw [performed]
  apply SaysAborted.locked
  cases outcome with
  | diedAfterDestroy => exact asserted
  | deathBroken _ cancelling => exact cancelling.saysAborted asserted
  | deathHandled _ cancelling =>
      have still := cancelling.saysAborted asserted
      exact ⟨still.running, still.cancelled⟩

end Action

end Session

theorem Course.saysAborted {Action : Type} [HardwareAction Action] {setting : Setting}
    {first last : Session Action} {life : List SessionDeed}
    (course : Course setting first life last)
    (deaths : ∀ deed ∈ life, deed.operation = .clientDied true)
    (asserted : first.SaysAborted) : last.SaysAborted := by
  induction course with
  | start => exact asserted
  | perform course answers operation ih =>
      have isDeath : operation = .clientDied true :=
        deaths _ (List.mem_append_right _ (List.mem_singleton_self _))
      subst isDeath
      exact (ih fun deed member => deaths deed (by simp [member])).clientDied true

/-! ## Calls of the hardware in a run -/

namespace WorldCommand

variable {Action : Type}

/-- Whether a command passes an event of the hardware to a session. -/
def isEvent : WorldCommand Action → Bool
  | .perform _ operation => operation.isEvent
  | _ => false

theorem asks_isEvent {command : WorldCommand Action} {operation : Operation}
    (asked : command.asks operation) : operation.isEvent = command.isEvent := by
  cases command with
  | perform number other => rw [show operation = other from asked]; rfl
  | _ => rw [show operation = .clientDied true from asked]; rfl

end WorldCommand

namespace WorldDeed

variable {Action : Type} {position : Nat} {deed : WorldDeed Action}

/-- The calls of the hardware by which the session at a position carries out
what a deed asks of it. -/
def hardwareCalls (position : Nat) (deed : WorldDeed Action) : List Effect :=
  if deed.command.isEvent then
    []
  else
    Effect.hardwareCalls (World.effectsOf position deed.step.happenings)

theorem Shows.hardwareCalls_eq {life : List SessionDeed} (shows : deed.Shows position life) :
    deed.hardwareCalls position = life.flatMap (·.hardwareCalls) := by
  cases event : deed.command.isEvent with
  | true =>
      have none : life.flatMap (·.hardwareCalls) = [] := by
        rw [List.flatMap_eq_nil_iff]
        intro past member
        have isEvent := WorldCommand.asks_isEvent (shows.asked past member)
        simp [SessionDeed.hardwareCalls, isEvent, event]
      simp [hardwareCalls, event, none]
  | false =>
      have own : ∀ past ∈ life, past.hardwareCalls = Effect.hardwareCalls past.calls := by
        intro past member
        have isEvent := WorldCommand.asks_isEvent (shows.asked past member)
        rw [SessionDeed.calls, Effect.hardwareCalls_filter_callsOut]
        simp [SessionDeed.hardwareCalls, isEvent, event]
      calc deed.hardwareCalls position
          = Effect.hardwareCalls (World.effectsOf position deed.step.happenings) := by
            simp [hardwareCalls, event]
        _ = Effect.hardwareCalls (World.callsOf position deed.step.happenings) :=
            (Effect.hardwareCalls_filter_callsOut _).symm
        _ = Effect.hardwareCalls (life.flatMap (·.calls)) := by rw [shows.calls_eq]
        _ = life.flatMap (fun past => Effect.hardwareCalls past.calls) :=
            List.filter_flatMap
        _ = life.flatMap (·.hardwareCalls) :=
            (List.flatMap_congr own).symm

/-- A deed finds the session at a position running. -/
def FindsRunning (position : Nat) (deed : WorldDeed Action) : Prop :=
  ∃ monitor, deed.before.monitor? position = some monitor ∧
    monitor.session.phase = .running

/-- A deed is a stop of the session at a position that is reported to have
succeeded. -/
def StopsWithSuccess (position : Nat) (deed : WorldDeed Action) : Prop :=
  (∃ byClient, deed.command = .perform position (.stop byClient)) ∧
    deed.step.ending = .returned (.reply (.status 0))

/-- The session at a position handles the death of its client during a deed, and
the hardware takes its stop if it asks for one. -/
def Mourns (position : Nat) (deed : WorldDeed Action) : Prop :=
  Effect.StopsTaken (World.effectsOf position deed.step.happenings) ∧
    match deed.command with
    | .perform number (.clientDied _) => number = position
    | .notifyDeath _ | .watch .. =>
        .notice .clientDied ∈ World.effectsOf position deed.step.happenings
    | _ => False

end WorldDeed

theorem Recounts.hardwareCalls_eq {Action : Type} {position : Nat}
    {deeds : List (WorldDeed Action)} {life : List SessionDeed}
    (recounts : Recounts position deeds life) :
    deeds.flatMap (·.hardwareCalls position) = life.flatMap (·.hardwareCalls) := by
  induction recounts with
  | nil => rfl
  | snoc earlier last ih => simp [ih, last.hardwareCalls_eq]

namespace World

variable {Action : Type} [HardwareAction Action] {position : Nat}

/-- The calls of the hardware that the session at a position makes by itself
during some deeds. -/
def hardwareCalls (position : Nat) (deeds : List (WorldDeed Action)) : List Effect :=
  deeds.flatMap (·.hardwareCalls position)

theorem run_accounts (processes : List (Option UInt32))
    (commands : List (WorldCommand Action)) {monitor : Monitor Action}
    (found : ((fresh processes).after commands).monitor? position = some monitor) :
    monitor.session.Accounts
      (hardwareCalls position ((fresh processes).deeds commands)) := by
  obtain ⟨life, recounts, accounts⟩ :=
    (lived_run accountInvariant processes commands position).present monitor found
  rw [hardwareCalls, recounts.hardwareCalls_eq]
  exact accounts

/-! ## What a running session comes to say -/

/-- A running session that is told of its client's death, and whose stop the hardware
takes, says from then on that its operation was asked to abort. -/
theorem tellAll_saysAborted (links : List (DeathLink Nat)) {world : World Action}
    {monitor : Monitor Action} (found : world.monitor? position = some monitor)
    (running : monitor.session.phase = .running)
    (standing : monitor.session.destroyed = false)
    (taken : Effect.StopsTaken (effectsOf position (tellAll links world).happenings))
    (mourned : .notice .clientDied ∈ effectsOf position (tellAll links world).happenings) :
    ∃ later, (tellAll links world).world.monitor? position = some later ∧
      later.session.SaysAborted := by
  induction links generalizing world with
  | nil => simp [tellAll] at mourned
  | cons link links ih =>
      unfold tellAll at taken mourned ⊢
      cases told : world.monitor? link.recipient with
      | none =>
          simp only [told] at taken mourned ⊢
          exact ih found taken mourned
      | some other =>
          simp only [told] at taken mourned ⊢
          -- the first link to the session sets the flag; whatever comes later keeps it
          by_cases here : link.recipient = position
          · subst here
            obtain rfl := Option.some.inj (told.symm.trans found)
            obtain ⟨listener, present⟩ := monitor?_perform told (.clientDied true)
            have own : effectsOf link.recipient
                (world.perform link.recipient other (.clientDied true)).happenings =
                  (other.session.perform other.setting (world.answers other)
                    (.clientDied true)).effects := by
              rw [perform, effectsOf_effects, if_pos rfl]
            have accepted : Effect.StopsTaken (other.session.perform other.setting
                (world.answers other) (.clientDied true)).effects := by
              rw [← own]
              refine taken.of_subset ?_
              split
              · exact List.Subset.refl _
              · rw [effectsOf_append]
                exact List.subset_append_left _ _
            have asserted :=
              Session.saysAborted_of_clientDied other.setting true running standing accepted
            cases ended : (world.perform link.recipient other (.clientDied true)).ending with
            | crashed crash => exact ⟨_, present, asserted⟩
            | returned reply =>
                have rest := follows_tellAll links
                  (world.perform link.recipient other (.clientDied true)).world link.recipient
                obtain ⟨later, life, stays, _, course, _, deaths⟩ := rest.present _ present
                exact ⟨later, stays, course.saysAborted deaths asserted⟩
          · obtain ⟨same, nothing⟩ := perform_other told (.clientDied true) here
            cases ended : (world.perform link.recipient other (.clientDied true)).ending with
            | crashed crash => simp [ended, nothing] at mourned
            | returned reply =>
                simp only [ended, effectsOf_append, nothing, List.nil_append] at taken mourned
                exact ih (same.trans found) taken mourned

theorem notifyDeath_saysAborted {world : World Action} {monitor : Monitor Action}
    (found : world.monitor? position = some monitor)
    (running : monitor.session.phase = .running)
    (standing : monitor.session.destroyed = false)
    {token : Nat}
    (taken : Effect.StopsTaken (effectsOf position (world.notifyDeath token).happenings))
    (mourned : .notice .clientDied ∈
      effectsOf position (world.notifyDeath token).happenings) :
    ∃ later, (world.notifyDeath token).world.monitor? position = some later ∧
      later.session.SaysAborted := by
  unfold notifyDeath at taken mourned ⊢
  cases dies : world.tokens[token]?.bind ClientToken.die with
  | none => simp [dies] at mourned
  | some death =>
      simp only [dies] at taken mourned ⊢
      exact tellAll_saysAborted _ found running standing taken mourned

theorem obey_stop_saysAborted {world : World Action} {command : WorldCommand Action}
    {monitor : Monitor Action} (found : world.monitor? position = some monitor)
    (running : monitor.session.phase = .running)
    (stops : WorldDeed.StopsWithSuccess position ⟨world, command, world.obey command⟩) :
    ∃ later, (world.obey command).world.monitor? position = some later ∧
      later.session.SaysAborted := by
  obtain ⟨⟨byClient, rfl⟩, success⟩ := stops
  obtain ⟨listener, present⟩ := monitor?_perform found (.stop byClient)
  rw [obey_perform found] at success ⊢
  obtain ⟨reply, returned, isReply⟩ := Ending.map_eq_returned.mp success
  obtain rfl := WorldAnswer.reply.inj isReply
  exact ⟨_, present,
    Session.saysAborted_of_stop monitor.setting (world.answers monitor) running returned⟩

theorem obey_mourning_saysAborted {world : World Action} {command : WorldCommand Action}
    {monitor : Monitor Action} (found : world.monitor? position = some monitor)
    (running : monitor.session.phase = .running)
    (standing : monitor.session.destroyed = false)
    (mourns : WorldDeed.Mourns position ⟨world, command, world.obey command⟩) :
    ∃ later, (world.obey command).world.monitor? position = some later ∧
      later.session.SaysAborted := by
  obtain ⟨taken, mourned⟩ := mourns
  cases command with
  | perform number operation =>
      cases operation with
      | clientDied clearListener =>
          obtain rfl : number = position := mourned
          obtain ⟨listener, present⟩ := monitor?_perform found (.clientDied clearListener)
          simp only [effectsOf_obey_perform found] at taken
          rw [obey_perform found]
          exact ⟨_, present, Session.saysAborted_of_clientDied monitor.setting clearListener
            running standing taken⟩
      | start | stop | callback | destroy => exact mourned.elim
  | notifyDeath token =>
      cases known : world.tokens[token]? with
      | none => simp [obey, known] at mourned
      | some state =>
          simp only [obey, known, WorldStep.map_happenings] at taken mourned ⊢
          exact notifyDeath_saysAborted found running standing taken mourned
  | watch processes token process =>
      cases known : world.tokens[token]? with
      | none => simp [obey, known] at mourned
      | some state =>
          simp only [obey, known, watch, WorldStep.map_happenings] at taken mourned ⊢
          cases finding : WatchFinding.of state.alive (processes.alive process) with
          | tokenDead => simp [finding] at mourned
          | running => simp [finding] at mourned
          | processGone =>
              simp only [finding, effectsOf_append, effectsOf_logged,
                List.nil_append] at taken mourned
              exact notifyDeath_saysAborted found running standing taken mourned
  | make | drop | unlink | setHal | setPreference | setListener => exact mourned.elim

/-- In every run, a running session that says that its operation in flight was
asked to abort is right exactly if no stop was accepted before its start.  The
same condition decides whether a stop of a running session that reports success,
or the death of its client, unless the hardware refuses the stop for it, has come to
the hardware's ears. -/
theorem aborted_iff_not_stoppedTooSoon (processes : List (Option UInt32))
    (commands : List (WorldCommand Action)) (position : Nat) :
    (∀ monitor, ((fresh processes).after commands).monitor? position = some monitor →
      monitor.session.SaysAborted →
        (Effect.aborted (hardwareCalls position ((fresh processes).deeds commands)) = true ↔
          Effect.stoppedTooSoon
            (hardwareCalls position ((fresh processes).deeds commands)) = false)) ∧
      ∀ earlier deed later, (fresh processes).deeds commands = earlier ++ deed :: later →
        deed.FindsRunning position →
          (deed.StopsWithSuccess position ∨ deed.Mourns position) →
            (Effect.aborted (hardwareCalls position (earlier ++ [deed])) = true ↔
              Effect.stoppedTooSoon (hardwareCalls position (earlier ++ [deed])) = false) := by
  constructor
  · intro monitor found asserted
    exact (run_accounts processes commands found).aborted_iff asserted
  · intro earlier deed later split ⟨monitor, found, running⟩ reported
    obtain ⟨first, second, _, past, before, step, _⟩ := deeds_split split
    obtain ⟨world, command, done⟩ := deed
    simp only at found before step
    subst step
    have sound : monitor.session.Sound := by
      rw [before] at found
      obtain ⟨_, _, sound⟩ :=
        (lived_run soundInvariant processes first position).present monitor found
      exact sound
    have standing := sound.standing_of_running running
    have sofar : (fresh processes).deeds (first ++ [command]) =
        earlier ++ [⟨world, command, world.obey command⟩] := by
      rw [deeds_append, past, before]
      rfl
    have reached : (fresh processes).after (first ++ [command]) =
        (world.obey command).world := by
      rw [after_append, before]
      rfl
    obtain ⟨monitor', present, asserted⟩ : ∃ monitor',
        (world.obey command).world.monitor? position = some monitor' ∧
          monitor'.session.SaysAborted := by
      rcases reported with stops | mourns
      · exact obey_stop_saysAborted found running stops
      · exact obey_mourning_saysAborted found running standing mourns
    rw [← reached] at present
    rw [← sofar]
    exact (run_accounts processes _ present).aborted_iff asserted

/-- A session that is started and then mourns its client says so and is right. -/
theorem aborted_iff_not_stoppedTooSoon_mourned :
    let opening : List (WorldCommand BuiltinAction) :=
      [.make ⟨⟨10, 20, false, "owner", 42, 1⟩, .fingerprint, .standard true⟩ .enumerate
          (some 0) none,
        .perform 0 .start]
    let death : WorldCommand BuiltinAction := .notifyDeath 0
    let calls := hardwareCalls 0 ((fresh [none]).deeds (opening ++ [death]))
    (∃ monitor, ((fresh [none]).after (opening ++ [death])).monitor? 0 = some monitor ∧
      monitor.session.SaysAborted ∧ Effect.aborted calls = true) ∧
      ∃ earlier deed, (fresh [none]).deeds (opening ++ [death]) = earlier ++ [deed] ∧
        deed.FindsRunning 0 ∧ deed.Mourns 0 ∧
          Effect.aborted (hardwareCalls 0 (earlier ++ [deed])) = true := by
  intro opening death calls
  have verdicts := aborted_iff_not_stoppedTooSoon [none] (opening ++ [death]) 0
  have split : (fresh [none]).deeds (opening ++ [death]) =
      (fresh [none]).deeds opening ++
        [⟨(fresh [none]).after opening, death, ((fresh [none]).after opening).obey death⟩] :=
    deeds_append (fresh [none]) opening [death]
  have taken : Effect.StopsTaken
      (effectsOf 0 (((fresh [none]).after opening).obey death).happenings) := by
    have effects : effectsOf 0 (((fresh [none]).after opening).obey death).happenings =
        [.notice .clientDied, .halStop false (.status 0), .notice (.stopped false)] := by
      decide
    rw [effects]
    intro byClient answer member
    have call : byClient = false ∧ answer = .status 0 := by simpa using member
    exact call.2
  refine ⟨⟨_, rfl, ⟨rfl, rfl⟩, (verdicts.1 _ rfl ⟨rfl, rfl⟩).mpr (by decide)⟩,
    _, _, split, ⟨_, rfl, rfl⟩, ⟨taken, by decide⟩, ?_⟩
  exact (verdicts.2 _ _ [] split ⟨_, rfl, rfl⟩ (.inr ⟨taken, by decide⟩)).mpr (by decide)

/-- A session that is stopped before it is started says that its operation was
asked to abort, and reports success when it is stopped again, although the
hardware was asked nothing since the start. -/
theorem stopped_before_start_not_aborted :
    let commands : List (WorldCommand BuiltinAction) :=
      [.make ⟨⟨0, 0, false, "owner", 0, 1⟩, .fingerprint, .standard true⟩ .enumerate none
          (some (.failingAfter none (.refused .channelClosed))),
        .perform 0 (.stop true), .perform 0 .start]
    let world := (fresh []).after commands
    let again := world.obey (.perform 0 (.stop true))
    (∃ monitor, world.monitor? 0 = some monitor ∧ monitor.session.SaysAborted) ∧
      Effect.aborted (hardwareCalls 0 ((fresh []).deeds commands)) = false ∧
        again.ending = .returned (.reply (.status 0)) ∧
          ∀ effect ∈ effectsOf 0 again.happenings, effect.callsOut = false := by
  intro commands world again
  refine ⟨⟨_, rfl, ⟨rfl, rfl⟩⟩, by decide, by decide, by decide⟩

end World

end BiometricSession
