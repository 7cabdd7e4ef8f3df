import BiometricSession.Proofs.Session.Handover
import BiometricSession.Proofs.World.Cancellation
import BiometricSession.Proofs.World.Linked
import BiometricSession.Proofs.World.Termination

/-!
# Whose operation a stop aborts

The hardware serves all sessions and stops whatever is in flight.  A session that
asks it to stop stops its own operation if the hardware has taken a start from it
before and nothing has ended it since.  That is so exactly for sessions that are
running: one that has ended asks for no stop, but one that was only created does,
and then it is somebody else's operation that is stopped.
-/

namespace BiometricSession

/-- While it handles an event, a session asks the hardware for nothing. -/
theorem Session.hardwareCalls_callback {Action : Type} [HardwareAction Action]
    [ScopedAction Action] (setting : Setting) (answers : Answers) (session : Session Action)
    (event : HardwareEvent) :
    Effect.hardwareCalls (session.perform setting answers (.callback event)).effects = [] := by
  obtain ⟨step, outcome, performed⟩ :=
    perform_outcome setting answers session (.callback event)
  rw [performed, hardwareCalls_locked]
  cases outcome with
  | droppedAfterVerdict | droppedAfterDestroy => rfl
  | reactionBroken | finished | continued =>
      exact session.reaction_hardwareCalls setting answers event

namespace WorldDeed

variable {Action : Type}

/-- The session at a position asks the hardware to stop during a deed. -/
def StopsHardware (position : Nat) (deed : WorldDeed Action) : Prop :=
  ∃ byClient answer,
    .halStop byClient answer ∈ World.effectsOf position deed.step.happenings

/-- The hardware takes a start from the session at a position during a deed. -/
def StartsHardware (position : Nat) (deed : WorldDeed Action) : Prop :=
  ∃ effect ∈ World.effectsOf position deed.step.happenings, effect.acceptedStart = true

/-- A deed neither finishes nor destroys the session at a position. -/
def Spares (position : Nat) (deed : WorldDeed Action) : Prop :=
  deed.finishes position = false ∧ deed.destroys position = false

instance (position : Nat) (deed : WorldDeed Action) : Decidable (deed.Spares position) :=
  inferInstanceAs (Decidable (_ ∧ _))

/-- A deed finds the session at a position created, but not running. -/
def FindsCreated (position : Nat) (deed : WorldDeed Action) : Prop :=
  ∃ monitor, deed.before.monitor? position = some monitor ∧
    monitor.session.phase = .created

end WorldDeed

namespace World

variable {Action : Type} {position : Nat}

/-- Among some deeds, the hardware took a start from the session at a position,
and none of the later ones has ended the session. -/
def Warranted (position : Nat) (deeds : List (WorldDeed Action)) : Prop :=
  ∃ past start since, deeds = past ++ start :: since ∧ start.StartsHardware position ∧
    ∀ deed ∈ since, deed.Spares position

variable [HardwareAction Action]

theorem live_of_callsOut {world : World Action} {command : WorldCommand Action}
    (sound : world.Sound) {effect : Effect}
    (member : effect ∈ effectsOf position (world.obey command).happenings)
    (callsOut : effect.callsOut = true) :
    ∃ monitor, world.monitor? position = some monitor ∧
      monitor.session.phase ≠ .terminated := by
  cases found : world.monitor? position with
  | some monitor =>
      refine ⟨monitor, rfl, ?_⟩
      intro terminated
      have ended : EndedAt position world := by
        refine ⟨lt_length_of_monitor? found, sound position, ?_⟩
        intro other isOther
        obtain rfl := Option.some.inj (found.symm.trans isOther)
        exact terminated
      have quiet := (ended.obey command).2 effect member
      simp [callsOut] at quiet
  | none =>
      rcases obey_cases world command position with
        ⟨setting, action, token, listener, rfl⟩ | rfl | follows
      · obtain ⟨linked, _, happened⟩ := make_eq world setting action token listener
        simp only [obey, WorldStep.map_happenings, happened, effectsOf_effects] at member
        split at member
        · simp [Session.make_callsOut action _ linked effect member] at callsOut
        · cases member
      · simp [obey, found] at member
      · simp [(follows.absent found).2] at member

theorem hardwareCalls_deed [ScopedAction Action] {world : World Action}
    {commands : List (WorldCommand Action)} {deed : WorldDeed Action}
    (member : deed ∈ world.deeds commands) :
    deed.hardwareCalls position =
      Effect.hardwareCalls (effectsOf position deed.step.happenings) := by
  obtain ⟨before, command, done⟩ := deed
  obtain rfl : done = before.obey command := step_of_mem_deeds member
  unfold WorldDeed.hardwareCalls
  cases event : command.isEvent with
  | false => simp
  | true =>
      cases command with
      | perform number operation =>
          cases operation with
          | callback event =>
              cases found : before.monitor? number with
              | none => simp [obey, found]
              | some monitor =>
                  rw [obey_perform found]
                  simp only [perform, WorldStep.map_happenings, effectsOf_effects, if_true]
                  split
                  · rw [Session.hardwareCalls_callback]
                  · rfl
          | _ => cases event
      | _ => cases event

/-- Starts that were taken are on the account of the session. -/
theorem startsHardware_iff [ScopedAction Action] (world : World Action)
    (commands : List (WorldCommand Action)) :
    (∃ deed ∈ world.deeds commands, deed.StartsHardware position) ↔
      0 < (hardwareCalls position (world.deeds commands)).countP (·.acceptedStart) := by
  rw [List.countP_pos_iff]
  constructor
  · rintro ⟨deed, member, effect, done, accepted⟩
    refine ⟨effect, List.mem_flatMap.mpr ⟨deed, member, ?_⟩, accepted⟩
    rw [hardwareCalls_deed member]
    refine List.mem_filter.mpr ⟨done, ?_⟩
    cases effect with
    | halStart => rfl
    | _ => cases accepted
  · rintro ⟨effect, called, accepted⟩
    obtain ⟨deed, member, within⟩ := List.mem_flatMap.mp called
    rw [hardwareCalls_deed member] at within
    exact ⟨deed, member, effect, List.mem_of_mem_filter within, accepted⟩

/-- A stop comes from a session that nothing has ended.  It is warranted by a
start of the same session which the hardware has taken exactly if the session is
found running; else the session is found created. -/
theorem stop_warranted_iff_running [ScopedAction Action] (processes : List (Option UInt32))
    (commands : List (WorldCommand Action)) (position : Nat)
    {earlier later : List (WorldDeed Action)} {deed : WorldDeed Action}
    (split : (fresh processes).deeds commands = earlier ++ deed :: later)
    (stops : deed.StopsHardware position) :
    (∀ past ∈ earlier, past.Spares position) ∧
      (Warranted position earlier ↔ deed.FindsRunning position) ∧
        (deed.FindsRunning position ∨ deed.FindsCreated position) := by
  obtain ⟨first, _, _, past, before, step, _⟩ := deeds_split split
  obtain ⟨byClient, answer, asked⟩ := stops
  have spared : ∀ past ∈ earlier, past.Spares position := by
    intro ending member
    obtain ⟨front, back, isEarlier⟩ := List.append_of_mem member
    have whole : (fresh processes).deeds commands =
        front ++ ending :: (back ++ deed :: later) := by
      rw [split, isEarlier, List.append_assoc, List.cons_append]
    have unended : ¬(ending.finishes position = true ∨ ending.destroys position = true) := by
      intro ends
      have quiet := (deeds_after_end whole ends deed (by simp)).2.1 _ asked
      cases quiet
    simpa [WorldDeed.Spares] using unended
  rw [step] at asked
  obtain ⟨monitor, found, live⟩ := live_of_callsOut
    (before ▸ (sound_fresh processes).after first) asked rfl
  have accounts := run_accounts processes first (before ▸ found)
  rw [past] at spared ⊢
  have started : Warranted position ((fresh processes).deeds first) ↔
      0 < (hardwareCalls position ((fresh processes).deeds first)).countP
        (·.acceptedStart) := by
    rw [← startsHardware_iff]
    constructor
    · rintro ⟨front, start, since, isEarlier, starts, _⟩
      exact ⟨start, by simp [isEarlier], starts⟩
    · rintro ⟨start, member, starts⟩
      obtain ⟨front, since, isEarlier⟩ := List.append_of_mem member
      exact ⟨front, start, since, isEarlier, starts, fun deed later =>
        spared deed (by simp [isEarlier, later])⟩
  refine ⟨spared, ?_, ?_⟩
  · rw [started]
    constructor
    · intro taken
      refine ⟨monitor, found, ?_⟩
      cases phase : monitor.session.phase with
      | created => simp [accounts.created phase] at taken
      | running => rfl
      | terminated => exact absurd phase live
    · rintro ⟨other, isOther, running⟩
      obtain rfl := Option.some.inj (found.symm.trans isOther)
      rw [accounts.running running]
      exact Nat.one_pos
  · cases phase : monitor.session.phase with
    | created => exact .inr ⟨monitor, found, phase⟩
    | running => exact .inl ⟨monitor, found, phase⟩
    | terminated => exact absurd phase live

/-- A session that is started and then mourns its client stops its own
operation. -/
theorem stop_warranted_iff_running_mourned :
    let opening : List (WorldCommand BuiltinAction) :=
      [.make ⟨⟨10, 20, false, "owner", 42, 1⟩, .fingerprint, .standard true⟩ .enumerate
          (some 0) none,
        .perform 0 .start]
    let world := (fresh [none]).after opening
    let death : WorldDeed BuiltinAction :=
      ⟨world, .notifyDeath 0, world.obey (.notifyDeath 0)⟩
    death.StopsHardware 0 ∧ death.FindsRunning 0 ∧
      Warranted 0 ((fresh [none]).deeds opening) := by
  intro opening world death
  have split : (fresh [none]).deeds (opening ++ [.notifyDeath 0]) =
      (fresh [none]).deeds opening ++ [death] :=
    deeds_append (fresh [none]) opening [.notifyDeath 0]
  have stops : death.StopsHardware 0 := ⟨false, .status 0, by decide⟩
  have running : death.FindsRunning 0 := ⟨_, rfl, rfl⟩
  exact ⟨stops, running,
    (stop_warranted_iff_running [none] _ 0 split stops).2.1.mpr running⟩

/-- A session that was only created asks the hardware to stop when its client
stops it, although the hardware was never asked to start anything for it. -/
theorem unstarted_stop_reaches_hardware :
    let opening : List (WorldCommand BuiltinAction) :=
      [.make ⟨⟨0, 0, false, "owner", 0, 1⟩, .fingerprint, .standard true⟩ .enumerate none
        (some (.failingAfter none (.refused .channelClosed)))]
    let world := (fresh []).after opening
    let stop : WorldDeed BuiltinAction :=
      ⟨world, .perform 0 (.stop true), world.obey (.perform 0 (.stop true))⟩
    (fresh []).deeds (opening ++ [.perform 0 (.stop true)]) =
        (fresh []).deeds opening ++ [stop] ∧
      stop.StopsHardware 0 ∧ ¬ Warranted 0 ((fresh []).deeds opening) := by
  intro opening world stop
  refine ⟨deeds_append (fresh []) opening [.perform 0 (.stop true)],
    ⟨true, .status 0, by decide⟩, ?_⟩
  rintro ⟨past, start, since, isOpening, ⟨effect, member, _⟩, _⟩
  have isDeed : start ∈ (fresh []).deeds opening := by simp [isOpening]
  obtain rfl := List.mem_singleton.mp isDeed
  cases member

end World

end BiometricSession
