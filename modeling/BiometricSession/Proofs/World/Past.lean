import BiometricSession.Proofs.Session.Aging
import BiometricSession.Proofs.World.Lasting
import BiometricSession.Proofs.World.Stopping

/-!
# What a session's state says of its past

A session has ended exactly if an event has finished it or it was destroyed, and
it is running exactly if the hardware has taken its start and nothing has ended it
since.  Nothing else that happens in a world, and no call that a collaborator
breaks off, makes a session end or run.  A destroyed session holds nothing, a link
comes with its token, and from one moment of a run to a later one every session
only grows older.
-/

namespace BiometricSession

/-- The hardware takes a start by which the session at a position carries out what a
deed asks of it. -/
def WorldDeed.TakesStart {Action : Type} (position : Nat) (deed : WorldDeed Action) : Prop :=
  ∃ call ∈ deed.hardwareCalls position, call.acceptedStart = true

/-- A session of the given age stays at least as old. -/
theorem Session.aging_lasts {Action : Type} [HardwareAction Action]
    (first : Session Action) : Lasting first.Ages fun _ => True where
  perform setting answers session operation ages :=
    ⟨ages.trans (session.ages_perform setting answers operation), fun _ _ => trivial⟩
  drop _ _ _ _ _ _ := trivial

namespace World

variable {Action : Type} [HardwareAction Action] {world : World Action} {position : Nat}

/-! ## How a session comes to its end -/

/-- A command that asks nothing of the session at a position at most lets it hear of
its client's death. -/
theorem Follows.elsewhere {command : WorldCommand Action}
    (follows : Follows command.asks position world (world.obey command).happenings
      (world.obey command).world)
    (noPerform : ∀ operation, command ≠ .perform position operation) :
    Follows (· = .clientDied true) position world (world.obey command).happenings
      (world.obey command).world := by
  cases command with
  | perform number operation =>
      have other : number ≠ position := fun same => noPerform operation (by rw [same])
      cases found : world.monitor? number with
      | none => simpa [obey, found] using Follows.refl world
      | some monitor =>
          obtain ⟨same, nothing⟩ := perform_other found operation other
          rw [obey_perform found] at follows ⊢
          refine ⟨?_, follows.absent, follows.length_eq⟩
          intro present isPresent
          exact ⟨present, [], same.trans isPresent, rfl, .start _, nothing, by simp⟩
  | _ => exact follows

/-- A session that has ended after a command had ended before, unless the command has
finished or destroyed it. -/
theorem ended_before_or_ends {command : WorldCommand Action} {later : Monitor Action}
    (found : (world.obey command).world.monitor? position = some later)
    (terminated : later.session.phase = .terminated)
    (spares : WorldDeed.Spares position ⟨world, command, world.obey command⟩) :
    ∃ monitor, world.monitor? position = some monitor ∧
      monitor.session.phase = .terminated := by
  rcases obey_cases world command position with
    ⟨setting, action, token, listener, rfl⟩ | rfl | follows
  · obtain ⟨linked, monitors, _⟩ := make_eq world setting action token listener
    have place := monitor?_append world _ monitors position
    simp only [obey, WorldStep.map_world] at found
    rw [place] at found
    split at found
    · obtain rfl := Option.some.inj found
      rcases linked with _ | ⟨number, error | link⟩ <;> cases terminated
    · exact ⟨later, found, terminated⟩
  · cases present : world.monitor? position with
    | none => simp [obey, present] at found
    | some monitor =>
        simp only [obey_drop present, WorldStep.map_world, drop] at found
        rw [monitor?_settle (lt_length_of_monitor? present), if_pos rfl] at found
        cases found
  · cases present : world.monitor? position with
    | none => simp [(follows.absent present).1] at found
    | some monitor =>
        refine ⟨monitor, rfl, ?_⟩
        -- a command that does not ask the session for an operation can at most report
        -- its client's death, which ends no session
        by_cases here : ∃ operation, command = .perform position operation
        · obtain ⟨operation, rfl⟩ := here
          obtain ⟨listener, isLater⟩ := monitor?_perform present operation
          rw [obey_perform present] at found spares
          obtain rfl := Option.some.inj (isLater.symm.trans found)
          by_cases live : monitor.session.phase = .terminated
          · exact live
          rcases Session.ends_of_terminated live terminated with
            ⟨event, rfl, verdict⟩ | ⟨rfl, returned⟩
          · simp [WorldDeed.Spares, WorldDeed.finishes, perform, verdict, Ending.map] at spares
          · simp [WorldDeed.Spares, WorldDeed.destroys, perform, returned, Ending.map] at spares
        · obtain ⟨other, life, isLater, _, course, _, deaths⟩ :=
            (follows.elsewhere fun operation same => here ⟨operation, same⟩).present
              monitor present
          obtain rfl := Option.some.inj (isLater.symm.trans found)
          exact course.terminated_of_deaths deaths terminated

/-- A session that has ended by the end of a run had ended at its beginning, unless a
deed of the run has finished or destroyed it. -/
theorem ended_before_or_by_deed {commands : List (WorldCommand Action)}
    {later : Monitor Action} (found : (world.after commands).monitor? position = some later)
    (terminated : later.session.phase = .terminated)
    (spared : ∀ deed ∈ world.deeds commands, deed.Spares position) :
    ∃ monitor, world.monitor? position = some monitor ∧
      monitor.session.phase = .terminated := by
  induction commands generalizing world with
  | nil => exact ⟨later, found, terminated⟩
  | cons command commands ih =>
      obtain ⟨monitor, present, ended⟩ :=
        ih found fun deed member => spared deed (List.mem_cons_of_mem _ member)
      exact ended_before_or_ends present ended (spared _ List.mem_cons_self)

theorem EndedAt.after (ended : EndedAt position world)
    (commands : List (WorldCommand Action)) : EndedAt position (world.after commands) := by
  induction commands generalizing world with
  | nil => exact ended
  | cons command commands ih => exact ih (ended.obey command).1

/-- A session is ended for the rest of a run by a deed that has finished or destroyed
it. -/
theorem endedAt_of_deed (sound : world.Sound) {commands : List (WorldCommand Action)}
    {deed : WorldDeed Action} (member : deed ∈ world.deeds commands)
    (ends : deed.finishes position = true ∨ deed.destroys position = true) :
    EndedAt position (world.after commands) := by
  obtain ⟨earlier, later, split⟩ := List.append_of_mem member
  obtain ⟨first, second, rfl, _, before, step, _⟩ := deeds_split split
  obtain ⟨between, command, done⟩ := deed
  simp only at before step
  subst before step
  have soundBetween := sound.after first position
  rw [after_append, after_cons]
  refine EndedAt.after ?_ second
  rcases ends with finishes | destroys
  · exact endedAt_of_finishes soundBetween finishes
  · exact endedAt_of_destroys soundBetween destroys

/-! ## The state and the past -/

variable {processes : List (Option UInt32)} {commands : List (WorldCommand Action)}
  {monitor : Monitor Action}

/-- A session has ended exactly if a deed of the run has finished or destroyed it. -/
theorem terminated_iff_not_spared
    (found : ((fresh processes).after commands).monitor? position = some monitor) :
    monitor.session.phase = .terminated ↔
      ¬ ∀ deed ∈ (fresh processes).deeds commands, deed.Spares position := by
  constructor
  · intro terminated spared
    obtain ⟨_, present, _⟩ := ended_before_or_by_deed found terminated spared
    simp [monitor?, fresh] at present
  · intro unspared
    by_cases live : monitor.session.phase = .terminated
    · exact live
    refine absurd ?_ unspared
    intro deed member
    have unended : ¬(deed.finishes position = true ∨ deed.destroys position = true) :=
      fun ends => live
        ((endedAt_of_deed (sound_fresh processes) member ends).terminated monitor found)
    simpa [WorldDeed.Spares] using unended

omit [HardwareAction Action] in
theorem takesStart_iff {deeds : List (WorldDeed Action)} :
    (∃ deed ∈ deeds, deed.TakesStart position) ↔
      0 < (hardwareCalls position deeds).countP (·.acceptedStart) := by
  simp only [List.countP_pos_iff, hardwareCalls, List.mem_flatMap, WorldDeed.TakesStart]
  constructor
  · rintro ⟨deed, member, call, called, accepted⟩
    exact ⟨call, ⟨deed, member, called⟩, accepted⟩
  · rintro ⟨call, ⟨deed, member, called⟩, accepted⟩
    exact ⟨deed, member, call, called, accepted⟩

/-- A session is running exactly if the hardware has taken its start and no deed has
finished or destroyed it. -/
theorem running_iff_taken
    (found : ((fresh processes).after commands).monitor? position = some monitor) :
    monitor.session.phase = .running ↔
      (∃ deed ∈ (fresh processes).deeds commands, deed.TakesStart position) ∧
        ∀ deed ∈ (fresh processes).deeds commands, deed.Spares position := by
  have accounts := run_accounts processes commands found
  have ended := terminated_iff_not_spared found
  rw [takesStart_iff]
  constructor
  · intro running
    refine ⟨by simp [accounts.running running], ?_⟩
    by_cases spared : ∀ deed ∈ (fresh processes).deeds commands, deed.Spares position
    · exact spared
    · cases running.symm.trans (ended.mpr spared)
  · rintro ⟨taken, spared⟩
    cases phase : monitor.session.phase with
    | created => simp [accounts.created phase] at taken
    | running => rfl
    | terminated => exact absurd spared (ended.mp phase)

/-- In every run, also if collaborators break off calls, every session is sound: it has
ended exactly if it is finished or destroyed, once destroyed it holds no token, no
link and no listener, and it holds a link only together with its token.  It is running
exactly if the hardware has taken its start and no deed has finished or destroyed it
since.  However the run goes on, the session only grows older. -/
theorem state_tells_past (processes : List (Option UInt32))
    (commands : List (WorldCommand Action)) (position : Nat) {monitor : Monitor Action}
    (found : ((fresh processes).after commands).monitor? position = some monitor) :
    monitor.session.Sound ∧
      (monitor.session.phase = .running ↔
        (∃ deed ∈ (fresh processes).deeds commands, deed.TakesStart position) ∧
          ∀ deed ∈ (fresh processes).deeds commands, deed.Spares position) ∧
        ∀ more later,
          ((fresh processes).after (commands ++ more)).monitor? position = some later →
            monitor.session.Ages later.session := by
  refine ⟨(sound_fresh processes).after commands position monitor found,
    running_iff_taken found, ?_⟩
  intro more later isLater
  rw [after_append] at isLater
  exact ((StaysAt.of_found found (.refl _)).after
    (Session.aging_lasts monitor.session) more).within later isLater

/-- The hardware breaks off the first start of a session and takes the second, then the
listener breaks off a rejection: the session is running all the same, and it has grown
older when it is destroyed. -/
theorem state_tells_past_broken_calls :
    let attempt : WorldCommand BuiltinAction :=
      .perform 0 (.callback (.result (.authenticated default false [])))
    let commands : List (WorldCommand BuiltinAction) :=
      [.make ⟨⟨10, 20, false, "owner", 42, 1⟩, .fingerprint, .standard true⟩
          (.authenticate (.fresh 7 (.empty 6) 3)) (some 0) (some (.failingAfter (some 1) .crash)),
        .setHal (.steady (.crash 0) (.status 0)), .perform 0 .start, .setHal .willing,
        .perform 0 .start, attempt, attempt]
    ∃ monitor, ((fresh [none]).after commands).monitor? 0 = some monitor ∧
      monitor.session.poisoned = true ∧ monitor.session.phase = .running ∧
        monitor.session.Sound ∧
          (∃ deed ∈ (fresh [none]).deeds commands, deed.TakesStart 0) ∧
            ∃ later, ((fresh [none]).after (commands ++ [.perform 0 .destroy])).monitor? 0 =
                some later ∧ later.session.destroyed = true ∧
              monitor.session.Ages later.session := by
  intro attempt commands
  refine ⟨_, rfl, rfl, rfl, ?_, ?_, _, rfl, rfl, ?_⟩
  · exact (state_tells_past [none] commands 0 rfl).1
  · exact ((state_tells_past [none] commands 0 rfl).2.1.mp rfl).1
  · exact (state_tells_past [none] commands 0 rfl).2.2 [.perform 0 .destroy] _ rfl

end World

end BiometricSession
