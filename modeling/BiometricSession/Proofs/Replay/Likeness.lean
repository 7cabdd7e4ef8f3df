import BiometricSession.Proofs.Replay.Probing
import BiometricSession.Proofs.World.Likeness

/-!
# Replays that are alike

Worlds that do not differ in more than a likeness allows stay so along a replay, and of the
lines that come from effects which are shown, the same are shown.  So two replays of one
script agree on these lines if the sessions that they make are related.
-/

namespace BiometricSession

/-- The lines of what happens are those of what the sessions do. -/
theorem Occurrence.linesOf_eq_lines_trace (happenings : List Happening) :
    linesOf happenings = Effect.lines ((World.trace happenings).map Prod.snd) := by
  induction happenings with
  | nil => rfl
  | cons happening happenings ih =>
      cases happening with
      | logged record => exact ih
      | effect position setting done =>
          have first := linesOf_effects position setting [done]
          have split := linesOf_append [.effect position setting done] happenings
          rw [show linesOf [.effect position setting done] = _ from first, ih,
            ← Effect.lines_append] at split
          exact split

namespace Likeness

variable (likeness : Likeness BuiltinAction) (counts : ReplayLine → Bool)

/-- Every line that counts comes from an effect that is shown. -/
def Covers : Prop :=
  ∀ position effect line, Effect.line? effect = some line → counts line = true →
    likeness.shown position effect = true

/-- Two steps of a replay that show the same lines that count, and lead to worlds that do not
differ in more than they may. -/
structure ReplaySteps (step other : ReplayStep) : Prop where
  world : likeness.Worlds step.world other.world
  lines : step.lines.filter counts = other.lines.filter counts

variable {likeness counts}

/-- What is not shown of the sessions does not matter to the lines that count. -/
theorem filter_lines_partShown (covers : likeness.Covers counts) (parts : List (Nat × Effect)) :
    (Effect.lines ((parts.filter likeness.partShown).map Prod.snd)).filter counts =
      (Effect.lines (parts.map Prod.snd)).filter counts := by
  induction parts with
  | nil => rfl
  | cons part parts ih =>
      obtain ⟨position, effect⟩ := part
      unfold Effect.lines at ih ⊢
      cases shows : likeness.partShown (position, effect) with
      | true =>
          simp only [List.filter_cons_of_pos shows, List.map_cons, List.filterMap_cons]
          cases effect.line? with
          | none => exact ih
          | some line => simp only [List.filter_cons, ih]
      | false =>
          rw [List.filter_cons_of_neg (by simp [shows]), ih, List.map_cons,
            List.filterMap_cons]
          cases isLine : effect.line? with
          | none => rfl
          | some line =>
              have skipped : counts line = false := by
                cases counted : counts line with
                | false => rfl
                | true => cases (covers position effect line isLine counted).symm.trans shows
              simp [skipped]

theorem Steps.filter_linesOf (covers : likeness.Covers counts) {Value : Type}
    {step image : WorldStep BuiltinAction Value} (steps : likeness.Steps step image) :
    (Occurrence.linesOf step.happenings).filter counts =
      (Occurrence.linesOf image.happenings).filter counts := by
  rw [Occurrence.linesOf_eq_lines_trace, Occurrence.linesOf_eq_lines_trace,
    ← filter_lines_partShown covers, steps.trace, filter_lines_partShown covers]

theorem Steps.report (covers : likeness.Covers counts) {Value : Type}
    {step image : WorldStep BuiltinAction Value} (steps : likeness.Steps step image)
    (line? : Value → Option ReplayLine) :
    likeness.ReplaySteps counts (Replay.report step line?) (Replay.report image line?) where
  world := steps.world
  lines := by
    have same := steps.filter_linesOf covers
    unfold Occurrence.linesOf at same
    simp only [ReplayStep.lines, Replay.report, List.filterMap_append, List.filter_append, same,
      steps.ending]

namespace ReplaySteps

variable {step image : ReplayStep} {world other : World BuiltinAction}

theorem still (alike : likeness.Worlds world other) (occurrences : List Occurrence) :
    likeness.ReplaySteps counts ⟨world, occurrences⟩ ⟨other, occurrences⟩ :=
  ⟨alike, rfl⟩

theorem andThen (steps : likeness.ReplaySteps counts step image)
    {next : World BuiltinAction → ReplayStep}
    (goesOn : ∀ {world other}, likeness.Worlds world other →
      likeness.ReplaySteps counts (next world) (next other)) :
    likeness.ReplaySteps counts (step.andThen next) (image.andThen next) where
  world := (goesOn steps.world).world
  lines := by
    rw [ReplayStep.lines_andThen, ReplayStep.lines_andThen, List.filter_append,
      List.filter_append, steps.lines, (goesOn steps.world).lines]

end ReplaySteps

/-! ## What happens in a replay -/

namespace Worlds

variable {world other : World BuiltinAction}

theorem replay_perform (covers : likeness.Covers counts) (alike : likeness.Worlds world other)
    (operation : Operation) :
    likeness.ReplaySteps counts (Replay.perform operation world)
      (Replay.perform operation other) := by
  unfold Replay.perform
  rcases alike.absent_or_pair 0 with
    ⟨absent, absentToo⟩ | ⟨monitor, image, found, foundToo, pair⟩
  · rw [absent, absentToo]
    exact .still alike []
  · rw [found, foundToo]
    exact (alike.perform found pair operation).report covers _

theorem replay_clientDeath (covers : likeness.Covers counts)
    (alike : likeness.Worlds world other) :
    likeness.ReplaySteps counts (Replay.clientDeath world) (Replay.clientDeath other) :=
  (alike.notifyDeath 0).report covers _

theorem replay_checkOwner (covers : likeness.Covers counts)
    (alike : likeness.Worlds world other) (processes : ProcessTable) (owner : Option UInt32) :
    likeness.ReplaySteps counts (Replay.checkOwner processes owner world)
      (Replay.checkOwner processes owner other) := by
  have death := alike.replay_clientDeath covers
  unfold Replay.checkOwner
  rw [← alike.tokens_eq]
  split
  · split
    · exact ⟨death.world, death.lines⟩
    · exact .still alike []
    · exact .still alike []
  · exact .still alike []

theorem replay_happen (covers : likeness.Covers counts) (alike : likeness.Worlds world other)
    (spec : SessionSpec) (event : ScriptEvent) :
    likeness.ReplaySteps counts (Replay.happen spec event world)
      (Replay.happen spec event other) := by
  unfold Replay.happen
  cases event.operation? spec with
  | some operation => exact alike.replay_perform covers operation
  | none =>
      simp only [← alike.tokens_eq]
      cases world.tokens with
      | nil => exact .still alike _
      | cons token others => exact alike.replay_clientDeath covers

theorem replay_happenAll (covers : likeness.Covers counts)
    (alike : likeness.Worlds world other) (owner : Option UInt32) (spec : SessionSpec)
    (processes : Nat → ProcessTable) (events : List ScriptEvent) :
    likeness.ReplaySteps counts (Replay.happenAll owner spec processes events world)
      (Replay.happenAll owner spec processes events other) := by
  induction events generalizing processes world other with
  | nil => exact .still alike []
  | cons event events ih =>
      unfold Replay.happenAll
      refine ReplaySteps.andThen ?_ fun alike => ih alike _
      exact (alike.replay_checkOwner covers (processes 0) owner).andThen fun alike =>
        alike.replay_happen covers spec event

theorem replay_leave (covers : likeness.Covers counts) (alike : likeness.Worlds world other) :
    likeness.ReplaySteps counts (Replay.leave world) (Replay.leave other) := by
  unfold Replay.leave
  rcases alike.absent_or_pair 0 with
    ⟨absent, absentToo⟩ | ⟨monitor, image, found, foundToo, pair⟩
  · rw [absent, absentToo]
    exact .still alike []
  · rw [found, foundToo]
    exact (alike.drop found pair).report covers _

end Worlds

theorem ReplaySteps.conclude (covers : likeness.Covers counts) {played image : ReplayStep}
    (steps : likeness.ReplaySteps counts played image) (events : List ScriptEvent) :
    likeness.ReplaySteps counts (Replay.conclude events played)
      (Replay.conclude events image) := by
  unfold Replay.conclude
  refine ReplaySteps.andThen ?_ fun alike => alike.replay_leave covers
  split
  · exact steps
  · exact steps.andThen fun alike => alike.replay_perform covers .destroy

end Likeness

/-! ## Whole replays -/

namespace ReplayScript

variable {likeness : Likeness BuiltinAction} {counts : ReplayLine → Bool}

/-- Under configurations that give it related sessions, a script shows the same lines that
count. -/
theorem filter_lines_runWith (script : ReplayScript) {config other : MonitorConfig}
    {cookie : Int32} (covers : likeness.Covers counts)
    (settings : likeness.settings (config.setting (script.session.descriptor cookie))
      (other.setting (script.session.descriptor cookie)))
    (actions : likeness.actions 0 (script.session.action config) (script.session.action other))
    (listeners : ∀ listener, likeness.listeners 0 listener listener)
    (preferences : likeness.preferences .empty .empty)
    (processes : Nat → ProcessTable) (owner : Option UInt32) (strangers : Nat → Bool)
    (token : Option (ClientToken Nat)) :
    (script.runWith processes config owner strangers token cookie).lines.filter counts =
      (script.runWith processes other owner strangers token cookie).lines.filter counts := by
  have nobody : likeness.Worlds (script.surroundings strangers token)
      (script.surroundings strangers token) :=
    ⟨rfl, rfl, rfl, preferences, rfl, fun _ => .none⟩
  have making := (nobody.make (token.map fun _ => 0) settings actions
    (listeners (some (.failingAfter script.listener.failAfter (.refused .channelClosed))))
    rfl).report covers fun _ => none
  have made : likeness.ReplaySteps counts (script.make config strangers token cookie)
      (script.make other strangers token cookie) := by
    refine ⟨making.world, ?_⟩
    simpa only [ReplayStep.lines, make, List.filterMap_append, List.filter_append,
      List.append_left_inj] using making.lines
  have started := made.andThen fun alike => alike.replay_perform covers .start
  have played := started.andThen fun alike =>
    alike.replay_happenAll covers owner script.session processes script.events
  rw [runWith_eq, runWith_eq]
  exact (played.conclude covers script.events).lines

end ReplayScript

end BiometricSession
