import BiometricSession.Proofs.Action.Muted
import BiometricSession.Proofs.World.Interference
import BiometricSession.Proofs.World.Likeness

/-!
# Haptics and the rest

Nothing but the vibrations depends on the haptics.  Two runs in which the same is asked of
the same sessions, with vibrators and defaults of any kind and with preferences that change
in any way and at any time, have the same answers, leave the sessions in the same states and
let the same happen in the same order but for vibrations.

Every run is compared with the one in which there is no vibrator and no preference at all.
-/

namespace BiometricSession

variable {Action : Type} [HardwareAction Action]

/-! ## Sessions without haptics -/

namespace Session

variable (setting : Setting) (answers : Answers) (session : Session Action)

theorem muted_lastWords :
    (session.lastWords setting answers).muted =
      session.lastWords setting.muted answers.muted :=
  congrFun (Scope.muted_reportError (session.scope setting answers) _ _ _ _) []

/-- A session where nothing can vibrate is alike to the session. -/
theorem muted_alike [UnfeelingAction Action] :
    Alike (!·.vibrates) Eq setting setting.muted answers answers.muted session
      session.action where
  action := rfl
  kind_eq := rfl
  request_eq _ := rfl
  descriptor_eq := rfl
  start_eq := rfl
  stop_eq := rfl
  refusal_eq := rfl
  reaction event := by
    rw [recast_action, ← muted_reaction]
    have shows := Effect.muted_muted (session.reaction setting answers event).emission.effects
    refine ⟨rfl, shows.symm, .of_filter_eq ?_ ?_ shows.symm, rfl⟩ <;>
      intro effect asks <;> cases effect <;> first | rfl | cases asks
  lastWords_effects := by
    rw [recast_action, ← muted_lastWords]
    exact (Effect.muted_muted _).symm
  lastWords_ending := by
    rw [recast_action, ← muted_lastWords]
    rfl

end Session

/-- A world with whatever haptics, and a world without any. -/
def Likeness.haptics [UnfeelingAction Action] : Likeness Action where
  shown _ effect := !effect.vibrates
  settings setting other := other = setting.muted
  actions _ := Eq
  listeners _ := Eq
  preferences _ other := other = .empty
  shown_unlink _ _ _ _ := rfl
  told := by
    intro position listener other effects others same shows
    have told : Effect.attempts effects = Effect.attempts others := by
      rw [← Effect.attempts_muted, ← Effect.attempts_muted others]
      exact congrArg Effect.attempts shows
    rw [same, told]
  sessions := by
    intro position setting otherSetting session other listener otherListener tastes otherTastes
      hal refusal settings actions listeners preferences
    subst settings actions listeners preferences
    exact Session.muted_alike setting (.given hal tastes listener refusal) session

/-! ## Runs -/

namespace WorldCommand

/-- The command with a session where nothing can vibrate, unless it is about haptics only. -/
def muted : WorldCommand Action → Option (WorldCommand Action)
  | .make setting action token listener => some (.make setting.muted action token listener)
  | .setPreference .. => none
  | command => some command

/-- Whether a command is about haptics only. -/
def prefers : WorldCommand Action → Bool
  | .setPreference .. => true
  | _ => false

theorem muted_commands [UnfeelingAction Action] {command image : WorldCommand Action}
    (same : command.muted = some image) (position : Nat) :
    Likeness.haptics.Commands position command image ∧ command.prefers = false ∧
      image.prefers = false := by
  cases command <;> cases same <;> refine ⟨?_, rfl, rfl⟩ <;> constructor <;> rfl

end WorldCommand

/-- What is left of a deed without the vibrations: the answer, the tokens, the sessions and
what they did. -/
structure Impression (Action : Type) where
  ending : Ending WorldAnswer
  tokens : List (ClientToken Nat)
  sessions : List (Option (Session Action))
  trace : List (Nat × Effect)

namespace World

/-- What is left of a step without the vibrations. -/
def impression (step : WorldStep Action WorldAnswer) : Impression Action where
  ending := step.ending
  tokens := step.world.tokens
  sessions := step.world.monitors.map (Option.map (·.session))
  trace := (trace step.happenings).filter fun (_, effect) => !effect.vibrates

/-- What is left of some deeds without the haptics. -/
def impressions (deeds : List (WorldDeed Action)) : List (Impression Action) :=
  (deeds.filter (!·.command.prefers)).map fun deed => impression deed.step

variable [UnfeelingAction Action] {world other : World Action}

theorem sessions_eq (worlds : Likeness.haptics.Worlds world other) :
    world.monitors.map (Option.map (·.session)) =
      other.monitors.map (Option.map (·.session)) := by
  have same (position : Nat) : (world.monitor? position).map (·.session) =
      (other.monitor? position).map (·.session) := by
    rcases worlds.absent_or_pair position with
      ⟨absent, absentToo⟩ | ⟨monitor, image, found, foundToo, pair⟩
    · rw [absent, absentToo]
    · obtain ⟨action, recast, rfl⟩ := pair.session
      rw [found, foundToo, Option.map_some, Option.map_some, recast, Session.recast_action]
  refine List.ext_getElem (by simp [worlds.length_eq]) ?_
  intro position within withinToo
  rw [List.length_map] at within withinToo
  simpa [monitor?, within, withinToo] using same position

theorem impression_eq {step image : WorldStep Action WorldAnswer}
    (steps : Likeness.haptics.Steps step image) : impression step = impression image := by
  unfold impression
  rw [steps.ending, steps.world.tokens_eq, sessions_eq steps.world]
  exact congrArg _ steps.trace

/-- A run leaves the impression that it leaves without any haptics. -/
theorem impressions_muted (worlds : Likeness.haptics.Worlds world other)
    (commands : List (WorldCommand Action)) :
    impressions (world.deeds commands) =
      impressions (other.deeds (commands.filterMap (·.muted))) := by
  induction commands generalizing world other with
  | nil => rfl
  | cons command commands ih =>
      cases muted : command.muted with
      | none =>
          cases command with
          | setPreference key user value =>
              have still : Likeness.haptics.Worlds (world.setPreference key user value) other :=
                { worlds with }
              exact ih still
          | _ => cases muted
      | some image =>
          obtain ⟨commands, matters, mattersToo⟩ :=
            WorldCommand.muted_commands muted world.monitors.length
          have steps := worlds.obey commands
          have rest := ih steps.world
          unfold impressions at rest ⊢
          simp [deeds, muted, matters, mattersToo, rest, impression_eq steps]

/-- Haptics influence nothing.  Whatever the sessions of two runs have for vibrators and
defaults, and whatever users prefer and change at any time, if the rest of what is asked of
the two worlds is the same, then so are the answers, the tokens, the sessions and all that
they do but the vibrations. -/
theorem haptics_influence_nothing (processes : List (Option UInt32)) (hal : Hal)
    (preferences otherPreferences : Preferences)
    (first second : List (WorldCommand Action))
    (same : first.filterMap (·.muted) = second.filterMap (·.muted)) :
    impressions ((opening processes hal preferences).deeds first) =
      impressions ((opening processes hal otherPreferences).deeds second) := by
  have worlds (preferences : Preferences) :
      Likeness.haptics.Worlds (opening processes hal preferences : World Action)
        (opening processes hal .empty) :=
    ⟨rfl, rfl, rfl, rfl, rfl, fun _ => .none⟩
  rw [impressions_muted (worlds preferences), impressions_muted (worlds otherPreferences), same]

/-- An enrollment that a device with a vibrator confirms once, as the user turns the
feedback off afterwards, and the same enrollment on a device without one. -/
theorem haptics_influence_nothing_enrolling :
    let setting (haptics : HapticGate) : Setting :=
      ⟨⟨10, 20, false, "owner", 42, 1⟩, .fingerprint, haptics⟩
    let make (haptics : HapticGate) : WorldCommand BuiltinAction :=
      .make (setting haptics) (.enroll ⟨[1], 60, .empty 6⟩) (some 0)
        (some (.failingAfter none .sent))
    let sample (remaining : Int32) : WorldCommand BuiltinAction :=
      .perform 0 (.callback (.result (.enrolled default remaining)))
    let first := [make (.standard true), .perform 0 .start, sample 1,
      .setPreference .successHaptics 10 false, sample 0]
    let second := [make .disabled, .setPreference .errorHaptics 10 true, .perform 0 .start,
      sample 1, sample 0]
    let loud := (opening [none] .willing .empty).deeds first
    let still := (opening [none] .willing .empty).deeds second
    first.filterMap (·.muted) = second.filterMap (·.muted) ∧
      (loud.flatMap fun deed => (trace deed.step.happenings).filter (·.2.vibrates)) =
        [(0, .vibration .click .assistanceSonification)] ∧
        (still.flatMap fun deed => (trace deed.step.happenings).filter (·.2.vibrates)) = [] ∧
          impressions loud = impressions still := by
  intro setting make sample first second loud still
  exact ⟨rfl, by decide, by decide, haptics_influence_nothing [none] .willing .empty .empty
    first second rfl⟩

end World

end BiometricSession
