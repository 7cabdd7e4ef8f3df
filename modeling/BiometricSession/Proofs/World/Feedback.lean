import BiometricSession.Proofs.Session.Feedback
import BiometricSession.Proofs.World.Audit
import BiometricSession.Proofs.World.Lifetime
import BiometricSession.Proofs.World.Mirror
import BiometricSession.Proofs.World.Past

/-!
# Feedback follows the latest preference

Users may change their preferences at any time of a run.  Whether a result is confirmed by a
vibration is decided by the value that was set last before the result came, of the one
preference that the vibration hangs on and for the one user of the session, or by the default
of the session's gate as long as there is none.  A result that comes after the end of its
session is not confirmed.
-/

namespace BiometricSession

/-! ## The latest preference -/

namespace WorldCommand

variable {Action : Type}

/-- The value to which a command sets a user's preference, if it does. -/
def sets? (key : PreferenceKey) (user : Int32) : WorldCommand Action → Option Bool
  | .setPreference otherKey otherUser value =>
      if otherKey = key ∧ otherUser = user then some value else none
  | _ => none

/-- The last value to which some commands set a user's preference, or the default if there is
none. -/
def lastSet (key : PreferenceKey) (user : Int32) (default : Bool)
    (commands : List (WorldCommand Action)) : Bool :=
  commands.foldl (fun value command => (command.sets? key user).getD value) default

end WorldCommand

namespace World

variable {Action : Type} [HardwareAction Action] {world : World Action} {position : Nat}

theorem get_set (preferences : Preferences) (key otherKey : PreferenceKey)
    (user otherUser : Int32) (value default : Bool) :
    (preferences.set otherKey otherUser value).get key user default =
      if otherKey = key ∧ otherUser = user then value
      else preferences.get key user default := by
  unfold Preferences.set Preferences.get
  rw [List.lookup_cons]
  by_cases same : otherKey = key ∧ otherUser = user
  · obtain ⟨rfl, rfl⟩ := same
    simp
  · have other : ((key, user) == (otherKey, otherUser)) = false := by
      rw [beq_eq_false_iff_ne]
      intro equal
      obtain ⟨rfl, rfl⟩ := Prod.mk.inj equal
      exact same ⟨rfl, rfl⟩
    rw [other, if_neg same]

/-- A command changes a preference just if it sets it. -/
theorem get_obey (world : World Action) (command : WorldCommand Action) (key : PreferenceKey)
    (user : Int32) (default : Bool) :
    (world.obey command).world.preferences.get key user default =
      (command.sets? key user).getD (world.preferences.get key user default) := by
  cases command with
  | setPreference otherKey otherUser value =>
      refine (get_set world.preferences key otherKey user otherUser value default).trans ?_
      simp only [WorldCommand.sets?]
      split <;> rfl
  | setHal hal => rfl
  | make | perform | drop | notifyDeath | watch | unlink | setListener =>
      rw [(shares_obey world rfl).preferences_eq]
      rfl

theorem get_after (commands : List (WorldCommand Action)) (key : PreferenceKey) (user : Int32)
    (default : Bool) (world : World Action) :
    (world.after commands).preferences.get key user default =
      WorldCommand.lastSet key user (world.preferences.get key user default) commands := by
  induction commands generalizing world with
  | nil => rfl
  | cons command commands ih =>
      rw [after_cons, ih, get_obey]
      rfl

theorem map_command_deeds (world : World Action) (commands : List (WorldCommand Action)) :
    (world.deeds commands).map (·.command) = commands := by
  induction commands generalizing world with
  | nil => rfl
  | cons command commands ih => simp [deeds, ih]

/-! ## Deeds that let nothing vibrate -/

/-- Nothing vibrates for the session at a position but for an event that reaches it. -/
theorem still_obey {command : WorldCommand Action}
    (noEvent : ∀ event, command = .perform position (.callback event) →
      world.monitor? position = none) :
    ∀ effect ∈ effectsOf position (world.obey command).happenings, effect.vibrates = false := by
  rcases obey_cases world command position with
    ⟨setting, action, token, listener, rfl⟩ | rfl | follows
  · exact fun effect member => Effect.vibrates_of_callsOut
      (effects_make_silent world setting action token listener position effect member)
  · cases found : world.monitor? position with
    | none => simp [obey, found]
    | some monitor =>
        rw [obey_drop found, WorldStep.map_happenings, drop, effectsOf_effects, if_pos rfl]
        exact Session.still_drop _ _ _
  · cases found : world.monitor? position with
    | none => simp [(follows.absent found).2]
    | some monitor =>
        by_cases here : ∃ operation, command = .perform position operation
        · obtain ⟨operation, rfl⟩ := here
          rw [effectsOf_obey_perform found]
          cases operation with
          | callback event => cases (noEvent event rfl).symm.trans found
          | start | stop | clientDied | destroy => exact Session.still_perform _ _ _ rfl
        · obtain ⟨later, life, _, _, course, shows, deaths⟩ :=
            (follows.elsewhere fun operation same => here ⟨operation, same⟩).present
              monitor found
          rw [shows]
          exact course.still_of_deaths deaths

end World

/-! ## Feedback in a run -/

/-- The vibration that is due in a deed, after some others from the beginning of a run, to the
session of a kind at a position: the one that confirms an event which reaches the session
before anything has finished or destroyed it, if the latest preference of the session's user
lets it pass. -/
def WorldDeed.feedback (position : Nat) (setting : Setting) (kind : ClientKind)
    (past : List (WorldDeed BuiltinAction)) (deed : WorldDeed BuiltinAction) :
    Option HapticEffect :=
  match deed.command with
  | .perform number (.callback event) =>
      if number = position ∧ (deed.before.monitor? position).isSome = true ∧
          ∀ earlier ∈ past, earlier.Spares position then
        event.feedback kind fun effect =>
          WorldCommand.lastSet effect.key setting.descriptor.targetUser
            (setting.haptics.default effect) (past.map (·.command))
      else
        none
  | _ => none

namespace World

variable {position : Nat} {setting : Setting} {kind : ClientKind}
  {processes : List (Option UInt32)}

/-- The vibrations that are due in some deeds, after some others from the beginning of a run,
to the session of a kind at a position, in order. -/
def feedbackDuring (position : Nat) (setting : Setting) (kind : ClientKind) :
    List (WorldDeed BuiltinAction) → List (WorldDeed BuiltinAction) → List HapticEffect
  | _, [] => []
  | past, deed :: deeds =>
      (deed.feedback position setting kind past).toList ++
        feedbackDuring position setting kind (past ++ [deed]) deeds

theorem feedback_eq_none {past : List (WorldDeed BuiltinAction)}
    {deed : WorldDeed BuiltinAction}
    (noEvent : ∀ event, deed.command = .perform position (.callback event) →
      deed.before.monitor? position = none) :
    deed.feedback position setting kind past = none := by
  unfold WorldDeed.feedback
  split
  · next number event isEvent =>
      rw [if_neg]
      rintro ⟨rfl, present, _⟩
      simp [noEvent event isEvent] at present
  · rfl

/-- A session still handles events just if no deed has finished or destroyed it. -/
theorem isOpen_iff_spared {commands : List (WorldCommand BuiltinAction)}
    {monitor : Monitor BuiltinAction}
    (found : ((fresh processes).after commands).monitor? position = some monitor) :
    monitor.session.isOpen = true ↔
      ∀ deed ∈ (fresh processes).deeds commands, deed.Spares position := by
  have sound := (sound_fresh processes).after commands position monitor found
  have ended := terminated_iff_not_spared found
  have isOpen : monitor.session.isOpen = true ↔ monitor.session.phase ≠ .terminated := by
    have done := sound.terminated_iff
    cases finished : monitor.session.done <;> simp_all [Session.isOpen]
  rw [isOpen, ne_eq, ended, not_not]

/-- Whatever a command of a run does, the calls of the session at a position begin with the
vibration that is due, and nothing else vibrates. -/
theorem feels_obey {commands : List (WorldCommand BuiltinAction)}
    (asMade : ∀ monitor, ((fresh processes).after commands).monitor? position = some monitor →
      monitor.setting = setting ∧ monitor.session.action.kind = kind)
    (command : WorldCommand BuiltinAction) :
    let world := (fresh processes).after commands
    Effect.Feels
      (if setting.haptics.hasVibrator then
        WorldDeed.feedback position setting kind ((fresh processes).deeds commands)
          ⟨world, command, world.obey command⟩
      else
        none)
      (callsOf position (world.obey command).happenings) := by
  intro world
  by_cases noEvent : ∀ event, command = .perform position (.callback event) →
      world.monitor? position = none
  · rw [feedback_eq_none noEvent, ite_self]
    exact Effect.feels_none fun effect member =>
      still_obey noEvent effect (List.mem_filter.mp member).1
  · push Not at noEvent
    obtain ⟨event, rfl, present⟩ := noEvent
    obtain ⟨monitor, found⟩ := Option.ne_none_iff_exists'.mp present
    obtain ⟨rfl, rfl⟩ := asMade monitor found
    have feels := Session.feels_callback monitor.setting (world.answers monitor)
      monitor.session event
    rw [callsOf, effectsOf_obey_perform found]
    convert feels using 1
    have preferred (effect : HapticEffect) :
        world.preferences.get effect.key monitor.setting.descriptor.targetUser
            (monitor.setting.haptics.default effect) =
          WorldCommand.lastSet effect.key monitor.setting.descriptor.targetUser
            (monitor.setting.haptics.default effect) commands :=
      get_after commands _ _ _ (fresh processes)
    simp only [WorldDeed.feedback, map_command_deeds, ← preferred, found, Option.isSome_some,
      true_and, ← isOpen_iff_spared found, HardwareEvent.feedback_passes]
    change (if _ then (if _ then _ else _) else _) = if _ then (if _ then _ else _) else _
    cases monitor.session.isOpen <;> cases monitor.setting.haptics.hasVibrator <;> rfl

/-- The vibrations of a run are those that are due, if they are so in every deed. -/
theorem filter_vibrates_during {vibrator : Bool} {run past deeds : List (WorldDeed BuiltinAction)}
    (split : run = past ++ deeds)
    (feels : ∀ earlier deed later, run = earlier ++ deed :: later →
      Effect.Feels (if vibrator then deed.feedback position setting kind earlier else none)
        (callsOf position deed.step.happenings)) :
    (effectsDuring position deeds).filter (·.vibrates) =
      if vibrator then
        (feedbackDuring position setting kind past deeds).map
          (.vibration · .assistanceSonification)
      else
        [] := by
  induction deeds generalizing past with
  | nil => simp [effectsDuring, feedbackDuring]
  | cons deed deeds ih =>
      have first := (feels past deed deeds split).filter_eq
      rw [callsOf, Effect.filter_vibrates_callsOut] at first
      have rest := ih (split.trans (List.append_cons past deed deeds))
      unfold effectsDuring at rest ⊢
      rw [List.flatMap_cons, List.filter_append, first, rest]
      cases vibrator with
      | true => simp [feedbackDuring, Effect.vibrations]
      | false => rfl

/-- Wherever a session is found in a run, it has the setting and the kind of action with which
it was made. -/
theorem standing_as_made {opening commands : List (WorldCommand BuiltinAction)}
    {action : BuiltinAction} {token : Option Nat} {listener : Option Listener}
    {deed : WorldDeed BuiltinAction}
    (member : deed ∈ (fresh processes).deeds
      (opening ++ .make setting action token listener :: commands))
    {monitor : Monitor BuiltinAction}
    (found : deed.before.monitor? ((fresh processes).after opening).monitors.length =
      some monitor) :
    monitor.setting = setting ∧ monitor.session.action.kind = action.kind := by
  rw [deeds_append] at member
  rcases List.mem_append.mp member with early | late
  · -- before it is made, no session stands at its position
    obtain ⟨earlier, later, split⟩ := List.append_of_mem early
    obtain ⟨first, second, same, _, before, _, _⟩ := deeds_split split
    have made := lt_length_of_monitor? found
    rw [before] at made
    have still := ((StaysAt.of_made made).after .anything (deed.command :: second)).made
    rw [← after_append, ← same] at still
    exact absurd still (Nat.lt_irrefl _)
  · obtain ⟨sameSetting, sameTerms⟩ :=
      found_as_made _ setting action token listener commands late found
    exact ⟨sameSetting, congrArg Terms.kind sameTerms⟩

/-- Haptic feedback follows the latest preference.  In a run that makes a session, while users
change their preferences at any time, the session lets the device vibrate just as is due, in
order: a click for each progress of an enrollment and each accepted attempt, and a double click
for each rejected attempt, that reach a session which expects them and which nothing has ended
before, at those of them at which the user's latest preference lets the vibration pass.  It
does so before any other call, whatever becomes of the deliveries.  Without a vibrator nothing
vibrates. -/
theorem feedback_follows_latest_preference (processes : List (Option UInt32))
    (opening commands : List (WorldCommand BuiltinAction)) (setting : Setting)
    (action : BuiltinAction) (token : Option Nat) (listener : Option Listener) :
    let position := ((fresh processes).after opening).monitors.length
    let run := (fresh processes).deeds
      (opening ++ .make setting action token listener :: commands)
    (effectsDuring position run).filter (·.vibrates) =
        (if setting.haptics.hasVibrator then
          (feedbackDuring position setting action.kind [] run).map
            (.vibration · .assistanceSonification)
        else
          []) ∧
      ∀ deed ∈ run,
        let calls := callsOf position deed.step.happenings
        calls = calls.filter (·.vibrates) ++ calls.filter (!·.vibrates) := by
  intro position run
  have feels : ∀ earlier deed later, run = earlier ++ deed :: later →
      Effect.Feels
        (if setting.haptics.hasVibrator then
          deed.feedback position setting action.kind earlier
        else
          none)
        (callsOf position deed.step.happenings) := by
    intro earlier deed later split
    obtain ⟨first, second, _, rfl, before, step, _⟩ := deeds_split split
    have member : deed ∈ run := by
      rw [split]
      exact List.mem_append_right _ List.mem_cons_self
    obtain ⟨world, command, done⟩ := deed
    simp only at before step
    subst before step
    exact feels_obey (fun monitor found => standing_as_made member found) command
  refine ⟨filter_vibrates_during rfl feels, ?_⟩
  intro deed member
  obtain ⟨earlier, later, split⟩ := List.append_of_mem member
  exact (feels earlier deed later split).calls_eq

/-- Of four rejections the first finds the default, which is off, and the fourth comes after
the session was finished by the third, whose delivery fails.  The other two are felt, for the
user has turned that feedback on, and neither the other feedback nor the other user matters. -/
theorem feedback_follows_latest_preference_rejections :
    let setting : Setting :=
      ⟨⟨10, 20, false, "owner", 42, 1⟩, .fingerprint, ⟨true, true, false⟩⟩
    let action : BuiltinAction := .authenticate (.fresh 7 (.empty 6) 9)
    let listener : Listener := .failingAfter (some 2) (.refused .channelClosed)
    let rejection : WorldCommand BuiltinAction :=
      .perform 0 (.callback (.result (.authenticated default false [])))
    let commands :=
      [rejection, .setPreference .errorHaptics 10 true, rejection,
        .setPreference .successHaptics 10 false, .setPreference .errorHaptics 11 false,
        rejection, rejection]
    let run := (fresh []).deeds
      ([.setPreference .errorHaptics 11 true] ++
        .make setting action none (some listener) :: commands)
    (effectsDuring 0 run).filter (·.vibrates) =
        (feedbackDuring 0 setting .authenticate [] run).map
          (.vibration · .assistanceSonification) ∧
      feedbackDuring 0 setting .authenticate [] run = [.doubleClick, .doubleClick] := by
  intro setting action listener rejection commands run
  exact ⟨(feedback_follows_latest_preference [] [.setPreference .errorHaptics 11 true] commands
    setting action none (some listener)).1, by decide⟩

end World

end BiometricSession
