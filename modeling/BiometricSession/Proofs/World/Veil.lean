import BiometricSession.Proofs.Session.Veil
import BiometricSession.Proofs.World.Life

/-!
# Worlds behind a veil

Two worlds whose sessions differ only behind a veil cannot be told apart: every list of
commands has the same answers in both, lets the same happen apart from hidden notices,
and leads to worlds that again differ only behind the veil.
-/

namespace BiometricSession

variable {Action : Type} [HardwareAction Action] (veil : Veil Action)

/-! ## Hidden notices -/

namespace Veil

variable {veil} in
/-- What only a notice does not change may leave hidden effects out. -/
theorem foldl_visible {State : Type} (change : State → Effect → State)
    (indifferent : ∀ state notice, change state (.notice notice) = state)
    (effects : List Effect) (state : State) :
    (effects.filter veil.visible).foldl change state = effects.foldl change state := by
  induction effects generalizing state with
  | nil => rfl
  | cons effect effects ih =>
      cases visible : veil.visible effect with
      | true => simp [visible, ih]
      | false =>
          obtain ⟨notice, rfl⟩ := veil.notice_of_hidden visible
          simp [visible, ih, indifferent]

theorem applyEffect_visible (effects : List Effect) (tokens : List (ClientToken Nat)) :
    (effects.filter veil.visible).foldl World.applyEffect tokens =
      effects.foldl World.applyEffect tokens :=
  foldl_visible _ (fun _ _ => rfl) effects tokens

theorem countP_visible {counts : Effect → Bool}
    (indifferent : ∀ notice, counts (.notice notice) = false) (effects : List Effect) :
    (effects.filter veil.visible).countP counts = effects.countP counts := by
  induction effects with
  | nil => rfl
  | cons effect effects ih =>
      cases visible : veil.visible effect with
      | true => simp [visible, List.countP_cons, ih]
      | false =>
          obtain ⟨notice, rfl⟩ := veil.notice_of_hidden visible
          simp [visible, indifferent, ih]

/-- The hardware does not hear of notices. -/
theorem after_visible (hal : Hal) (effects : List Effect) :
    hal.after (effects.filter veil.visible) = hal.after effects := by
  unfold Hal.after
  rw [veil.countP_visible fun _ => rfl, veil.countP_visible fun _ => rfl]

theorem attempts_visible (effects : List Effect) :
    Effect.attempts (effects.filter veil.visible) = Effect.attempts effects := by
  induction effects with
  | nil => rfl
  | cons effect effects ih =>
      unfold Effect.attempts at ih ⊢
      cases visible : veil.visible effect with
      | true => simp [visible, ih, List.filterMap_cons]
      | false =>
          obtain ⟨notice, rfl⟩ := veil.notice_of_hidden visible
          rw [List.filter_cons_of_neg (by simp [visible])]
          exact ih

end Veil

/-- Whether something that happens is visible. -/
def Happening.visible : Happening → Bool
  | .effect _ _ shown => veil.visible shown
  | .logged _ => true

def Monitor.veiled (monitor : Monitor Action) : Monitor Action :=
  { monitor with session := veil.hide monitor.session }

/-- The world as it is seen through a veil. -/
def World.veiled (world : World Action) : World Action :=
  { world with monitors := world.monitors.map (Option.map (Monitor.veiled veil)) }

/-- What is seen of a step through a veil. -/
def WorldStep.seen {Value : Type} (step : WorldStep Action Value) : WorldStep Action Value :=
  ⟨step.world.veiled veil, step.happenings.filter (Happening.visible veil), step.ending⟩

namespace World

variable {world : World Action} {position : Nat} {monitor : Monitor Action}

theorem map_veiled_veiled (monitors : List (Option (Monitor Action))) :
    (monitors.map (Option.map (Monitor.veiled veil))).map (Option.map (Monitor.veiled veil)) =
      monitors.map (Option.map (Monitor.veiled veil)) := by
  have twice : Monitor.veiled veil ∘ Monitor.veiled veil = Monitor.veiled veil := by
    funext monitor
    simp [Monitor.veiled, veil.hide_hide]
  rw [List.map_map, Option.map_comp_map, twice]

theorem veiled_veiled (world : World Action) :
    (world.veiled veil).veiled veil = world.veiled veil := by
  unfold veiled
  rw [map_veiled_veiled]

/-- Worlds that share what sessions share and whose sessions look the same, one by one,
look the same. -/
theorem veiled_eq {first second : World Action} (tokens_eq : first.tokens = second.tokens)
    (hal_eq : first.hal = second.hal) (preferences_eq : first.preferences = second.preferences)
    (strangers_eq : first.strangers = second.strangers)
    (length_eq : first.monitors.length = second.monitors.length)
    (alike : ∀ position, (first.monitor? position).map (Monitor.veiled veil) =
      (second.monitor? position).map (Monitor.veiled veil)) :
    first.veiled veil = second.veiled veil := by
  have monitors_eq : first.monitors.map (Option.map (Monitor.veiled veil)) =
      second.monitors.map (Option.map (Monitor.veiled veil)) := by
    refine List.ext_getElem (by simp [length_eq]) ?_
    intro position within withinToo
    have same := alike position
    rw [List.length_map] at within withinToo
    simpa [monitor?, within, withinToo] using same
  unfold veiled
  rw [tokens_eq, hal_eq, preferences_eq, strangers_eq, monitors_eq]

theorem monitor?_veiled (world : World Action) (position : Nat) :
    (world.veiled veil).monitor? position =
      (world.monitor? position).map (Monitor.veiled veil) := by
  unfold monitor? veiled
  rw [List.getElem?_map]
  rcases world.monitors[position]? with _ | _ | monitor <;> rfl

theorem visible_effects (position : Nat) (setting : Setting) (effects : List Effect) :
    (effects.map (.effect position setting)).filter (Happening.visible veil) =
      (effects.filter veil.visible).map (.effect position setting) :=
  List.filter_map

theorem answers_veiled (world : World Action) (monitor : Monitor Action) :
    (world.veiled veil).answers (monitor.veiled veil) = world.answers monitor := by
  have same : (world.veiled veil).unlinkRefusal (veil.hide monitor.session) =
      world.unlinkRefusal monitor.session := by
    unfold unlinkRefusal
    rw [veil.hide_token, veil.hide_link]
    rfl
  unfold answers Monitor.veiled
  rw [same]
  rfl

theorem settle_veiled (world : World Action) (position : Nat)
    (monitor : Option (Monitor Action)) (effects : List Effect) :
    (world.settle position monitor effects).veiled veil =
      (world.veiled veil).settle position (monitor.map (Monitor.veiled veil))
        (effects.filter veil.visible) := by
  unfold settle veiled
  rw [veil.applyEffect_visible, veil.after_visible, List.map_set]

theorem perform_seen (world : World Action) (position : Nat) (monitor : Monitor Action)
    (operation : Operation) :
    ((world.veiled veil).perform position (monitor.veiled veil) operation).seen veil =
      (world.perform position monitor operation).seen veil := by
  have same := veil.perform_hide monitor.setting (world.answers monitor) monitor.session
    operation
  unfold Step.seen at same
  obtain ⟨hidden, visible, ending⟩ := Step.mk.inj same
  unfold perform WorldStep.seen
  rw [answers_veiled]
  simp only [settle_veiled, veiled_veiled, visible_effects, Option.map_some]
  unfold Monitor.veiled at *
  simp only [hidden, visible, ending, ← veil.attempts_visible (Session.perform ..).effects]

theorem drop_seen (world : World Action) (position : Nat) (monitor : Monitor Action) :
    ((world.veiled veil).drop position (monitor.veiled veil)).seen veil =
      (world.drop position monitor).seen veil := by
  have same := veil.drop_hide monitor.setting (world.answers monitor) monitor.session
  unfold Emission.seen at same
  obtain ⟨visible, ending⟩ := Emission.mk.inj same
  unfold drop WorldStep.seen
  rw [answers_veiled]
  simp only [settle_veiled, veiled_veiled, visible_effects]
  unfold Monitor.veiled at *
  simp only [visible, ending]

variable {veil} in
/-- A function of worlds that does not see what the veil hides does the same in worlds
that look the same. -/
theorem seen_congr {Value : Type} (act : World Action → WorldStep Action Value)
    (blind : ∀ world, (act (world.veiled veil)).seen veil = (act world).seen veil)
    {first second : World Action} (alike : first.veiled veil = second.veiled veil) :
    (act first).seen veil = (act second).seen veil :=
  (blind first).symm.trans ((congrArg (fun world => (act world).seen veil) alike).trans
    (blind second))

theorem tellAll_seen (links : List (DeathLink Nat)) (world : World Action) :
    (tellAll links (world.veiled veil)).seen veil = (tellAll links world).seen veil := by
  induction links generalizing world with
  | nil => simp [tellAll, WorldStep.seen, veiled_veiled]
  | cons link links ih =>
      unfold tellAll
      rw [monitor?_veiled]
      cases world.monitor? link.recipient with
      | none => exact congrArg (WorldStep.map _) (ih world)
      | some monitor =>
          have first := world.perform_seen veil link.recipient monitor (.clientDied true)
          simp only [Option.map_some]
          -- nothing is known of the two steps but that they look the same
          generalize (world.veiled veil).perform link.recipient (monitor.veiled veil)
            (.clientDied true) = image at first
          generalize world.perform link.recipient monitor (.clientDied true) = step at first
          obtain ⟨alike, happenings, ending⟩ := WorldStep.mk.inj first
          rw [ending]
          cases step.ending with
          | crashed crash => simp only [WorldStep.seen, alike, happenings]
          | returned reply =>
              have rest := seen_congr (tellAll links) ih alike
              obtain ⟨sameWorld, sameRest, sameEnding⟩ := WorldStep.mk.inj rest
              simp only [WorldStep.seen, List.filter_append, happenings, sameWorld, sameRest,
                sameEnding]

theorem notifyDeath_seen (world : World Action) (token : Nat) :
    ((world.veiled veil).notifyDeath token).seen veil = (world.notifyDeath token).seen veil := by
  unfold notifyDeath
  rw [show (world.veiled veil).tokens = world.tokens from rfl]
  cases world.tokens[token]?.bind ClientToken.die with
  | none => simp [WorldStep.seen, veiled_veiled]
  | some death => exact tellAll_seen veil death.1 { world with tokens := _ }

theorem watch_seen (processes : ProcessTable) (world : World Action) (position : Nat)
    (token : ClientToken Nat) (process : UInt32) :
    ((world.veiled veil).watch processes position token process).seen veil =
      (world.watch processes position token process).seen veil := by
  have death := world.notifyDeath_seen veil position
  obtain ⟨sameWorld, sameHappenings, sameEnding⟩ := WorldStep.mk.inj death
  unfold watch
  cases WatchFinding.of token.alive (processes.alive process) with
  | processGone =>
      simp only [WorldStep.seen, List.filter_append, sameWorld, sameHappenings, sameEnding]
  | tokenDead | running => simp [WorldStep.seen, veiled_veiled]

theorem make_seen (world : World Action) (setting : Setting) (action : Action)
    (token : Option Nat) (listener : Option Listener) :
    ((world.veiled veil).make setting action token listener).seen veil =
      (world.make setting action token listener).seen veil := by
  simp only [make, WorldStep.seen, veiled, List.length_map, List.map_append,
    map_veiled_veiled]

theorem setListener_veiled (world : World Action) (position : Nat)
    (monitor : Monitor Action) (listener : Listener) :
    ((world.veiled veil).setListener position (monitor.veiled veil) listener).veiled veil =
      (world.setListener position monitor listener).veiled veil := by
  have alike : Monitor.veiled veil { monitor.veiled veil with listener := some listener } =
      Monitor.veiled veil { monitor with listener := some listener } := by
    simp [Monitor.veiled, veil.hide_hide]
  simp only [setListener, veiled, List.map_set, map_veiled_veiled, Option.map_some, alike]

variable {veil} in
theorem still_seen {first second : World Action}
    (alike : first.veiled veil = second.veiled veil) (answer : WorldAnswer) :
    (first.still answer).seen veil = (second.still answer).seen veil := by
  unfold WorldStep.seen still
  rw [alike]

/-- A command does not see what the veil hides. -/
theorem obey_seen (command : WorldCommand Action) (world : World Action) :
    ((world.veiled veil).obey command).seen veil = (world.obey command).seen veil := by
  have tokens_eq : (world.veiled veil).tokens = world.tokens := rfl
  have idle := still_seen (veiled_veiled veil world) .absent
  cases command with
  | make setting action token listener =>
      exact congrArg (WorldStep.map _) (world.make_seen veil setting action token listener)
  | perform position operation =>
      simp only [obey, monitor?_veiled]
      cases world.monitor? position with
      | none => exact idle
      | some monitor =>
          exact congrArg (WorldStep.map _) (world.perform_seen veil position monitor operation)
  | drop position =>
      simp only [obey, monitor?_veiled]
      cases world.monitor? position with
      | none => exact idle
      | some monitor =>
          exact congrArg (WorldStep.map _) (world.drop_seen veil position monitor)
  | notifyDeath token =>
      simp only [obey, tokens_eq]
      cases world.tokens[token]? with
      | none => exact idle
      | some state => exact congrArg (WorldStep.map _) (world.notifyDeath_seen veil token)
  | watch processes token process =>
      simp only [obey, tokens_eq]
      cases world.tokens[token]? with
      | none => exact idle
      | some state =>
          exact congrArg (WorldStep.map _)
            (watch_seen veil processes world token state process)
  | unlink token link =>
      simp only [obey, tokens_eq]
      cases world.tokens[token]? with
      | none => exact idle
      | some state =>
          simp only [unlink]
          cases state.unlink link with
          | error error => exact still_seen (veiled_veiled veil world) _
          | ok after => exact still_seen (veiled_veiled veil { world with tokens := _ }) _
  | setHal hal => exact still_seen (veiled_veiled veil (world.setHal hal)) .noted
  | setPreference key user value =>
      exact still_seen (veiled_veiled veil (world.setPreference key user value)) .noted
  | setListener position listener =>
      simp only [obey, monitor?_veiled]
      cases world.monitor? position with
      | none => exact idle
      | some monitor =>
          exact still_seen (world.setListener_veiled veil position monitor listener) .noted

variable {veil} in
/-- Worlds that look the same through a veil cannot be told apart: every continuation
looks the same in both, command by command. -/
theorem deeds_seen {first second : World Action}
    (alike : first.veiled veil = second.veiled veil) (commands : List (WorldCommand Action)) :
    (first.deeds commands).map (·.step.seen veil) =
      (second.deeds commands).map (·.step.seen veil) := by
  induction commands generalizing first second with
  | nil => rfl
  | cons command commands ih =>
      have same : (first.obey command).seen veil = (second.obey command).seen veil :=
        seen_congr (fun world => world.obey command) (obey_seen veil command) alike
      simp only [deeds, List.map_cons, same, ih (congrArg WorldStep.world same)]

end World

end BiometricSession
