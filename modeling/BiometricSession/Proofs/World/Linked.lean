import BiometricSession.Proofs.World.Links

/-!
# Worlds in which the links are right

A world is linked if its sessions are sound, its tokens are tidy, and its live
tokens list every session that holds a link to them.  This file follows the links
through every command of a run: worlds stay linked as long as nobody but the
sessions removes links, and tidy in any case.
-/

namespace BiometricSession

/-- Whether a command removes a link on behalf of somebody else than its
session. -/
def WorldCommand.isUnlink {Action : Type} : WorldCommand Action → Bool
  | .unlink .. => true
  | _ => false

theorem Session.holds_make {Action : Type} {action : Action} {listening : Bool}
    {linked : Option (Nat × Except TokenError Nat)} {token link : Nat} :
    (make action listening linked).1.Holds token link ↔ linked = some (token, .ok link) := by
  rcases linked with _ | ⟨number, error | own⟩
  · exact ⟨fun holds => by simpa [make] using holds.token_eq, by simp⟩
  · exact ⟨fun holds => by simpa [make] using holds.link_eq, by simp⟩
  · constructor
    · rintro ⟨sameToken, sameLink⟩
      simp only [make, Option.some.injEq] at sameToken sameLink
      rw [sameToken, sameLink]
    · intro same
      simp only [Option.some.injEq, Prod.mk.injEq, Except.ok.injEq] at same
      obtain ⟨rfl, rfl⟩ := same
      exact ⟨rfl, rfl⟩

theorem Course.holds_of_holds {Action : Type} [HardwareAction Action] {setting : Setting}
    {first last : Session Action} {life : List SessionDeed}
    (course : Course setting first life last) (sound : first.Sound) {token link : Nat}
    (holds : last.Holds token link) : first.Holds token link := by
  induction course with
  | start => exact holds
  | perform course answers operation ih =>
      rcases Session.keeps_or_bare setting answers (course.sound sound) operation with
        keeps | bare
      · exact ih (keeps.holds_iff.mp holds)
      · exact absurd holds bare.not_holds

namespace World

variable {Action : Type} {world : World Action} {position token : Nat}

/-! ## Making a session -/

namespace Making

variable {after : World Action} {given : Option Nat}
  {linked : Option (Nat × Except TokenError Nat)} {tokens : List (ClientToken Nat)}

theorem aliveAt (making : Making world given linked tokens) (same : after.tokens = tokens) :
    after.aliveAt token = world.aliveAt token := by
  cases making with
  | unlinked | refused => exact aliveAt_of_tokens_eq same
  | @linked number state isGiven known alive =>
      unfold World.aliveAt
      rw [same, getElem?_set_known known]
      split
      · rename_i here
        rw [here, known]
        rfl
      · rfl

/-- A new session is linked exactly if it was given a token that is alive. -/
theorem linked_iff (making : Making world given linked tokens) :
    (∃ link, linked = some (token, .ok link)) ↔
      given = some token ∧ world.aliveAt token = some true := by
  cases making with
  | unlinked unknown =>
      constructor
      · rintro ⟨link, none⟩
        cases none
      · rintro ⟨isGiven, alive⟩
        simp [World.aliveAt, unknown token isGiven] at alive
  | refused isGiven known gone =>
      constructor
      · rintro ⟨link, failed⟩
        simp at failed
      · rintro ⟨isToken, alive⟩
        obtain rfl := Option.some.inj (isGiven.symm.trans isToken)
        simp [World.aliveAt, known, gone] at alive
  | @linked number state isGiven known alive =>
      constructor
      · rintro ⟨link, same⟩
        simp only [Option.some.injEq, Prod.mk.injEq] at same
        obtain ⟨rfl, _⟩ := same
        exact ⟨isGiven, by simp [World.aliveAt, known, alive]⟩
      · rintro ⟨isToken, _⟩
        obtain rfl := Option.some.inj (isGiven.symm.trans isToken)
        exact ⟨_, rfl⟩

/-- A new session is listed by the token it was given, if that is alive; nobody
else's listing changes. -/
theorem lists (making : Making world given linked tokens) (same : after.tokens = tokens) :
    after.Lists token position ↔
      world.Lists token position ∨
        position = world.monitors.length ∧ given = some token ∧
          world.aliveAt token = some true := by
  cases making with
  | unlinked unknown =>
      rw [lists_of_tokens_eq same]
      refine (or_iff_left ?_).symm
      rintro ⟨_, isGiven, alive⟩
      simp [World.aliveAt, unknown token isGiven] at alive
  | refused isGiven known gone =>
      rw [lists_of_tokens_eq same]
      refine (or_iff_left ?_).symm
      rintro ⟨_, isToken, alive⟩
      obtain rfl := Option.some.inj (isGiven.symm.trans isToken)
      simp [World.aliveAt, known, gone] at alive
  | @linked number state isGiven known alive =>
      have recipients_eq : (state.joined world.monitors.length).recipients =
          state.recipients ++ [world.monitors.length] := by
        simp [ClientToken.recipients, ClientToken.joined]
      unfold Lists World.aliveAt
      rw [same, getElem?_set_known known]
      by_cases here : token = number
      · subst here
        simp [known, recipients_eq, isGiven, alive]
      · simp [here, isGiven, Ne.symm here]

theorem tidy (making : Making world given linked tokens) (tidy : world.Tidy)
    (same : after.tokens = tokens)
    (length_eq : after.monitors.length = world.monitors.length + 1) : after.Tidy := by
  have le : world.monitors.length ≤ after.monitors.length := by omega
  cases making with
  | unlinked | refused => exact tidy.of_tokens_eq same le
  | @linked number state isGiven known alive =>
      intro token other isOther
      rw [same, getElem?_set_known known] at isOther
      split at isOther
      · obtain rfl := Option.some.inj isOther
        rw [length_eq]
        exact (tidy number state known).joined alive
      · exact (tidy token other isOther).mono le

theorem holding (making : Making world given linked tokens) (holding : world.Holding)
    {session : Session Action} {setting : Setting} {listener : Option Listener}
    (own : ∀ token link, session.Holds token link → linked = some (token, .ok link))
    (sameTokens : after.tokens = tokens)
    (sameMonitors : after.monitors =
      world.monitors ++ [some ⟨setting, session, listener⟩]) : after.Holding := by
  intro position monitor token link found holds
  rw [monitor?_append world _ sameMonitors] at found
  by_cases isNew : world.monitors.length = position
  · rw [if_pos isNew] at found
    obtain rfl := Option.some.inj found
    have isLinked := own token link holds
    cases making with
    | unlinked | refused => simp at isLinked
    | @linked number state isGiven known alive =>
        simp only [Option.some.injEq, Prod.mk.injEq, Except.ok.injEq] at isLinked
        obtain ⟨rfl, rfl⟩ := isLinked
        refine ⟨state.joined world.monitors.length, ?_, ?_⟩
        · rw [sameTokens, getElem?_set_known known, if_pos rfl]
        · simp [ClientToken.joined, isNew]
  · rw [if_neg isNew] at found
    obtain ⟨state, known, listed⟩ := holding position monitor token link found holds
    cases making with
    | unlinked | refused => exact ⟨state, by rw [sameTokens, known], listed⟩
    | @linked number other isGiven isOther alive =>
        rw [sameTokens, getElem?_set_known isOther]
        by_cases here : token = number
        · subst here
          obtain rfl := Option.some.inj (known.symm.trans isOther)
          refine ⟨state.joined world.monitors.length, if_pos rfl, ?_⟩
          intro _
          exact List.mem_append_left _ (listed alive)
        · exact ⟨state, by rw [if_neg here, known], listed⟩

end Making

/-! ## The death of a client -/

/-- The world in which a token is marked as dead and nobody was told yet. -/
def bereft (world : World Action) (token : Nat) (state : ClientToken Nat) : World Action :=
  { world with tokens := world.tokens.set token state.dead }

theorem lists_bereft {state : ClientToken Nat} (known : world.tokens[token]? = some state)
    (other position : Nat) :
    (world.bereft token state).Lists other position ↔
      world.Lists other position ∧ other ≠ token := by
  unfold Lists bereft
  rw [getElem?_set_known known]
  by_cases here : other = token
  · simp [here, ClientToken.recipients, ClientToken.dead]
  · simp [here]

theorem aliveAt_bereft {state : ClientToken Nat} (known : world.tokens[token]? = some state)
    (other : Nat) :
    (world.bereft token state).aliveAt other =
      if other = token then some false else world.aliveAt other := by
  unfold aliveAt bereft
  rw [getElem?_set_known known]
  split <;> rfl

theorem Tidy.bereft (tidy : world.Tidy) (token : Nat) (state : ClientToken Nat) :
    (world.bereft token state).Tidy := by
  intro other after known
  simp only [World.bereft, List.getElem?_set] at known
  split at known
  · split at known
    · obtain rfl := Option.some.inj known
      exact .dead state _
    · cases known
  · exact tidy other after known

theorem Holding.bereft (holding : world.Holding) {state : ClientToken Nat}
    (known : world.tokens[token]? = some state) : (world.bereft token state).Holding := by
  intro position monitor other link found holds
  obtain ⟨before, isBefore, listed⟩ := holding position monitor other link found holds
  unfold World.bereft
  rw [getElem?_set_known known]
  split
  · exact ⟨state.dead, rfl, by simp [ClientToken.dead]⟩
  · exact ⟨before, isBefore, listed⟩

section Action

variable [HardwareAction Action]

/-- Either a live token dies and its sessions are told, or nothing happens. -/
theorem notifyDeath_cases (world : World Action) (token : Nat) :
    (∃ state, world.tokens[token]? = some state ∧ state.alive = true ∧
      world.notifyDeath token = tellAll state.links (world.bereft token state)) ∨
      world.aliveAt token ≠ some true ∧ world.notifyDeath token = ⟨world, [], .returned 0⟩ := by
  unfold notifyDeath aliveAt
  cases known : world.tokens[token]? with
  | none => exact .inr ⟨by simp, rfl⟩
  | some state =>
      cases alive : state.alive with
      | false => exact .inr ⟨by simp [alive], by simp [ClientToken.die, alive]⟩
      | true =>
          refine .inl ⟨state, rfl, alive, ?_⟩
          simp [ClientToken.die, alive, bereft, ClientToken.dead]

theorem tokens_tellAll [ScopedAction Action] (links : List (DeathLink Nat))
    (world : World Action) : (tellAll links world).world.tokens = world.tokens := by
  induction links generalizing world with
  | nil => rfl
  | cons link links ih =>
      unfold tellAll
      cases found : world.monitor? link.recipient with
      | none => exact ih world
      | some monitor =>
          have same := tokens_perform world link.recipient monitor (.clientDied true)
          rw [if_neg (by simp)] at same
          simp only
          split
          · exact same
          · exact (ih _).trans same

/-- The death of a client leaves those alone whom its token does not list. -/
theorem notifyDeath_other (unlisted : ¬ world.Lists token position) :
    (world.notifyDeath token).world.monitor? position = world.monitor? position ∧
      effectsOf position (world.notifyDeath token).happenings = [] := by
  rcases notifyDeath_cases world token with ⟨state, known, _, told⟩ | ⟨_, nothing⟩
  · rw [told]
    exact tellAll_other (fun listed => unlisted ⟨state, known, listed⟩)
      (world.bereft token state)
  · rw [nothing]
    exact ⟨rfl, rfl⟩

/-- A dead client's token lists nobody, and the other tokens list whom they listed
before. -/
theorem lists_notifyDeath [ScopedAction Action] (tidy : world.Tidy) (other : Nat) :
    (world.notifyDeath token).world.Lists other position ↔
      world.Lists other position ∧ other ≠ token := by
  rcases notifyDeath_cases world token with ⟨state, known, _, told⟩ | ⟨dead, nothing⟩
  · rw [told, lists_of_tokens_eq (tokens_tellAll state.links _), lists_bereft known]
  · rw [nothing]
    refine (and_iff_left_of_imp ?_).symm
    rintro ⟨state, known, listed⟩ rfl
    cases alive : state.alive with
    | true => exact dead (by simp [aliveAt, known, alive])
    | false =>
        simp [ClientToken.recipients, (tidy other state known).dead_bare alive] at listed

theorem aliveAt_notifyDeath [ScopedAction Action] (world : World Action)
    (token other : Nat) :
    (world.notifyDeath token).world.aliveAt other =
      if other = token then (world.aliveAt token).map fun _ => false
      else world.aliveAt other := by
  rcases notifyDeath_cases world token with ⟨state, known, _, told⟩ | ⟨dead, nothing⟩
  · rw [told, aliveAt_of_tokens_eq (tokens_tellAll state.links _), aliveAt_bereft known]
    simp [aliveAt, known]
  · rw [nothing]
    split
    · rename_i here
      rw [here]
      rcases found : world.aliveAt token with _ | _ | _
      · rfl
      · rfl
      · exact absurd found dead
    · rfl

theorem obey_notifyDeath (world : World Action) (token : Nat) :
    (world.obey (.notifyDeath token)).world = (world.notifyDeath token).world ∧
      (world.obey (.notifyDeath token)).happenings = (world.notifyDeath token).happenings := by
  cases known : world.tokens[token]? with
  | none => simp [obey, notifyDeath, known]
  | some state => simp [obey, known]

/-- A watcher declares a token dead if it finds the token alive and its process gone;
else it does nothing to the sessions. -/
theorem obey_watch (world : World Action) (processes : ProcessTable) (token : Nat)
    (process : UInt32) :
    let watched := world.obey (.watch processes token process)
    let death := world.notifyDeath token
    if world.aliveAt token = some true ∧ processes.alive process = false then
      watched.world = death.world ∧
        ∀ position, effectsOf position watched.happenings = effectsOf position death.happenings
    else
      watched.world = world ∧ ∀ position, effectsOf position watched.happenings = [] := by
  intro watched death
  cases known : world.tokens[token]? with
  | none => simp [watched, obey, known, aliveAt]
  | some state =>
      have alive : world.aliveAt token = some state.alive := by simp [aliveAt, known]
      simp only [watched, obey, known, watch, WorldStep.map_world, WorldStep.map_happenings,
        alive, Option.some.injEq]
      cases state.alive <;> cases processes.alive process <;>
        simp [WatchFinding.of, WatchFinding.report, death, effectsOf]

theorem Tidy.notifyDeath [ScopedAction Action] (tidy : world.Tidy) (token : Nat) :
    (world.notifyDeath token).world.Tidy := by
  rcases notifyDeath_cases world token with ⟨state, _, _, told⟩ | ⟨_, nothing⟩
  · have length_eq := (follows_notifyDeath world token 0).length_eq
    rw [told] at length_eq ⊢
    exact (tidy.bereft token state).of_tokens_eq (tokens_tellAll state.links _)
      (Nat.le_of_eq length_eq.symm)
  · rw [nothing]
    exact tidy

/-- Whatever a world obeys, the links of its tokens stay in order. -/
theorem Tidy.obey [ScopedAction Action] (tidy : world.Tidy)
    (command : WorldCommand Action) : (world.obey command).world.Tidy := by
  cases command with
  | make setting action given listener =>
      obtain ⟨linked, tokens, making, made⟩ := making world setting action given listener
      simp only [World.obey, WorldStep.map_world, made]
      exact making.tidy tidy rfl (by simp)
  | perform number operation =>
      cases found : world.monitor? number with
      | none => simpa [World.obey, found] using tidy
      | some monitor =>
          have same := tokens_perform world number monitor operation
          have length_eq := (follows_perform found operation number).length_eq
          simp only [World.obey, found, WorldStep.map_world]
          by_cases destroys : operation = .destroy
          · rw [if_pos destroys] at same
            exact tidy.of_released same length_eq
          · rw [if_neg destroys] at same
            exact tidy.of_tokens_eq same (Nat.le_of_eq length_eq.symm)
  | drop number =>
      cases found : world.monitor? number with
      | none => simpa [World.obey, found] using tidy
      | some monitor =>
          simp only [World.obey, found, WorldStep.map_world]
          exact tidy.of_released (tokens_drop world number monitor)
            (by simp [World.drop, settle])
  | notifyDeath token =>
      rw [(obey_notifyDeath world token).1]
      exact tidy.notifyDeath token
  | watch processes token process =>
      have watched := obey_watch world processes token process
      split at watched
      · rw [watched.1]
        exact tidy.notifyDeath token
      · rw [watched.1]
        exact tidy
  | unlink token link =>
      cases known : world.tokens[token]? with
      | none => simpa [World.obey, known] using tidy
      | some state =>
          simp only [World.obey, known, World.unlink]
          rcases state.unlink_cases link with done | ⟨failed, _⟩
          · rw [done]
            intro other after isAfter
            simp only [still_world, getElem?_set_known known] at isAfter
            split at isAfter
            · obtain rfl := Option.some.inj isAfter
              exact (tidy token state known).without link
            · exact tidy other after isAfter
          · rw [failed]
            exact tidy
  | setHal hal => exact tidy
  | setPreference key user value => exact tidy
  | setListener number listener =>
      cases found : world.monitor? number with
      | none => simpa [World.obey, found] using tidy
      | some monitor =>
          simp only [World.obey, found, still_world]
          exact tidy.of_tokens_eq rfl (by simp [World.setListener])

/-- Whatever a world obeys, its sessions stay sound. -/
theorem Sound.obey (sound : world.Sound) (command : WorldCommand Action) :
    (world.obey command).world.Sound := by
  intro position monitor found
  rcases obey_cases world command position with
    ⟨setting, action, given, listener, rfl⟩ | rfl | follows
  · obtain ⟨linked, monitors, _⟩ := make_eq world setting action given listener
    simp only [World.obey, WorldStep.map_world] at found
    rw [monitor?_append world _ monitors] at found
    split at found
    · obtain rfl := Option.some.inj found
      exact Session.sound_make action listener.isSome linked
    · exact sound position monitor found
  · cases present : world.monitor? position with
    | none => simp [World.obey, present] at found
    | some leaving =>
        simp only [World.obey, present, WorldStep.map_world, World.drop] at found
        rw [monitor?_settle (lt_length_of_monitor? present), if_pos rfl] at found
        cases found
  · cases present : world.monitor? position with
    | none => simp [(follows.absent present).1] at found
    | some before =>
        obtain ⟨later, _, isLater, _, course, _⟩ := follows.present before present
        obtain rfl := Option.some.inj (isLater.symm.trans found)
        exact course.sound (sound position before present)

/-! ## Sessions and their listings -/

/-- Whatever a session goes through, it holds no link that it did not hold before. -/
theorem HoldsAt.of_follows {kind : Operation → Prop} {happenings : List Happening}
    {after : World Action} (sound : world.Sound)
    (follows : Follows kind position world happenings after)
    (holds : after.HoldsAt position token) : world.HoldsAt position token := by
  cases present : world.monitor? position with
  | none => exact absurd holds (not_holdsAt (follows.absent present).1)
  | some before =>
      obtain ⟨later, _, isLater, _, course, _⟩ := follows.present before present
      obtain ⟨link, holds⟩ := (holdsAt_iff isLater).mp holds
      exact ⟨before, link, present, course.holds_of_holds (sound position before present) holds⟩

/-- Sessions that go through operations stay listed as long as the tokens do not
change. -/
theorem Holding.of_follows {after : World Action} (holding : world.Holding)
    (sound : world.Sound)
    (follows : ∀ position, ∃ kind happenings, Follows kind position world happenings after)
    (same : after.tokens = world.tokens) : after.Holding := by
  intro position monitor token link found holds
  obtain ⟨_, _, follows⟩ := follows position
  cases present : world.monitor? position with
  | none => simp [(follows.absent present).1] at found
  | some before =>
      obtain ⟨later, _, isLater, _, course, _⟩ := follows.present before present
      obtain rfl := Option.some.inj (isLater.symm.trans found)
      rw [same]
      exact holding position before token link present
        (course.holds_of_holds (sound position before present) holds)

omit [HardwareAction Action] in
/-- A session that is released and holds nothing any more leaves the others
listed. -/
theorem Holding.of_bare {after : World Action} (holding : world.Holding) (tidy : world.Tidy)
    {number : Nat} {monitor : Monitor Action} (found : world.monitor? number = some monitor)
    (same : after.tokens = world.released monitor.session)
    (others : ∀ position, number ≠ position → after.monitor? position = world.monitor? position)
    (bare : ∀ later, after.monitor? number = some later → later.session.Bare) :
    after.Holding := by
  intro position other token link isOther holds
  by_cases here : number = position
  · subst here
    exact absurd holds (bare other isOther).not_holds
  · rw [others position here] at isOther
    obtain ⟨state, known, listed⟩ := holding position other token link isOther holds
    rw [same]
    exact holding.of_released tidy found here known listed

theorem aliveAt_perform [ScopedAction Action] (world : World Action) (number : Nat)
    (monitor : Monitor Action) (operation : Operation) :
    (world.perform number monitor operation).world.aliveAt token = world.aliveAt token := by
  have same := tokens_perform world number monitor operation
  by_cases destroys : operation = .destroy
  · rw [if_pos destroys] at same
    exact aliveAt_of_released same
  · rw [if_neg destroys] at same
    exact aliveAt_of_tokens_eq same

theorem aliveAt_drop (world : World Action) (number : Nat) (monitor : Monitor Action) :
    (world.drop number monitor).world.aliveAt token = world.aliveAt token :=
  aliveAt_of_released (tokens_drop world number monitor)

end Action

/-- The links of a world are right. -/
structure Linked (world : World Action) : Prop where
  sound : world.Sound
  tidy : world.Tidy
  holding : world.Holding

namespace Linked

variable [HardwareAction Action] [ScopedAction Action]

/-- Of all operations, only the destruction takes a session off a token's list. -/
theorem lists_perform (linked : world.Linked) {number : Nat} {monitor : Monitor Action}
    (found : world.monitor? number = some monitor) (operation : Operation) :
    (world.perform number monitor operation).world.Lists token position ↔
      world.Lists token position ∧
        ¬(operation = .destroy ∧ position = number ∧ world.HoldsAt number token) := by
  have same := tokens_perform world number monitor operation
  by_cases destroys : operation = .destroy
  · rw [if_pos destroys] at same
    rw [lists_of_released linked.tidy linked.holding found same]
    simp [destroys]
  · rw [if_neg destroys] at same
    rw [lists_of_tokens_eq same]
    simp [destroys]

omit [ScopedAction Action] in
theorem lists_drop (linked : world.Linked) {number : Nat} {monitor : Monitor Action}
    (found : world.monitor? number = some monitor) :
    (world.drop number monitor).world.Lists token position ↔
      world.Lists token position ∧ ¬(position = number ∧ world.HoldsAt number token) :=
  lists_of_released linked.tidy linked.holding found (tokens_drop world number monitor)

theorem perform (linked : world.Linked) {number : Nat} {monitor : Monitor Action}
    (found : world.monitor? number = some monitor) (operation : Operation) :
    (world.perform number monitor operation).world.Holding := by
  have same := tokens_perform world number monitor operation
  by_cases destroys : operation = .destroy
  · subst destroys
    rw [if_pos rfl] at same
    refine linked.holding.of_bare linked.tidy found same ?_ ?_
    · intro position other
      simp only [World.perform]
      rw [monitor?_settle (lt_length_of_monitor? found), if_neg other]
    · intro later isLater
      obtain ⟨listener, present⟩ := monitor?_perform found .destroy
      obtain rfl := Option.some.inj (present.symm.trans isLater)
      exact Session.bare_perform (linked.sound number monitor found) rfl rfl
  · rw [if_neg destroys] at same
    exact linked.holding.of_follows linked.sound
      (fun position => ⟨_, _, follows_perform found operation position⟩) same

omit [ScopedAction Action] in
theorem drop (linked : world.Linked) {number : Nat} {monitor : Monitor Action}
    (found : world.monitor? number = some monitor) :
    (world.drop number monitor).world.Holding := by
  have within := lt_length_of_monitor? found
  refine linked.holding.of_bare linked.tidy found (tokens_drop world number monitor) ?_ ?_
  · intro position other
    simp only [World.drop]
    rw [monitor?_settle within, if_neg other]
  · intro later isLater
    simp only [World.drop] at isLater
    rw [monitor?_settle within, if_pos rfl] at isLater
    cases isLater

theorem notifyDeath (linked : world.Linked) (token : Nat) :
    (world.notifyDeath token).world.Holding := by
  rcases notifyDeath_cases world token with ⟨state, known, _, told⟩ | ⟨_, nothing⟩
  · rw [told]
    exact (linked.holding.bereft known).of_follows linked.sound
      (fun position => ⟨_, _, follows_tellAll state.links _ position⟩)
      (tokens_tellAll state.links _)
  · rw [nothing]
    exact linked.holding

/-- Whatever a world obeys, its links stay right, as long as nobody but the
sessions removes links. -/
theorem obey (linked : world.Linked) {command : WorldCommand Action}
    (own : command.isUnlink = false) : (world.obey command).world.Linked := by
  refine ⟨linked.sound.obey command, linked.tidy.obey command, ?_⟩
  cases command with
  | make setting action given listener =>
      obtain ⟨answer, tokens, making, made⟩ := making world setting action given listener
      simp only [World.obey, WorldStep.map_world, made]
      exact making.holding linked.holding (fun _ _ => Session.holds_make.mp) rfl rfl
  | perform number operation =>
      cases found : world.monitor? number with
      | none => simpa [World.obey, found] using linked.holding
      | some monitor => simpa [World.obey, found] using linked.perform found operation
  | drop number =>
      cases found : world.monitor? number with
      | none => simpa [World.obey, found] using linked.holding
      | some monitor => simpa [World.obey, found] using linked.drop found
  | notifyDeath token =>
      rw [(obey_notifyDeath world token).1]
      exact linked.notifyDeath token
  | watch processes token process =>
      have watched := obey_watch world processes token process
      split at watched
      · rw [watched.1]
        exact linked.notifyDeath token
      · rw [watched.1]
        exact linked.holding
  | unlink => cases own
  | setHal hal => exact linked.holding
  | setPreference key user value => exact linked.holding
  | setListener number listener =>
      cases found : world.monitor? number with
      | none => simpa [World.obey, found] using linked.holding
      | some monitor =>
          simp only [World.obey, found, still_world]
          exact linked.holding.of_follows linked.sound
            (fun position =>
              ⟨_, _, follows_setListener found listener (fun _ => True) position⟩) rfl

end Linked

/-! ## Runs -/

theorem sound_fresh (processes : List (Option UInt32)) :
    (fresh processes : World Action).Sound := by
  intro position monitor found
  simp [monitor?, fresh] at found

theorem tidy_fresh (processes : List (Option UInt32)) : (fresh processes : World Action).Tidy := by
  intro token state known
  obtain ⟨process, _, rfl⟩ := List.mem_map.mp (List.mem_of_getElem? known)
  exact .fresh process

theorem holding_fresh (processes : List (Option UInt32)) :
    (fresh processes : World Action).Holding := by
  intro position monitor token link found
  simp [monitor?, fresh] at found

theorem linked_fresh (processes : List (Option UInt32)) :
    (fresh processes : World Action).Linked :=
  ⟨sound_fresh processes, tidy_fresh processes, holding_fresh processes⟩

section Action

variable [HardwareAction Action]

theorem Sound.after (sound : world.Sound) (commands : List (WorldCommand Action)) :
    (world.after commands).Sound := by
  induction commands generalizing world with
  | nil => exact sound
  | cons command commands ih => exact ih (sound.obey command)

variable [ScopedAction Action]

theorem Tidy.after (tidy : world.Tidy) (commands : List (WorldCommand Action)) :
    (world.after commands).Tidy := by
  induction commands generalizing world with
  | nil => exact tidy
  | cons command commands ih => exact ih (tidy.obey command)

theorem Linked.after (linked : world.Linked) {commands : List (WorldCommand Action)}
    (own : ∀ command ∈ commands, command.isUnlink = false) :
    (world.after commands).Linked := by
  induction commands generalizing world with
  | nil => exact linked
  | cons command commands ih =>
      exact ih (linked.obey (own command List.mem_cons_self))
        fun other member => own other (List.mem_cons_of_mem _ member)

end Action

end World

end BiometricSession
