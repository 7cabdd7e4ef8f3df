import BiometricSession.Proofs.World.Mourning

/-!
# Links that outlive their sessions

A session that is destroyed or given up asks its token to remove the link that it
still holds.  A session that handles its client's death lets go of its link without
asking.  If the token has died that is all one, since the death has taken the link;
but the session may hear of the death from somebody else than the token.  Then the
link is orphaned: the token goes on listing the session, and nothing but the
token's death takes it off the list.

A live token lists exactly the sessions that hold a link to it and those that have
orphaned one.
-/

namespace BiometricSession

/-- The session at a position holds a link to a token until it handles its client's
death during a deed, of which it does not hear from the token. -/
def WorldDeed.Orphans {Action : Type} (position token : Nat) (deed : WorldDeed Action) :
    Prop :=
  (∃ clearListener, deed.command = .perform position (.clientDied clearListener)) ∧
    (∃ reply, deed.step.ending = .returned (.reply reply)) ∧
      deed.before.HoldsAt position token

namespace World

variable {Action : Type} {world after : World Action} {position token : Nat}

/-- Among some deeds is one by which the session at a position has orphaned its
link to a token. -/
def Orphaned (position token : Nat) (deeds : List (WorldDeed Action)) : Prop :=
  ∃ deed ∈ deeds, deed.Orphans position token

theorem not_orphans_of_ne {deed : WorldDeed Action}
    (other : ∀ clearListener, deed.command ≠ .perform position (.clientDied clearListener)) :
    ¬ deed.Orphans position token := by
  rintro ⟨⟨clearListener, same⟩, _⟩
  exact other clearListener same

theorem orphaned_append {deeds : List (WorldDeed Action)} {deed : WorldDeed Action} :
    Orphaned position token (deeds ++ [deed]) ↔
      Orphaned position token deeds ∨ deed.Orphans position token := by
  simp only [Orphaned, List.mem_append, List.mem_singleton, or_and_right, exists_or,
    exists_eq_left]

/-- The listings of the session at a position are accounted for. -/
structure Accounted (position : Nat) (world : World Action)
    (deeds : List (WorldDeed Action)) : Prop where
  listed : ∀ token, world.Lists token position ↔ world.aliveAt token = some true ∧
    (world.HoldsAt position token ∨ Orphaned position token deeds)
  orphaned : ∀ token, Orphaned position token deeds →
    position < world.monitors.length ∧ ∀ other, ¬ world.HoldsAt position other

namespace Accounted

variable {past : List (WorldDeed Action)} {deed : WorldDeed Action}

/-- A deed that changes nothing of what matters for the session at a position. -/
theorem unchanged (accounted : Accounted position world past)
    (lists : ∀ token, after.Lists token position ↔ world.Lists token position)
    (alive : ∀ token, after.aliveAt token = world.aliveAt token)
    (holds : ∀ token, after.HoldsAt position token ↔ world.HoldsAt position token)
    (keeps : ∀ token, ¬ deed.Orphans position token)
    (length_le : world.monitors.length ≤ after.monitors.length) :
    Accounted position after (past ++ [deed]) where
  listed token := by
    rw [lists, alive, holds, orphaned_append, or_iff_left (keeps token)]
    exact accounted.listed token
  orphaned token orphan := by
    rw [orphaned_append, or_iff_left (keeps token)] at orphan
    obtain ⟨within, bare⟩ := accounted.orphaned token orphan
    exact ⟨Nat.lt_of_lt_of_le within length_le, fun other => (holds other).not.mpr (bare other)⟩

/-- The session at a position is taken off the list of the token to which it held
a link. -/
theorem released (accounted : Accounted position world past)
    (lists : ∀ token, after.Lists token position ↔
      world.Lists token position ∧ ¬ world.HoldsAt position token)
    (alive : ∀ token, after.aliveAt token = world.aliveAt token)
    (bare : ∀ token, ¬ after.HoldsAt position token)
    (keeps : ∀ token, ¬ deed.Orphans position token)
    (length_le : world.monitors.length ≤ after.monitors.length) :
    Accounted position after (past ++ [deed]) where
  listed token := by
    rw [lists, alive, accounted.listed, or_iff_right (bare token), orphaned_append,
      or_iff_left (keeps token)]
    constructor
    · rintro ⟨⟨lives, holds | orphan⟩, free⟩
      · exact absurd holds free
      · exact ⟨lives, orphan⟩
    · rintro ⟨lives, orphan⟩
      exact ⟨⟨lives, .inr orphan⟩, (accounted.orphaned token orphan).2 token⟩
  orphaned token orphan := by
    rw [orphaned_append, or_iff_left (keeps token)] at orphan
    exact ⟨Nat.lt_of_lt_of_le (accounted.orphaned token orphan).1 length_le, bare⟩

/-- The session at a position lets go of its link, and its token does not hear of
it. -/
theorem abandoned (accounted : Accounted position world past)
    (tokens : after.tokens = world.tokens) (bare : ∀ token, ¬ after.HoldsAt position token)
    (orphans : ∀ token, deed.Orphans position token ↔ world.HoldsAt position token)
    (within : position < after.monitors.length) :
    Accounted position after (past ++ [deed]) where
  listed token := by
    rw [lists_of_tokens_eq tokens, aliveAt_of_tokens_eq tokens, accounted.listed,
      or_iff_right (bare token), orphaned_append, orphans, or_comm]
  orphaned _ _ := ⟨within, bare⟩

section Action

variable [HardwareAction Action]

omit [HardwareAction Action] in
/-- A new session is listed exactly if it holds a link. -/
theorem make (accounted : Accounted position world past) (setting : Setting)
    (action : Action) (given : Option Nat) (listener : Option Listener)
    (keeps : ∀ token, ¬ deed.Orphans position token) :
    Accounted position (world.make setting action given listener).world
      (past ++ [deed]) := by
  obtain ⟨linked, tokens, making, made⟩ := making world setting action given listener
  have tokensEq : (world.make setting action given listener).world.tokens = tokens := by
    rw [made]
  have monitorsEq : (world.make setting action given listener).world.monitors =
      world.monitors ++
        [some ⟨setting, (Session.make action listener.isSome linked).1, listener⟩] := by
    rw [made]
  have found := monitor?_append world _ monitorsEq position
  by_cases here : world.monitors.length = position
  · rw [if_pos here] at found
    have absent : world.monitor? position = none := by
      simp [monitor?, List.getElem?_eq_none (Nat.le_of_eq here)]
    have unorphaned : ∀ token, ¬ Orphaned position token past := by
      intro token orphan
      exact absurd (accounted.orphaned token orphan).1 (Nat.not_lt.mpr (Nat.le_of_eq here))
    refine ⟨?_, ?_⟩
    · intro token
      have unlisted : ¬ world.Lists token position := by
        rw [accounted.listed]
        rintro ⟨_, held | orphan⟩
        · exact not_holdsAt absent held
        · exact unorphaned token orphan
      rw [making.lists tokensEq, making.aliveAt tokensEq, holdsAt_iff found, orphaned_append,
        or_iff_left (keeps token), or_iff_left (unorphaned token), or_iff_right unlisted]
      simp only [Session.holds_make, making.linked_iff, here, true_and]
      exact (and_iff_right_of_imp And.right).symm
    · intro token orphan
      rw [orphaned_append, or_iff_left (keeps token)] at orphan
      exact absurd orphan (unorphaned token)
  · rw [if_neg here] at found
    refine accounted.unchanged ?_ (fun token => making.aliveAt tokensEq)
      (fun token => holdsAt_of_same found) keeps (by simp [monitorsEq])
    intro token
    rw [making.lists tokensEq]
    simp [Ne.symm here]

variable [ScopedAction Action]

/-- A session that keeps what it holds is listed as before. -/
theorem kept (accounted : Accounted position world past) (linked : world.Linked)
    {monitor : Monitor Action} (found : world.monitor? position = some monitor)
    {operation : Operation} (standing : operation ≠ .destroy)
    (keeps : monitor.session.Keeps (monitor.session.perform monitor.setting
      (world.answers monitor) operation).session)
    (notOrphans : ∀ token, ¬ deed.Orphans position token) :
    Accounted position (world.perform position monitor operation).world
      (past ++ [deed]) := by
  obtain ⟨listener, present⟩ := monitor?_perform found operation
  refine accounted.unchanged ?_ ?_ ?_ notOrphans ?_
  · intro token
    rw [linked.lists_perform found operation]
    simp [standing]
  · exact fun token => aliveAt_perform world position monitor operation
  · intro token
    rw [holdsAt_iff present, holdsAt_iff found]
    simp only [keeps.holds_iff]
  · exact Nat.le_of_eq (follows_perform found operation position).length_eq.symm

/-- Only by handling its client's death can a session orphan its link. -/
theorem perform_own (accounted : Accounted position world past) (linked : world.Linked)
    {monitor : Monitor Action} (found : world.monitor? position = some monitor)
    (operation : Operation) :
    Accounted position (world.perform position monitor operation).world
      (past ++ [⟨world, .perform position operation,
        (world.perform position monitor operation).map .reply⟩]) := by
  obtain ⟨listener, present⟩ := monitor?_perform found operation
  cases ended : (monitor.session.perform monitor.setting (world.answers monitor)
      operation).ending with
  | crashed crash =>
      refine accounted.kept linked found ?_ (Session.keeps_of_crashed ended) ?_
      · rintro rfl
        cases ended
      · rintro token ⟨_, ⟨reply, returned⟩, _⟩
        simp [World.perform, ended, Ending.map] at returned
  | returned reply =>
      have bare : operation.releases = true → ∀ token,
          ¬ (world.perform position monitor operation).world.HoldsAt position token := by
        intro releases token held
        obtain ⟨link, holds⟩ := (holdsAt_iff present).mp held
        exact (Session.bare_perform (linked.sound position monitor found) releases
          ended).not_holds holds
      cases operation with
      | start | stop | callback =>
          exact accounted.kept linked found (by simp) (Session.keeps_perform _ _ _ rfl)
            fun token => not_orphans_of_ne (by simp)
      | clientDied clearListener =>
          refine accounted.abandoned ?_ (bare rfl) ?_ (lt_length_of_monitor? present)
          · rw [tokens_perform, if_neg (by simp)]
          · intro token
            exact ⟨fun orphans => orphans.2.2, fun held => ⟨⟨clearListener, rfl⟩,
              ⟨reply, by simp [World.perform, ended, Ending.map]⟩, held⟩⟩
      | destroy =>
          refine accounted.released ?_
            (fun token => aliveAt_perform world position monitor .destroy) (bare rfl)
              (fun token => not_orphans_of_ne (by simp))
                (Nat.le_of_eq (follows_perform found .destroy position).length_eq.symm)
          intro token
          rw [linked.lists_perform found .destroy]
          simp

theorem perform (accounted : Accounted position world past) (linked : world.Linked)
    {number : Nat} {monitor : Monitor Action} (found : world.monitor? number = some monitor)
    (operation : Operation) :
    Accounted position (world.perform number monitor operation).world
      (past ++ [⟨world, .perform number operation,
        (world.perform number monitor operation).map .reply⟩]) := by
  by_cases here : number = position
  · subst here
    exact accounted.perform_own linked found operation
  · refine accounted.unchanged ?_
      (fun token => aliveAt_perform world number monitor operation)
        (fun token => holdsAt_of_same (perform_other found operation here).1) ?_
          (Nat.le_of_eq (follows_perform found operation number).length_eq.symm)
    · intro token
      rw [linked.lists_perform found operation]
      simp [Ne.symm here]
    · intro token
      apply not_orphans_of_ne
      intro clearListener same
      exact here (WorldCommand.perform.inj same).1

omit [ScopedAction Action] in
theorem drop (accounted : Accounted position world past) (linked : world.Linked)
    {number : Nat} {monitor : Monitor Action} (found : world.monitor? number = some monitor) :
    Accounted position (world.drop number monitor).world
      (past ++ [⟨world, .drop number, (world.drop number monitor).map fun _ => .dropped⟩]) := by
  have keeps : ∀ token, ¬ WorldDeed.Orphans position token
      ⟨world, .drop number, (world.drop number monitor).map fun _ => .dropped⟩ :=
    fun token => not_orphans_of_ne (by simp)
  have alive : ∀ token, (world.drop number monitor).world.aliveAt token = world.aliveAt token :=
    fun token => aliveAt_drop world number monitor
  have length_le : world.monitors.length ≤ (world.drop number monitor).world.monitors.length := by
    simp [World.drop, settle]
  have left := monitor?_settle (lt_length_of_monitor? found) none
    (monitor.session.drop monitor.setting (world.answers monitor)).effects position
  by_cases here : number = position
  · subst here
    rw [if_pos rfl] at left
    refine accounted.released ?_ alive (fun token => not_holdsAt left) keeps length_le
    intro token
    rw [linked.lists_drop found]
    simp
  · rw [if_neg here] at left
    refine accounted.unchanged ?_ alive (fun token => holdsAt_of_same left) keeps length_le
    intro token
    rw [linked.lists_drop found]
    simp [Ne.symm here]

/-- The death of a client takes all links to its token, also the orphaned ones. -/
theorem notifyDeath (accounted : Accounted position world past) (linked : world.Linked)
    (dying : Nat) (keeps : ∀ token, ¬ deed.Orphans position token) :
    Accounted position (world.notifyDeath dying).world (past ++ [deed]) := by
  have follows := follows_notifyDeath world dying position
  have mono : ∀ token, (world.notifyDeath dying).world.HoldsAt position token →
      world.HoldsAt position token := fun token => .of_follows linked.sound follows
  have holds : ∀ token, token ≠ dying →
      ((world.notifyDeath dying).world.HoldsAt position token ↔
        world.HoldsAt position token) := by
    intro token other
    refine ⟨mono token, ?_⟩
    intro held
    have unlisted : ¬ world.Lists dying position := by
      intro listed
      rcases ((accounted.listed dying).mp listed).2 with holds | orphan
      · exact other (held.unique holds)
      · exact (accounted.orphaned dying orphan).2 token held
    exact (holdsAt_of_same (notifyDeath_other unlisted).1).mpr held
  refine ⟨?_, ?_⟩
  · intro token
    rw [lists_notifyDeath linked.tidy, aliveAt_notifyDeath, orphaned_append,
      or_iff_left (keeps token)]
    by_cases dead : token = dying
    · simp [dead]
    · rw [if_neg dead, holds token dead, accounted.listed]
      simp [dead]
  · intro token orphan
    rw [orphaned_append, or_iff_left (keeps token)] at orphan
    obtain ⟨within, bare⟩ := accounted.orphaned token orphan
    exact ⟨follows.length_eq ▸ within, fun other held => bare other (mono other held)⟩

omit [ScopedAction Action] [HardwareAction Action] in
/-- A change of a session's listener is no matter of its link. -/
theorem setListener (accounted : Accounted position world past) {number : Nat}
    {monitor : Monitor Action} (found : world.monitor? number = some monitor)
    (listener : Listener) (keeps : ∀ token, ¬ deed.Orphans position token) :
    Accounted position (world.setListener number monitor listener) (past ++ [deed]) := by
  have settled : (world.setListener number monitor listener).monitor? position =
      if number = position then some { monitor with listener := some listener }
      else world.monitor? position :=
    monitor?_settle (lt_length_of_monitor? found) _ [] position
  refine accounted.unchanged (fun _ => Iff.rfl) (fun _ => rfl) ?_ keeps
    (by simp [World.setListener])
  intro token
  by_cases here : number = position
  · subst here
    rw [if_pos rfl] at settled
    rw [holdsAt_iff settled, holdsAt_iff found]
  · rw [if_neg here] at settled
    exact holdsAt_of_same settled

/-- Whatever a world obeys, listings stay accounted for, as long as nobody but the
sessions removes links. -/
theorem obey (accounted : Accounted position world past) (linked : world.Linked)
    {command : WorldCommand Action} (own : command.isUnlink = false) :
    Accounted position (world.obey command).world
      (past ++ [⟨world, command, world.obey command⟩]) := by
  have other : (∀ number operation, command ≠ .perform number operation) →
      ∀ token, ¬ WorldDeed.Orphans position token ⟨world, command, world.obey command⟩ :=
    fun noPerform token => not_orphans_of_ne fun _ => noPerform _ _
  have idle : (∀ token, ¬ WorldDeed.Orphans position token
      ⟨world, command, world.obey command⟩) →
        Accounted position world (past ++ [⟨world, command, world.obey command⟩]) :=
    fun keeps => accounted.unchanged (fun _ => Iff.rfl) (fun _ => rfl) (fun _ => Iff.rfl)
      keeps (Nat.le_refl _)
  cases command with
  | make setting action given listener =>
      exact accounted.make setting action given listener (other (by simp))
  | perform number operation =>
      cases found : world.monitor? number with
      | none =>
          have stays : world.obey (.perform number operation) = world.still .absent := by
            simp [World.obey, found]
          rw [stays] at idle ⊢
          refine idle ?_
          rintro token ⟨_, ⟨reply, absent⟩, _⟩
          cases absent
      | some monitor =>
          rw [obey_perform found]
          exact accounted.perform linked found operation
  | drop number =>
      have keeps := other (by simp)
      cases found : world.monitor? number with
      | none => simpa [World.obey, found] using idle keeps
      | some monitor =>
          rw [obey_drop found]
          exact accounted.drop linked found
  | notifyDeath dying =>
      rw [(obey_notifyDeath world dying).1]
      exact accounted.notifyDeath linked dying (other (by simp))
  | watch processes dying process =>
      have keeps := other (by simp)
      have watched := obey_watch world processes dying process
      split at watched
      · rw [watched.1]
        exact accounted.notifyDeath linked dying keeps
      · rw [watched.1]
        exact idle keeps
  | unlink => cases own
  | setHal | setPreference =>
      exact accounted.unchanged (fun _ => Iff.rfl) (fun _ => rfl) (fun _ => Iff.rfl)
        (other (by simp)) (Nat.le_refl _)
  | setListener number listener =>
      have keeps := other (by simp)
      cases found : world.monitor? number with
      | none => simpa [World.obey, found] using idle keeps
      | some monitor =>
          simpa [World.obey, found] using accounted.setListener found listener keeps

end Action

end Accounted

variable [HardwareAction Action] [ScopedAction Action]

/-- In every run in which nobody but the sessions removes links, listings are
accounted for. -/
theorem accounted_run (processes : List (Option UInt32))
    {commands : List (WorldCommand Action)}
    (own : ∀ command ∈ commands, command.isUnlink = false) (position : Nat) :
    Accounted position ((fresh processes).after commands)
      ((fresh processes).deeds commands) := by
  -- by induction on the commands, with the deeds done so far going along
  have step : ∀ (world : World Action) past, world.Linked → Accounted position world past →
      Accounted position (world.after commands) (past ++ world.deeds commands) := by
    induction commands with
    | nil =>
        intro world past _ accounted
        simpa [deeds] using accounted
    | cons command commands ih =>
        intro world past linked accounted
        have isOwn := own command List.mem_cons_self
        have next := ih (fun other member => own other (List.mem_cons_of_mem _ member)) _ _
          (linked.obey isOwn) (accounted.obey linked isOwn)
        simpa [deeds] using next
  refine step (fresh processes) [] (linked_fresh processes) ⟨?_, ?_⟩
  · intro token
    have unlisted : ¬ (fresh processes : World Action).Lists token position := by
      rintro ⟨state, known, listed⟩
      obtain ⟨process, _, rfl⟩ := List.mem_map.mp (List.mem_of_getElem? known)
      cases listed
    have free : ¬ (fresh processes : World Action).HoldsAt position token :=
      not_holdsAt (by simp [monitor?, fresh])
    simp [unlisted, free, Orphaned]
  · intro token orphan
    simp [Orphaned] at orphan

omit [ScopedAction Action] in
/-- The death of a live token reaches exactly the sessions on its list that still
exist. -/
theorem reached_iff (linked : world.Linked) {state : ClientToken Nat}
    (known : world.tokens[token]? = some state) (alive : state.alive = true)
    (answering : world.hal.AnswersStops) :
    effectsOf position (world.obey (.notifyDeath token)).happenings ≠ [] ↔
      position ∈ world.existing state.recipients := by
  rw [death_eq linked.sound known alive answering, WorldStep.map_happenings]
  constructor
  · intro reached
    by_contra unlisted
    exact reached (tellEach_other unlisted (world.bereft token state)).2
  · intro listed
    obtain ⟨_, monitor, found⟩ := mem_existing.mp listed
    obtain ⟨answers, _, effects, _⟩ := tellEach_bereft linked.tidy known listed found
    rw [effects]
    exact Session.clientDied_effects_ne_nil monitor.setting answers monitor.session true

/-- In a run in which nobody but the sessions removes links, a token lists a
session that was destroyed or given up exactly if the token is alive and the session
has orphaned its link to it.  The count of a token's links counts each session
once, and only sessions that hold a link or have orphaned one.  A death that is
declared later, while the hardware answers, reaches and counts the destroyed session
exactly if it still exists and has orphaned its link. -/
theorem link_outlives_iff_orphaned (processes : List (Option UInt32))
    {commands : List (WorldCommand Action)}
    (own : ∀ command ∈ commands, command.isUnlink = false) {position token : Nat}
    (ended : StaysAt (fun session => session.destroyed = true) position
      ((fresh processes).after commands))
    {state : ClientToken Nat}
    (known : ((fresh processes).after commands).tokens[token]? = some state) :
    let world := (fresh processes).after commands
    let orphaned := fun position => Orphaned position token ((fresh processes).deeds commands)
    (position ∈ state.recipients ↔ state.alive = true ∧ orphaned position) ∧
      (state.linkedCount = state.recipients.length ∧ state.recipients.Nodup ∧
        ∀ other ∈ state.recipients, world.HoldsAt other token ∨ orphaned other) ∧
      (state.alive = true → world.hal.AnswersStops →
        let death := world.obey (.notifyDeath token)
        death.ending = .returned (.told (world.existing state.recipients).length) ∧
          (effectsOf position death.happenings ≠ [] ↔
            position ∈ world.existing state.recipients) ∧
          (position ∈ world.existing state.recipients ↔
            (∃ monitor, world.monitor? position = some monitor) ∧ orphaned position)) := by
  intro world orphaned
  have linked : world.Linked := (linked_fresh processes).after own
  have lists : ∀ other, world.Lists token other ↔ other ∈ state.recipients := by
    intro other
    simp [Lists, world, known]
  have aliveAt : world.aliveAt token = some true ↔ state.alive = true := by
    simp [World.aliveAt, world, known]
  have listed : ∀ other, other ∈ state.recipients ↔
      state.alive = true ∧ (world.HoldsAt other token ∨ orphaned other) := by
    intro other
    rw [← lists, (accounted_run processes own other).listed token, aliveAt]
  have free : ¬ world.HoldsAt position token := by
    rintro ⟨monitor, link, found, holds⟩
    have bare := (linked.sound position monitor found).destroyed_bare
      (ended.within monitor found)
    simp [holds.token_eq] at bare
  have listedOver : position ∈ state.recipients ↔ state.alive = true ∧ orphaned position := by
    rw [listed, or_iff_right free]
  refine ⟨listedOver, ⟨by simp [ClientToken.linkedCount, ClientToken.recipients],
    (linked.tidy token state known).recipients_nodup,
      fun other member => ((listed other).mp member).2⟩, ?_⟩
  intro alive answering death
  refine ⟨?_, reached_iff linked known alive answering, ?_⟩
  · rw [show death = _ from death_eq linked.sound known alive answering,
      elsewhere_of_no_strangers (strangers_run processes commands)]
    rfl
  · rw [mem_existing, listedOver, and_comm]
    simp [alive]

/-- Of two sessions on the list of a token, both destroyed, the one that had heard of
its client's death before stays listed; the death of the token then reaches and
counts it. -/
theorem link_outlives_iff_orphaned_destroyed :
    let setting : Setting := ⟨⟨10, 20, false, "owner", 42, 1⟩, .fingerprint, .standard true⟩
    let commands : List (WorldCommand BuiltinAction) :=
      [.make setting .enumerate (some 0) none, .make setting .enumerate (some 0) none,
        .perform 0 (.clientDied false), .perform 0 .destroy, .perform 1 .destroy]
    let world := (fresh [none]).after commands
    let death := world.obey (.notifyDeath 0)
    let state : ClientToken Nat := ⟨none, true, 3, [⟨1, 0⟩]⟩
    world.tokens[0]? = some state ∧
      StaysAt (fun session => session.destroyed = true) 0 world ∧
        StaysAt (fun session => session.destroyed = true) 1 world ∧
          0 ∈ state.recipients ∧ 1 ∉ state.recipients ∧ death.ending = .returned (.told 1) ∧
            effectsOf 0 death.happenings ≠ [] := by
  intro setting commands world death state
  have own : ∀ command ∈ commands, command.isUnlink = false := by decide
  have first : StaysAt (fun session => session.destroyed = true) 0 world := by
    have found : world.monitor? 0 = some _ := rfl
    exact .of_found found rfl
  have second : StaysAt (fun session => session.destroyed = true) 1 world := by
    have found : world.monitor? 1 = some _ := rfl
    exact .of_found found rfl
  have orphaned : Orphaned 0 0 ((fresh [none]).deeds commands) := by
    let before := (fresh [none]).after (commands.take 2)
    let hearing : WorldCommand BuiltinAction := .perform 0 (.clientDied false)
    have done : ⟨before, hearing, before.obey hearing⟩ ∈ (fresh [none]).deeds commands :=
      List.mem_cons_of_mem _ (List.mem_cons_of_mem _ List.mem_cons_self)
    exact ⟨_, done, ⟨false, rfl⟩, ⟨_, rfl⟩, ⟨_, _, rfl, rfl, rfl⟩⟩
  have known : world.tokens[0]? = some state := by decide +kernel
  obtain ⟨listed, _, dies⟩ := link_outlives_iff_orphaned [none] own first known
  obtain ⟨ending, reached, told⟩ := dies rfl (Hal.answersStops_steady _ 0)
  exact ⟨known, first, second, listed.mpr ⟨rfl, orphaned⟩, by decide, ending,
    reached.mpr (told.mpr ⟨⟨_, rfl⟩, orphaned⟩)⟩

/-- A session that has heard of its client's death from somebody else than its token
and is destroyed then is listed by the token for as long as the token lives, and
reached and counted when it dies. -/
theorem destroyed_session_still_linked :
    let commands : List (WorldCommand BuiltinAction) :=
      [.make ⟨⟨0, 0, false, "owner", 0, 1⟩, .fingerprint, .standard true⟩ .enumerate (some 0)
          (some (.failingAfter none (.refused .channelClosed))),
        .perform 0 .start, .perform 0 (.clientDied true), .perform 0 .destroy]
    let world := (fresh [none]).after commands
    let death := world.obey (.notifyDeath 0)
    (∃ monitor, world.monitor? 0 = some monitor ∧ monitor.session.destroyed = true) ∧
      world.Lists 0 0 ∧ world.summary = [(true, 1)] ∧ death.ending = .returned (.told 1) ∧
        effectsOf 0 death.happenings = [.notice .diedAfterDestroy] := by
  intro commands world death
  exact ⟨⟨_, rfl, rfl⟩, ⟨_, rfl, by decide⟩, by decide, by decide, by decide⟩

end World

end BiometricSession
