import BiometricSession.Proofs.Death.CallStack

/-!
# Every death returns

Declaring a death is defined by recursion on how many further deaths may be nested
in it.  The steps of a cascade know no such bound.  Here the steps are followed from
the moment at which a death is declared, whatever other calls go on at that moment:
they come back to the same calls, with the outcome of the recursion, as long as it
provides for as many nested deaths as there are live tokens.

So a cascade ends by itself, and the bound of the recursion is never met.
-/

namespace BiometricSession

namespace DeathMoment

/-- The moment at which a death has returned to whoever declared it. -/
def conclude (moment : DeathMoment) (progress : DeathProgress Nat)
    (declaredBy : Option (String × DeathAction)) : DeathMoment :=
  report { moment.note progress.records with registry := progress.registry }
    progress.answer declaredBy

end DeathMoment

namespace DeathHistory

open DeathMoment (Leads)

variable {depth : Nat} {registry : DeathRegistry} {processes : ProcessTable}
  {notify : DeathRegistry.Notification}

/-- A way of declaring deaths that the steps follow back to the calls that went on
before, if no more than `depth` tokens are alive. -/
def FollowedWithin (processes : ProcessTable) (depth : Nat)
    (notify : DeathRegistry.Notification) : Prop :=
  ∀ (moment : DeathMoment) token declaredBy, moment.registry.liveTokens ≤ depth →
    Leads processes (moment.declare token declaredBy)
      (moment.conclude (notify moment.registry token) declaredBy)

section Notify

variable (followed : FollowedWithin processes depth notify) (answer : Nat)
  (records : List DeathRecord) (calls : List DeathCall)
include followed

/-- A recipient gets done with one of its actions. -/
theorem leads_act (recipient : Nat) (name : String) (action : DeathAction)
    (actions : List DeathAction) (fits : registry.liveTokens ≤ depth)
    {progress : DeathProgress DeathAnswer}
    (outcome : registry.performWith processes notify action = progress) :
    Leads processes
      ⟨⟨registry, answer, records⟩, .reacting recipient name (action :: actions) :: calls⟩
      ⟨⟨progress.registry, answer,
          records ++ progress.records ++ [.event (.reacted name progress.answer)]⟩,
        .reacting recipient name actions :: calls⟩ := by
  cases declares : action.declares? processes registry with
  | none =>
      apply Leads.single
      simp only [DeathMoment.step, declares]
      rw [performWith_congr declares _ notify, outcome]
      simp [DeathMoment.note]
  | some token =>
      rw [performWith_of_declares declares] at outcome
      subst outcome
      let waiting : DeathMoment :=
        ⟨⟨registry, answer, records ++ action.preface⟩,
          .reacting recipient name actions :: calls⟩
      have declared : Leads processes
          ⟨⟨registry, answer, records⟩, .reacting recipient name (action :: actions) :: calls⟩
          (waiting.declare token (some (name, action))) := by
        apply Leads.single
        simp only [DeathMoment.step, declares]
        rfl
      have returned := followed waiting token (some (name, action)) fits
      simpa [waiting, DeathMoment.conclude, DeathMoment.report, DeathMoment.note]
        using declared.trans returned

/-- A recipient gets done with all of its actions and returns. -/
theorem leads_react (recipient : Nat) (name : String) (actions : List DeathAction)
    (fits : registry.liveTokens ≤ depth) {progress : DeathProgress Unit}
    (outcome : DeathRegistry.reactWith processes notify name actions registry = progress) :
    Leads processes
      ⟨⟨registry, answer, records⟩, .reacting recipient name actions :: calls⟩
      ⟨⟨{ progress.registry with
            beingTold := progress.registry.beingTold.erase recipient },
          answer, records ++ progress.records ++ [.settled recipient]⟩, calls⟩ := by
  subst outcome
  induction actions generalizing registry records with
  | nil =>
      apply Leads.single
      simp [DeathMoment.step, DeathMoment.note, DeathRegistry.reactWith]
  | cons action actions ih =>
      have first := leads_act followed answer records calls recipient name action actions
        fits rfl
      have live_le := (spends_of_leads first).live_le
      have whole := first.trans (ih _ (Nat.le_trans live_le fits))
      simpa [DeathRegistry.reactWith] using whole

/-- A death gives all links that are left their turns and returns. -/
theorem leads_tellAll (token : Nat) (links : List (DeathLink Nat)) (told : Nat)
    (declaredBy : Option (String × DeathAction)) (fits : registry.liveTokens ≤ depth)
    {progress : DeathProgress Nat}
    (outcome : DeathRegistry.tellAllWith processes notify token links registry = progress) :
    Leads processes
      ⟨⟨registry, answer, records⟩, .notifying token links told declaredBy :: calls⟩
      (DeathMoment.report
        ⟨⟨progress.registry, answer,
          records ++ progress.records ++ [.event (.ended token (told + progress.answer))]⟩,
          calls⟩ (told + progress.answer) declaredBy) := by
  subst outcome
  induction links generalizing registry records told with
  | nil =>
      apply Leads.single
      simp [DeathMoment.step, DeathMoment.note, DeathRegistry.tellAllWith]
  | cons link links ih =>
      simp only [DeathRegistry.tellAllWith]
      cases found : registry.existing? link.recipient with
      | none =>
          have missed : Leads processes
              ⟨⟨registry, answer, records⟩,
                .notifying token (link :: links) told declaredBy :: calls⟩
              ⟨⟨registry, answer,
                  records ++ [.missed token link.number link.recipient]⟩,
                .notifying token links told declaredBy :: calls⟩ := by
            apply Leads.single
            simp only [DeathMoment.step, found]
            rfl
          have rest := ih (records ++ [.missed token link.number link.recipient]) told fits
          simpa using missed.trans rest
      | some details =>
          let hearing := { registry with beingTold := link.recipient :: registry.beingTold }
          let turn : DeathRecord :=
            .event (.told token link.number link.recipient details.name)
          have turned : Leads processes
              ⟨⟨registry, answer, records⟩,
                .notifying token (link :: links) told declaredBy :: calls⟩
              ⟨⟨hearing, answer, records ++ [turn]⟩,
                .reacting link.recipient details.name details.reaction ::
                  .notifying token links (told + 1) declaredBy :: calls⟩ := by
            apply Leads.single
            simp only [DeathMoment.step, found]
            rfl
          have fitsStill : hearing.liveTokens ≤ depth := fits
          have heard := turned.trans
            (leads_react followed answer (records ++ [turn])
              (.notifying token links (told + 1) declaredBy :: calls) link.recipient
              details.name details.reaction fitsStill rfl)
          -- a reaction brings no token to life, so the depth is enough for the other links
          have live_le := (spends_of_leads heard).live_le
          have whole := heard.trans (ih _ (told + 1) (Nat.le_trans live_le fits))
          rw [Nat.add_assoc told 1, Nat.add_comm 1] at whole
          simpa [DeathRegistry.tellWith, hearing, turn] using whole

end Notify

/-! ## Declaring deaths -/

/-- The recursion is followed if it provides for as many nested deaths as there are
live tokens. -/
theorem followed_notifyWithin (processes : ProcessTable) (depth : Nat) :
    FollowedWithin processes depth (DeathRegistry.notifyWithin processes depth) := by
  induction depth with
  | zero =>
      -- the recursion gives up, but with no live token there is nothing to take either
      intro moment token declaredBy fits
      have late : moment.registry.tokens[token]?.bind ClientToken.die = none := by
        cases found : moment.registry.tokens[token]? with
        | none => rfl
        | some state =>
            simp [ClientToken.die, dead_of_liveTokens found (Nat.le_zero.mp fits)]
      simp only [DeathMoment.declare, late]
      exact Leads.refl _
  | succ depth ih =>
      intro moment token declaredBy fits
      simp only [DeathRegistry.notifyWithin, DeathMoment.declare]
      cases dies : moment.registry.tokens[token]?.bind ClientToken.die with
      | none => exact Leads.refl _
      | some taken =>
          obtain ⟨links, dead⟩ := taken
          obtain ⟨state, found, died⟩ := Option.bind_eq_some_iff.mp dies
          have live_eq := (die_lives found died).1
          have returned := leads_tellAll ih moment.answer
            (moment.records ++ [.event (.began token)]) moment.calls token links 0 declaredBy
            (show (moment.registry.setToken token dead).liveTokens ≤ depth by omega) rfl
          simpa [DeathMoment.conclude, DeathMoment.note] using returned

/-- A cascade that is set off from outside runs to its end, to the outcome of the
recursion. -/
theorem eval_outset (processes : ProcessTable) (token : Nat)
    (fits : registry.liveTokens ≤ depth) :
    StateTransition.eval (DeathMoment.step processes) (.outset registry token) =
      Part.some ⟨DeathRegistry.notifyWithin processes depth registry token, []⟩ := by
  apply Part.eq_some_iff.mpr
  apply StateTransition.mem_eval.mpr
  exact ⟨followed_notifyWithin processes depth ⟨⟨registry, 0, []⟩, []⟩ token none fits, rfl⟩

/-- Providing for more nested deaths than there are live tokens changes nothing. -/
theorem notifyWithin_eq_notify (processes : ProcessTable) (token : Nat)
    (fits : registry.liveTokens ≤ depth) :
    DeathRegistry.notifyWithin processes depth registry token =
      DeathRegistry.notify processes registry token := by
  have bounded := eval_outset processes token fits
  rw [eval_outset processes token (Nat.le_refl registry.liveTokens)] at bounded
  exact (DeathMoment.mk.inj (Part.some_inj.mp bounded)).1.symm

/-- Whatever goes on at a moment, the innermost call returns to the others. -/
theorem innermost_returns (processes : ProcessTable) {moment : DeathMoment}
    {call : DeathCall} {calls : List DeathCall} (going : moment.calls = call :: calls) :
    ∃ later, Leads processes moment later ∧ later.calls = calls := by
  obtain ⟨⟨registry, answer, records⟩, _⟩ := moment
  cases going
  have followed := followed_notifyWithin processes registry.liveTokens
  cases call with
  | notifying token links told declaredBy =>
      refine ⟨_, leads_tellAll followed answer records calls token links told declaredBy
        (Nat.le_refl _) rfl, ?_⟩
      cases declaredBy <;> rfl
  | reacting recipient name actions =>
      exact ⟨_, leads_react followed answer records calls recipient name actions
        (Nat.le_refl _) rfl, rfl⟩

/-! ## The end of a cascade -/

/-- What becomes of a death that is declared from outside, with all the deaths that
are declared in the middle of it. -/
structure CascadeEnds (processes : ProcessTable) (registry : DeathRegistry)
    (token : Nat) : Prop where
  /-- The death returns, with the outcome of the recursion and no call left. -/
  returns : StateTransition.eval (DeathMoment.step processes) (.outset registry token) =
    Part.some ⟨DeathRegistry.notify processes registry token, []⟩
  /-- The recursion may provide for any number of nested deaths from the number of
  live tokens up. -/
  unbounded : ∀ depth, registry.liveTokens ≤ depth →
    DeathRegistry.notifyWithin processes depth registry token =
      DeathRegistry.notify processes registry token
  /-- Every call that goes on meanwhile returns to those that went on before it. -/
  callsReturn : ∀ now, Leads processes (.outset registry token) now →
    ∀ call calls, now.calls = call :: calls →
      ∃ later, Leads processes now later ∧ later.calls = calls
  /-- Deaths that have taken links are nested at most as deep as there were live tokens. -/
  nested : ∀ now, Leads processes (.outset registry token) now →
    now.depth ≤ registry.liveTokens
  /-- The links of a token that is alive at the outset are taken at most once, and
  those of a dead token never. -/
  takenOnce : ∀ now, Leads processes (.outset registry token) now →
    ∀ other, now.records.countP (·.begins other) ≤ (registry.aliveAt other).toNat

/-- Whatever the recipients do when they are told of a death, the cascade ends: every
death that is declared in it returns, deaths that take links are nested at most as
deep as there were live tokens, and no token's links are taken twice. -/
theorem death_cascades_end (processes : ProcessTable) (registry : DeathRegistry)
    (token : Nat) : CascadeEnds processes registry token := by
  have spends : ∀ now, Leads processes (.outset registry token) now →
      Spends ⟨⟨registry, 0, []⟩, []⟩ now :=
    fun now leads => (Spends.declare _ token none).trans (spends_of_leads leads)
  refine ⟨eval_outset processes token (Nat.le_refl _),
    fun depth fits => notifyWithin_eq_notify processes token fits,
    fun now _ call calls going => innermost_returns processes going, ?_, ?_⟩
  · intro now leads
    have depth_le : now.depth + now.registry.liveTokens ≤ 0 + registry.liveTokens :=
      (spends now leads).depth_le
    omega
  · intro now leads other
    have begun_eq : now.records.countP (·.begins other) +
        (now.registry.aliveAt other).toNat = 0 + (registry.aliveAt other).toNat :=
      (spends now leads).begun_eq other
    omega

/-- No process runs any more. -/
def allGone : ProcessTable :=
  ⟨fun _ => false⟩

/-- Two tokens whose deaths set each other off: "ann" is linked to both and "bob" to the
second, and both declare deaths and try to link themselves anew when they are told. -/
def entangled : DeathRegistry :=
  ⟨[⟨none, true, 2, [⟨1, 0⟩]⟩, ⟨some 7, true, 3, [⟨1, 0⟩, ⟨2, 1⟩]⟩],
    [⟨"ann", [.watch 1 7, .die 0, .link 0 "ann"], true⟩,
      ⟨"bob", [.die 1, .die 0, .link 1 "bob"], true⟩], []⟩

/-- Hearing of the first death "ann" finds the process of the second token gone, and
both deaths go on at once. -/
theorem death_cascades_end_entangled :
    let outcome := DeathRegistry.notify allGone entangled 0
    outcome.answer = 1 ∧ outcome.registry.liveTokens = 0 ∧
      StateTransition.eval (DeathMoment.step allGone) (.outset entangled 0) =
        Part.some ⟨outcome, []⟩ ∧
      DeathRegistry.notifyWithin allGone 100 entangled 0 = outcome ∧
        ∃ now call calls, Leads allGone (.outset entangled 0) now ∧
          now.depth = 2 ∧ now.depth ≤ entangled.liveTokens ∧
            now.records.countP (·.begins 1) = 1 ∧
              now.records.countP (·.begins 1) ≤ (entangled.aliveAt 1).toNat ∧
                now.calls = call :: calls ∧
                  ∃ later, Leads allGone now later ∧ later.calls = calls := by
  intro outcome
  have ends := death_cascades_end allGone entangled 0
  have turn : Leads allGone (.outset entangled 0) _ := .single rfl
  obtain ⟨now, watched, depth_eq, begun, call, calls, going⟩ :
      ∃ now, Leads allGone (.outset entangled 0) now ∧ now.depth = 2 ∧
        now.records.countP (·.begins 1) = 1 ∧ ∃ call calls, now.calls = call :: calls :=
    ⟨_, turn.trans (.single rfl), rfl, rfl, _, _, rfl⟩
  exact ⟨rfl, rfl, ends.returns, ends.unbounded 100 (by decide), now, call, calls, watched,
    depth_eq, ends.nested now watched, begun, ends.takenOnce now watched 1, going,
    ends.callsReturn now watched call calls going⟩

end DeathHistory

end BiometricSession
