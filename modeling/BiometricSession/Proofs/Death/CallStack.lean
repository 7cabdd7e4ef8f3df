import BiometricSession.Proofs.Death.Cascade
import Mathlib.Computability.StateTransition

/-!
# Cascades step by step

A death calls the recipients that it tells, and a recipient that reacts may
declare further deaths before it returns.  Here the calls that are going on stand
on a stack.  A step gives one link its turn, does one action or returns from one
call, and nothing bounds the stack or the number of steps.

A step leaves all lives alone or ends the life of one token, whose links it takes.
Only then does the stack get another death.  So the deaths on the stack and the
live tokens together never become more, and no token's links are taken twice.
-/

namespace BiometricSession

/-- Whether an entry begins the death of a token. -/
def DeathRecord.begins (token : Nat) : DeathRecord → Bool
  | event (.began position) => position = token
  | _ => false

namespace DeathRegistry

/-- For every token, whether it is alive. -/
def lives (registry : DeathRegistry) : List Bool :=
  registry.tokens.map (·.alive)

def aliveAt (registry : DeathRegistry) (token : Nat) : Bool :=
  registry.tokens[token]?.any (·.alive)

end DeathRegistry

namespace DeathAction

/-- The token whose death an action declares. -/
def declares? (processes : ProcessTable) (registry : DeathRegistry) :
    DeathAction → Option Nat
  | .die position => registry.tokens[position]?.map fun _ => position
  | .watch position process =>
      match registry.tokens[position]? with
      | some token =>
          match WatchFinding.of token.alive (processes.alive process) with
          | .processGone => some position
          | .tokenDead | .running => none
      | none => none
  | _ => none

/-- What an action that declares a death notes before it does. -/
def preface : DeathAction → List DeathRecord
  | .watch _ process =>
      (WatchFinding.processGone.report process).map fun record => .event (.logged record)
  | _ => []

/-- What comes of an action that declares a death, given how many were told. -/
def answered (count : Nat) : DeathAction → DeathAnswer
  | .watch .. => .watched .processGone
  | _ => .notified count

end DeathAction

/-- A call that is going on. -/
inductive DeathCall where
  /-- A death gives the links that are left their turns; `told` of those before have
  fired.  It may have been declared by somebody's action. -/
  | notifying (token : Nat) (links : List (DeathLink Nat)) (told : Nat)
      (declaredBy : Option (String × DeathAction))
  /-- A recipient that was told of a death does the actions that are left. -/
  | reacting (recipient : Nat) (name : String) (actions : List DeathAction)

def DeathCall.isNotifying : DeathCall → Bool
  | notifying .. => true
  | reacting .. => false

/-- A moment of a cascade: what it has come to so far, with the answer of the
outermost death once that has returned. -/
structure DeathMoment extends DeathProgress Nat where
  /-- The calls that are going on, innermost first. -/
  calls : List DeathCall

namespace DeathMoment

/-- How many deaths that have taken links are nested. -/
def depth (moment : DeathMoment) : Nat :=
  moment.calls.countP (·.isNotifying)

/-- Add to the account. -/
def note (moment : DeathMoment) (records : List DeathRecord) : DeathMoment :=
  { moment with records := moment.records ++ records }

/-- Give the answer of a death to whoever has declared it. -/
def report (moment : DeathMoment) (count : Nat) :
    Option (String × DeathAction) → DeathMoment
  | some (name, action) => moment.note [.event (.reacted name (action.answered count))]
  | none => { moment with answer := count }

/-- Declare a death.  It takes the links of a live token; a death that is declared
of a dead token returns at once. -/
def declare (moment : DeathMoment) (token : Nat)
    (declaredBy : Option (String × DeathAction)) : DeathMoment :=
  match moment.registry.tokens[token]?.bind ClientToken.die with
  | some (links, state) =>
      { moment.note [.event (.began token)] with
        registry := moment.registry.setToken token state
        calls := .notifying token links 0 declaredBy :: moment.calls }
  | none => (moment.note [.redeclared token]).report 0 declaredBy

/-- The moment at which a death is declared from outside. -/
def outset (registry : DeathRegistry) (token : Nat) : DeathMoment :=
  declare ⟨⟨registry, 0, []⟩, []⟩ token none

/-- Go on with the innermost call. -/
def step (processes : ProcessTable) (moment : DeathMoment) : Option DeathMoment :=
  match moment.calls with
  | .notifying token (link :: links) told declaredBy :: calls =>
      match moment.registry.existing? link.recipient with
      | some details =>
          some
            { moment.note [.event (.told token link.number link.recipient details.name)] with
              registry :=
                { moment.registry with
                  beingTold := link.recipient :: moment.registry.beingTold }
              calls :=
                .reacting link.recipient details.name details.reaction ::
                  .notifying token links (told + 1) declaredBy :: calls }
      | none =>
          some
            { moment.note [.missed token link.number link.recipient] with
              calls := .notifying token links told declaredBy :: calls }
  | .notifying token [] told declaredBy :: calls =>
      some
        (report { moment.note [.event (.ended token told)] with calls } told declaredBy)
  | .reacting recipient name (action :: actions) :: calls =>
      match action.declares? processes moment.registry with
      | some token =>
          some
            (declare
              { moment.note action.preface with
                calls := .reacting recipient name actions :: calls }
              token (some (name, action)))
      | none =>
          -- no death is declared, so it does not matter how one would be
          let progress :=
            moment.registry.performWith processes (fun registry _ => ⟨registry, 0, []⟩) action
          some
            { moment.note (progress.records ++ [.event (.reacted name progress.answer)]) with
              registry := progress.registry
              calls := .reacting recipient name actions :: calls }
  | .reacting recipient _ [] :: calls =>
      some
        { moment.note [.settled recipient] with
          registry :=
            { moment.registry with
              beingTold := moment.registry.beingTold.erase recipient }
          calls }
  | [] => none

/-- Finitely many steps lead from one moment to another. -/
def Leads (processes : ProcessTable) (moment next : DeathMoment) : Prop :=
  StateTransition.Reaches (step processes) moment next

namespace Leads

variable {processes : ProcessTable} {moment next now : DeathMoment}

theorem refl (moment : DeathMoment) : Leads processes moment moment :=
  Relation.ReflTransGen.refl

theorem single (stepped : moment.step processes = some next) :
    Leads processes moment next :=
  Relation.ReflTransGen.single stepped

theorem trans (front : Leads processes moment next) (back : Leads processes next now) :
    Leads processes moment now :=
  Relation.ReflTransGen.trans front back

end Leads

end DeathMoment

namespace DeathHistory

variable {token : Nat} {registry : DeathRegistry} {processes : ProcessTable}
  {action : DeathAction} {moment next now : DeathMoment}

/-! ## Actions that declare a death -/

/-- An action that declares a death comes to what the death comes to. -/
theorem performWith_of_declares
    (declares : action.declares? processes registry = some token)
    (notify : DeathRegistry.Notification) :
    registry.performWith processes notify action =
      ⟨(notify registry token).registry, action.answered (notify registry token).answer,
        action.preface ++ (notify registry token).records⟩ := by
  cases action with
  | die position =>
      obtain ⟨state, found, rfl⟩ := Option.map_eq_some_iff.mp declares
      simp only [DeathRegistry.performWith, found]
      rfl
  | watch position process =>
      simp only [DeathAction.declares?] at declares
      cases found : registry.tokens[position]? with
      | none => simp [found] at declares
      | some state =>
          cases finding : WatchFinding.of state.alive (processes.alive process) with
          | processGone =>
              obtain rfl : position = token := by simpa [found, finding] using declares
              simp only [DeathRegistry.performWith, found, finding]
              rfl
          | tokenDead => simp [found, finding] at declares
          | running => simp [found, finding] at declares
  | _ => cases declares

/-- An action that declares no death is done alike whichever way deaths are declared. -/
theorem performWith_congr (declares : action.declares? processes registry = none)
    (notify other : DeathRegistry.Notification) :
    registry.performWith processes notify action =
      registry.performWith processes other action := by
  cases action with
  | die position =>
      have nowhere := Option.map_eq_none_iff.mp declares
      simp only [DeathRegistry.performWith, nowhere]
  | watch position process =>
      simp only [DeathAction.declares?] at declares
      cases found : registry.tokens[position]? with
      | none => simp only [DeathRegistry.performWith, found]
      | some state =>
          cases finding : WatchFinding.of state.alive (processes.alive process) with
          | processGone => simp [found, finding] at declares
          | tokenDead => simp only [DeathRegistry.performWith, found, finding]
          | running => simp only [DeathRegistry.performWith, found, finding]
  | _ => rfl

/-! ## Lives -/

theorem liveTokens_eq_count (registry : DeathRegistry) :
    registry.liveTokens = registry.lives.count true := by
  simp [DeathRegistry.liveTokens, DeathRegistry.lives, List.count, List.countP_map,
    Function.comp_def]

theorem aliveAt_eq_getD (registry : DeathRegistry) (token : Nat) :
    registry.aliveAt token = registry.lives[token]?.getD false := by
  simp only [DeathRegistry.aliveAt, DeathRegistry.lives, List.getElem?_map]
  cases registry.tokens[token]? <;> rfl

theorem lives_setToken (registry : DeathRegistry) (position : Nat)
    (state : ClientToken Nat) :
    (registry.setToken position state).lives = registry.lives.set position state.alive := by
  simp only [DeathRegistry.lives, DeathRegistry.setToken, List.map_set]

theorem lives_setToken_self {old state : ClientToken Nat} {position : Nat}
    (found : registry.tokens[position]? = some old) (same : state.alive = old.alive) :
    (registry.setToken position state).lives = registry.lives := by
  have life : registry.lives[position]? = some state.alive := by
    simp [DeathRegistry.lives, found, same]
  obtain ⟨within, isLife⟩ := List.getElem?_eq_some_iff.mp life
  rw [lives_setToken, ← isLife, List.set_getElem_self]

/-- The death of a live token costs that life and no other. -/
theorem die_lives {position : Nat} {state dead : ClientToken Nat}
    {links : List (DeathLink Nat)} (found : registry.tokens[position]? = some state)
    (dies : state.die = some (links, dead)) :
    (registry.setToken position dead).liveTokens + 1 = registry.liveTokens ∧
      ∀ token, (registry.aliveAt token).toNat =
        ((registry.setToken position dead).aliveAt token).toNat +
          if position = token then 1 else 0 := by
  unfold ClientToken.die at dies
  split at dies
  case isFalse => cases dies
  case isTrue alive =>
    obtain ⟨rfl, rfl⟩ := Prod.mk.inj (Option.some.inj dies)
    have counted := liveTokens_setToken found { state with alive := false, links := [] }
    simp only [alive, Bool.toNat_true, Bool.toNat_false] at counted
    refine ⟨counted, fun token => ?_⟩
    by_cases here : position = token
    · subst here
      have within := (List.getElem?_eq_some_iff.mp found).1
      simp only [DeathRegistry.aliveAt, DeathRegistry.setToken, found, alive,
        List.getElem?_set_self within, Option.any_some, if_true]
      rfl
    · simp [DeathRegistry.aliveAt, DeathRegistry.setToken, here]

/-- An action has left all lives as they were, and no death has begun by it. -/
structure Spares (registry : DeathRegistry) (progress : DeathProgress DeathAnswer) :
    Prop where
  lives_eq : progress.registry.lives = registry.lives
  noDeath : ∀ token, ¬ Begun token progress.records

theorem spares_of_same {answer : DeathAnswer} : Spares registry ⟨registry, answer, []⟩ :=
  ⟨rfl, by simp [Begun]⟩

theorem spares_link {position : Nat} {state : ClientToken Nat}
    (found : registry.tokens[position]? = some state) (name : String) :
    Spares registry (registry.link position state name) := by
  have tokens_eq := tokens_obtain registry name
  have lives_eq : (registry.obtain name).2.lives = registry.lives := by
    simp only [DeathRegistry.lives, tokens_eq]
  have stillFound : (registry.obtain name).2.tokens[position]? = some state := by
    rw [tokens_eq, found]
  unfold DeathRegistry.link ClientToken.link
  by_cases alive : state.alive = true
  · simp only [if_pos alive]
    refine ⟨?_, by simp [Begun]⟩
    rw [← lives_eq]
    exact lives_setToken_self stillFound rfl
  · simp only [if_neg alive]
    exact ⟨lives_eq, by simp [Begun]⟩

theorem spares_unlink {position : Nat} {state : ClientToken Nat}
    (found : registry.tokens[position]? = some state) (number : Nat) :
    Spares registry (registry.unlink position state number) := by
  unfold DeathRegistry.unlink ClientToken.unlink
  cases state.links.any (·.number == number) with
  | true => exact ⟨lives_setToken_self found rfl, by simp [Begun]⟩
  | false => exact ⟨rfl, by simp [Begun]⟩

theorem spares_change (registry : DeathRegistry) (name : String)
    (update : DeathRecipient → DeathRecipient) {account : Nat → List DeathRecord}
    (noDeath : ∀ recipient token, ¬ Begun token (account recipient)) :
    Spares registry (registry.change name update account) := by
  unfold DeathRegistry.change
  cases registry.find? name with
  | none => exact spares_of_same
  | some recipient => exact ⟨rfl, noDeath recipient⟩

/-- An action that declares no death ends no life. -/
theorem spares_perform (declares : action.declares? processes registry = none)
    (notify : DeathRegistry.Notification) :
    Spares registry (registry.performWith processes notify action) := by
  cases action with
  | link position name =>
      simp only [DeathRegistry.performWith]
      cases found : registry.tokens[position]? with
      | none => exact spares_of_same
      | some state => exact spares_link found name
  | unlink position number =>
      simp only [DeathRegistry.performWith]
      cases found : registry.tokens[position]? with
      | none => exact spares_of_same
      | some state => exact spares_unlink found number
  | drop name => exact spares_change registry name _ (by simp [Begun])
  | onDeath name reaction => exact spares_change registry name _ (by simp [Begun])
  | die position =>
      have nowhere := Option.map_eq_none_iff.mp declares
      simp only [DeathRegistry.performWith, nowhere]
      exact spares_of_same
  | watch position process =>
      simp only [DeathAction.declares?] at declares
      simp only [DeathRegistry.performWith]
      cases found : registry.tokens[position]? with
      | none => exact spares_of_same
      | some state =>
          simp only
          cases finding : WatchFinding.of state.alive (processes.alive process) with
          | processGone => simp [found, finding] at declares
          | tokenDead => exact ⟨rfl, by simp [Begun]⟩
          | running => exact ⟨rfl, by simp [Begun]⟩
  | look position =>
      simp only [DeathRegistry.performWith]
      cases registry.tokens[position]? <;> exact spares_of_same
  | processAlive process => exact spares_of_same
  | unknown => exact spares_of_same

/-! ## What a cascade costs -/

theorem countP_begins_eq_zero {records : List DeathRecord} (noDeath : ¬ Begun token records) :
    records.countP (·.begins token) = 0 := by
  rw [List.countP_eq_zero]
  intro record member begins
  apply noDeath
  cases record with
  | event happened =>
      cases happened with
      | began position =>
          obtain rfl : position = token := by simpa [DeathRecord.begins] using begins
          exact member
      | _ => cases begins
  | _ => cases begins

/-- Between two moments of a cascade lives are only spent.  A death that begins costs
the life of its token, and so does every death by which the stack grows. -/
structure Spends (moment next : DeathMoment) : Prop where
  live_le : next.registry.liveTokens ≤ moment.registry.liveTokens
  depth_le : next.depth + next.registry.liveTokens ≤
    moment.depth + moment.registry.liveTokens
  begun_eq : ∀ token,
    next.records.countP (·.begins token) + (next.registry.aliveAt token).toNat =
      moment.records.countP (·.begins token) + (moment.registry.aliveAt token).toNat

namespace Spends

theorem refl (moment : DeathMoment) : Spends moment moment :=
  ⟨Nat.le_refl _, Nat.le_refl _, fun _ => rfl⟩

theorem trans (front : Spends moment next) (back : Spends next now) : Spends moment now where
  live_le := Nat.le_trans back.live_le front.live_le
  depth_le := Nat.le_trans back.depth_le front.depth_le
  begun_eq token := (back.begun_eq token).trans (front.begun_eq token)

/-- Nothing is spent if all lives stay as they are. -/
theorem nothing {records : List DeathRecord}
    (lives_eq : next.registry.lives = moment.registry.lives)
    (depth_le : next.depth ≤ moment.depth)
    (records_eq : next.records = moment.records ++ records)
    (noDeath : ∀ token, ¬ Begun token records) : Spends moment next := by
  have live_eq : next.registry.liveTokens = moment.registry.liveTokens := by
    rw [liveTokens_eq_count, liveTokens_eq_count, lives_eq]
  refine ⟨Nat.le_of_eq live_eq, by omega, fun token => ?_⟩
  rw [aliveAt_eq_getD, aliveAt_eq_getD, lives_eq, records_eq, List.countP_append,
    countP_begins_eq_zero (noDeath token)]
  rfl

theorem note {records : List DeathRecord} (noDeath : ∀ token, ¬ Begun token records) :
    Spends moment (moment.note records) :=
  nothing rfl (Nat.le_refl _) rfl noDeath

theorem report (moment : DeathMoment) (count : Nat)
    (declaredBy : Option (String × DeathAction)) :
    Spends moment (moment.report count declaredBy) := by
  cases declaredBy with
  | none => exact nothing rfl (Nat.le_refl _) (List.append_nil _).symm (by simp [Begun])
  | some caller => exact note (by simp [Begun])

theorem declare (moment : DeathMoment) (position : Nat)
    (declaredBy : Option (String × DeathAction)) :
    Spends moment (moment.declare position declaredBy) := by
  unfold DeathMoment.declare
  cases dies : moment.registry.tokens[position]?.bind ClientToken.die with
  | none => exact (note (by simp [Begun])).trans (report _ 0 declaredBy)
  | some taken =>
      obtain ⟨links, dead⟩ := taken
      obtain ⟨state, found, died⟩ := Option.bind_eq_some_iff.mp dies
      obtain ⟨live_eq, alive_eq⟩ := die_lives found died
      refine ⟨?_, ?_, fun token => ?_⟩
      · simp only
        omega
      · simp only [DeathMoment.depth, List.countP_cons, DeathCall.isNotifying, if_true]
        omega
      · rw [alive_eq token]
        simp [DeathMoment.note, DeathRecord.begins, List.countP_append]
        omega

end Spends

theorem spends_step (stepped : moment.step processes = some next) : Spends moment next := by
  obtain ⟨progress, calls⟩ := moment
  cases calls with
  | nil => cases stepped
  | cons call calls =>
      cases call with
      | notifying position links told declaredBy =>
          cases links with
          | nil =>
              obtain rfl := Option.some.inj stepped
              refine Spends.trans ?_ (.report _ _ _)
              exact .nothing rfl (List.sublist_cons_self _ _).countP_le rfl (by simp [Begun])
          | cons link links =>
              simp only [DeathMoment.step] at stepped
              cases found : progress.registry.existing? link.recipient with
              | none =>
                  simp only [found] at stepped
                  obtain rfl := Option.some.inj stepped
                  exact .nothing rfl (by simp [DeathMoment.depth, DeathCall.isNotifying]) rfl
                    (by simp [Begun])
              | some details =>
                  simp only [found] at stepped
                  obtain rfl := Option.some.inj stepped
                  exact .nothing rfl (by simp [DeathMoment.depth, DeathCall.isNotifying]) rfl
                    (by simp [Begun])
      | reacting recipient name actions =>
          cases actions with
          | nil =>
              obtain rfl := Option.some.inj stepped
              exact .nothing rfl (List.sublist_cons_self _ _).countP_le rfl (by simp [Begun])
          | cons action actions =>
              simp only [DeathMoment.step] at stepped
              cases declares : action.declares? processes progress.registry with
              | some position =>
                  simp only [declares] at stepped
                  obtain rfl := Option.some.inj stepped
                  -- the recipient waits on the stack, below the death if that begins
                  refine Spends.trans ?_ (.declare _ _ _)
                  refine .nothing rfl ?_ rfl ?_
                  · simp [DeathMoment.depth, DeathCall.isNotifying]
                  · cases action <;> simp [Begun, DeathAction.preface]
              | none =>
                  simp only [declares] at stepped
                  obtain rfl := Option.some.inj stepped
                  have spared := spares_perform declares fun registry _ => ⟨registry, 0, []⟩
                  refine .nothing spared.lives_eq ?_ rfl ?_
                  · simp [DeathMoment.depth, DeathCall.isNotifying]
                  · simpa [Begun] using spared.noDeath

/-- A run spends lives only, however long it goes on. -/
theorem spends_of_leads (leads : DeathMoment.Leads processes moment now) :
    Spends moment now := by
  induction leads with
  | refl => exact .refl moment
  | tail _ stepped ih => exact ih.trans (spends_step stepped)

end DeathHistory

end BiometricSession
