import BiometricSession.Proofs.Death.Cascade

/-!
# The life of a death link

A run does any actions one after the other, and every recipient that is told of
a death does actions of its own in the middle.  In the account of every run, the
links of a token have different numbers; they come and go only while the token
lives; and the one death of a token gives each link that is left its turn, in
order, in which it fires if its recipient still exists.

The laws of the single entries say all of this; it is only put together here.
-/

namespace BiometricSession

namespace DeathRegistry

/-- Do actions one after the other, each with the processes that run by then. -/
def performAll : DeathRegistry → List (ProcessTable × DeathAction) →
    DeathProgress (List DeathAnswer)
  | registry, [] => ⟨registry, [], []⟩
  | registry, (processes, action) :: steps =>
      let first := registry.perform processes action
      let rest := performAll first.registry steps
      ⟨rest.registry, first.answer :: rest.answer, first.records ++ rest.records⟩

end DeathRegistry

namespace DeathHistory

variable {token : Nat} {history earlier later : List DeathRecord}

theorem continues_performAll (steps : List (ProcessTable × DeathAction))
    {registry : DeathRegistry} (recorded : Recorded history registry) :
    Continues Calm history registry (registry.performAll steps).records
      (registry.performAll steps).registry := by
  induction steps generalizing history registry with
  | nil => exact .refl recorded
  | cons step steps ih =>
      obtain ⟨processes, action⟩ := step
      have first : Continues Calm history registry
          (registry.perform processes action).records
          (registry.perform processes action).registry :=
        continues_perform (continues_notify processes registry.liveTokens) recorded
          (Nat.le_refl _) action
      exact first.trans (ih first.recorded)

/-! ## The one death of a token -/

/-- A death that has ended gave every link that was left its turn, in order, and
counted those that fired; no link has its turn before or after. -/
theorem death_of_ended (lawful : Lawful (earlier ++ .event (.began token) :: later))
    (ended : Ended token (earlier ++ .event (.began token) :: later)) :
    ∃ within count after, later = within ++ .event (.ended token count) :: after ∧
      turns token within = linksLeft token earlier ∧
        (fired token within).length = count ∧
          turns token earlier = [] ∧ turns token after = [] := by
  have unbegun : ¬ Begun token earlier := lawful earlier _ later rfl
  have whole : Lawful ((earlier ++ [.event (.began token)]) ++ later) := by
    simpa using lawful
  obtain ⟨count, member⟩ := ended
  have late : .event (.ended token count) ∈ later := by
    rcases List.mem_append.mp member with before | after
    · have front : Lawful ([] ++ earlier) := lawful.of_append
      obtain ⟨between, rest, rfl, law⟩ := front.law_of_mem before
      exact absurd (law.1.append _) unbegun
    · simpa using after
  obtain ⟨within, after, rfl, law⟩ := whole.law_of_mem late
  obtain ⟨begun, _, allTurns, counted⟩ := law
  have noTurn : turns token (earlier ++ [.event (.began token)]) = [] := by
    rw [turns_append, lawful.of_append.turns_eq_nil unbegun]
    rfl
  have noFire : fired token (earlier ++ [.event (.began token)]) = [] :=
    List.eq_nil_of_subset_nil (noTurn ▸ (fired_sublist_turns token _).subset)
  have start : Begun token (earlier ++ [.event (.began token)]) := by simp [Begun]
  have upToEnd : Lawful ((earlier ++ [.event (.began token)] ++ within) ++
      .event (.ended token count) :: after) := by
    simpa using whole
  have throughEnd : Lawful ((earlier ++ [.event (.began token)] ++ within ++
      [.event (.ended token count)]) ++ after) := by
    simpa using whole
  refine ⟨within, count, after, rfl, ?_, ?_, ?_, ?_⟩
  · have sameLeft : linksLeft token (earlier ++ [.event (.began token)]) =
        linksLeft token earlier := by
      simp [linksLeft, issued, unlinked, DeathRecord.issued?, DeathRecord.unlinked?]
    rw [turns_append, noTurn, List.nil_append,
      upToEnd.of_append.linksLeft_frozen start, sameLeft] at allTurns
    exact allTurns
  · rw [counted, fired_append, noFire]
    rfl
  · exact lawful.of_append.turns_eq_nil unbegun
  · exact throughEnd.turns_eq_nil_of_ended ⟨count, by simp⟩

/-- In a lawful history in which every death has ended, each link of a token
fires at most once. -/
theorem nodup_fired (lawful : Lawful history)
    (closed : ∀ token, Begun token history → Ended token history) (token : Nat) :
    ((fired token history).map (·.number)).Nodup := by
  have turnsNodup : ((turns token history).map (·.number)).Nodup := by
    by_cases begun : Begun token history
    · obtain ⟨earlier, later, rfl⟩ := List.append_of_mem begun
      obtain ⟨within, count, after, rfl, allTurns, _, before, afterwards⟩ :=
        death_of_ended lawful (closed token begun)
      have parts : earlier ++ .event (.began token) ::
          (within ++ .event (.ended token count) :: after) =
            earlier ++ [.event (.began token)] ++ within ++
              [.event (.ended token count)] ++ after := by simp
      have began : turns token [.event (.began token)] = [] := rfl
      have ended : turns token [.event (.ended token count)] = [] := rfl
      rw [parts, turns_append, turns_append, turns_append, turns_append, before, began,
        allTurns, ended, afterwards]
      simp only [List.nil_append, List.append_nil]
      exact (List.filter_sublist.map _).nodup (lawful.of_append.nodup_numbers token)
    · rw [lawful.turns_eq_nil begun]
      exact List.nodup_nil
  exact ((fired_sublist_turns token history).map _).nodup turnsNodup

/-! ## The life of links in a run -/

/-- What the account of a run says about the life of death links, and what the
registry shows of it in the end. -/
structure LinkLives (history : List DeathRecord) (registry : DeathRegistry) : Prop where
  distinct : ∀ token, ((issued token history).map (·.number)).Nodup
  linked : ∀ earlier token link recipient later,
    history = earlier ++ .event (.linked token link recipient) :: later →
      ¬ Begun token earlier
  linkRefused : ∀ earlier token error later,
    history = earlier ++ .linkRefused token error :: later →
      error = .alreadyDead ∧ Begun token earlier
  unlinked : ∀ earlier token link later,
    history = earlier ++ .event (.unlinked token link) :: later →
      Removable token link earlier
  unlinkRefused : ∀ earlier token link error later,
    history = earlier ++ .unlinkRefused token link error :: later →
      error = .notLinked ∧ ¬ Removable token link earlier
  /-- A death begins once, gives each link that is left its turn, and ends with
  the number of links that fired; no link has its turn outside. -/
  death : ∀ earlier token later, history = earlier ++ .event (.began token) :: later →
    ¬ Begun token earlier ∧
      ∃ within count after, later = within ++ .event (.ended token count) :: after ∧
        turns token within = linksLeft token earlier ∧
          (fired token within).length = count ∧
            turns token earlier = [] ∧ turns token after = []
  told : ∀ earlier token link recipient name later,
    history = earlier ++ .event (.told token link recipient name) :: later →
      Existing recipient earlier
  missed : ∀ earlier token link recipient later,
    history = earlier ++ .missed token link recipient :: later →
      ¬ Existing recipient earlier
  firedOnce : ∀ token, ((fired token history).map (·.number)).Nodup
  redeclared : ∀ earlier token later, history = earlier ++ .redeclared token :: later →
    Begun token earlier
  alive : ∀ token state, registry.tokens[token]? = some state →
    (state.alive = true ↔ ¬ Begun token history)
  existing : ∀ recipient, recipient < registry.recipients.length →
    ((registry.existing? recipient).isSome = true ↔ Existing recipient history)

theorem Recorded.linkLives {registry : DeathRegistry} (recorded : Recorded history registry)
    (closed : ∀ token, Begun token history → Ended token history) :
    LinkLives history registry where
  distinct := recorded.lawful.nodup_numbers
  linked earlier token link recipient later split := (recorded.lawful _ _ _ split).1
  linkRefused earlier token error later split := recorded.lawful _ _ _ split
  unlinked earlier token link later split := recorded.lawful _ _ _ split
  unlinkRefused earlier token link error later split := recorded.lawful _ _ _ split
  death := by
    rintro earlier token later rfl
    exact ⟨recorded.lawful _ _ _ rfl,
      death_of_ended recorded.lawful (closed token (by simp [Begun]))⟩
  told earlier token link recipient name later split := (recorded.lawful _ _ _ split).2
  missed earlier token link recipient later split := (recorded.lawful _ _ _ split).2
  firedOnce := nodup_fired recorded.lawful closed
  redeclared earlier token later split := recorded.lawful _ _ _ split
  alive token state found := (recorded.tokens token state found).alive
  existing recipient within := recorded.existing_iff within

/-! ## What calls answer -/

section Calls

variable {processes : ProcessTable} {notify : DeathRegistry.Notification}
  {registry : DeathRegistry} {depth : Nat}

/-- What the calls of one token answer is what the account holds of them; a call
that is refused or comes too late changes nothing else. -/
structure CallsAccounted (processes : ProcessTable) (notify : DeathRegistry.Notification)
    (registry : DeathRegistry) (token : Nat) : Prop where
  link : ∀ name, (∃ number recipient after,
      registry.performWith processes notify (.link token name) =
          ⟨after, .linked number, [.event (.linked token number recipient)]⟩ ∧
        after.find? name = some recipient) ∨
    ∃ error after, registry.performWith processes notify (.link token name) =
        ⟨after, .refused error, [.linkRefused token error]⟩ ∧ after.tokens = registry.tokens
  unlink : ∀ link, (∃ after, registry.performWith processes notify (.unlink token link) =
      ⟨after, .unlinked, [.event (.unlinked token link)]⟩) ∨
    ∃ error, registry.performWith processes notify (.unlink token link) =
      ⟨registry, .refused error, [.unlinkRefused token link error]⟩
  die : (∃ count within after, registry.performWith processes notify (.die token) =
      ⟨after, .notified count,
        .event (.began token) :: (within ++ [.event (.ended token count)])⟩) ∨
    registry.performWith processes notify (.die token) =
      ⟨registry, .notified 0, [.redeclared token]⟩
  watch : ∀ process, (∃ count within after,
      registry.performWith processes notify (.watch token process) =
        ⟨after, .watched .processGone,
          (WatchFinding.report process .processGone).map (fun entry =>
              .event (.logged entry)) ++
            .event (.began token) :: (within ++ [.event (.ended token count)])⟩) ∨
    ∃ finding, finding ≠ .processGone ∧
      registry.performWith processes notify (.watch token process) =
        ⟨registry, .watched finding,
          (WatchFinding.report process finding).map fun entry => .event (.logged entry)⟩

theorem find?_obtain (registry : DeathRegistry) (name : String) :
    (registry.obtain name).2.find? name = some (registry.obtain name).1 := by
  unfold DeathRegistry.obtain
  cases found : registry.find? name with
  | some recipient => exact found
  | none =>
      have nobody := List.findIdx?_eq_none_iff.mp found
      simp only [DeathRegistry.find?]
      rw [List.findIdx?_append, List.findIdx?_eq_none_iff.mpr nobody]
      simp

theorem notifyWithin_cases {state : ClientToken Nat}
    (found : registry.tokens[token]? = some state) (processes : ProcessTable)
    (fits : registry.liveTokens ≤ depth) :
    (state.alive = true ∧ ∃ count within after,
      DeathRegistry.notifyWithin processes depth registry token =
        ⟨after, count, .event (.began token) :: (within ++ [.event (.ended token count)])⟩) ∨
      state.alive = false ∧
        DeathRegistry.notifyWithin processes depth registry token =
          ⟨registry, 0, [.redeclared token]⟩ := by
  cases depth with
  | zero => exact .inr ⟨dead_of_liveTokens found (Nat.le_zero.mp fits), rfl⟩
  | succ depth =>
      simp only [DeathRegistry.notifyWithin, found, Option.bind_some, ClientToken.die]
      by_cases alive : state.alive = true
      · simp only [if_pos alive]
        exact .inl ⟨alive, _, _, _, rfl⟩
      · simp only [if_neg alive]
        exact .inr ⟨Bool.eq_false_iff.mpr alive, trivial⟩

theorem callsAccounted {state : ClientToken Nat}
    (found : registry.tokens[token]? = some state) (fits : registry.liveTokens ≤ depth)
    (same : notify registry token =
      DeathRegistry.notifyWithin processes depth registry token) :
    CallsAccounted processes notify registry token where
  link name := by
    have named := find?_obtain registry name
    simp only [DeathRegistry.performWith, found, DeathRegistry.link, ClientToken.link]
    by_cases alive : state.alive = true
    · simp only [if_pos alive]
      exact .inl ⟨_, _, _, rfl, named⟩
    · simp only [if_neg alive]
      exact .inr ⟨_, _, rfl, tokens_obtain registry name⟩
  unlink link := by
    simp only [DeathRegistry.performWith, found, DeathRegistry.unlink, ClientToken.unlink]
    by_cases held : state.links.any (·.number == link) = true
    · simp only [if_pos held]
      exact .inl ⟨_, rfl⟩
    · simp only [if_neg held]
      exact .inr ⟨_, rfl⟩
  die := by
    simp only [DeathRegistry.performWith, found, same]
    rcases notifyWithin_cases found processes fits with
      ⟨_, count, within, after, death⟩ | ⟨_, late⟩
    · rw [death]
      exact .inl ⟨count, within, after, rfl⟩
    · rw [late]
      exact .inr rfl
  watch process := by
    simp only [DeathRegistry.performWith, found, same]
    rcases notifyWithin_cases found processes fits with
      ⟨alive, count, within, after, death⟩ | ⟨dead, _⟩
    · cases processes.alive process with
      | true =>
          have finding : WatchFinding.of state.alive true = .running := by
            simp [WatchFinding.of, alive]
          simp only [finding]
          exact .inr ⟨.running, by simp, rfl⟩
      | false =>
          have finding : WatchFinding.of state.alive false = .processGone := by
            simp [WatchFinding.of, alive]
          simp only [finding, death]
          exact .inl ⟨count, within, after, rfl⟩
    · have finding : WatchFinding.of state.alive (processes.alive process) = .tokenDead := by
        simp [WatchFinding.of, dead]
      simp only [finding]
      exact .inr ⟨.tokenDead, by simp, rfl⟩

end Calls

/-- In every run, whatever the recipients that are told do in the middle, the
links of a token live as told: they get different numbers, come and go only while
the token lives, and fire at most once, in the one death of their token, which
counts them.  Calls answer at every depth what the account holds of them. -/
theorem death_links_live_once (tokens : List (Option UInt32))
    (steps : List (ProcessTable × DeathAction)) :
    LinkLives ((DeathRegistry.fresh tokens).performAll steps).records
        ((DeathRegistry.fresh tokens).performAll steps).registry ∧
      ∀ processes registry token state, registry.tokens[token]? = some state →
        CallsAccounted processes (DeathRegistry.notify processes) registry token ∧
          ∀ depth, registry.liveTokens ≤ depth →
            CallsAccounted processes (DeathRegistry.notifyWithin processes depth) registry
              token := by
  constructor
  · have run := continues_performAll steps (Recorded.fresh tokens)
    have closed := run.closed
    exact run.recorded.linkLives closed
  · intro processes registry token state found
    exact ⟨callsAccounted found (Nat.le_refl _) rfl,
      fun depth fits => callsAccounted found fits rfl⟩

/-- In the middle of the first death "ann" removes a link in vain, gives up "bob",
whose turn is next, and declares two more deaths.  Both links of the first token
have had their turn, and the link of the second fired within the first death.  In
the end calls of the first token are answered as told, at any depth. -/
theorem death_links_live_once_nested :
    let steps : List DeathAction :=
      [.link 0 "ann", .link 0 "bob", .link 1 "ann",
        .onDeath "ann" [.unlink 0 2, .drop "bob", .die 1, .die 0], .die 0]
    let run := (DeathRegistry.fresh [none, none]).performAll
      (steps.map fun action => (⟨fun _ => true⟩, action))
    let processes : ProcessTable := ⟨fun _ => true⟩
    run.answer = [.linked 1, .linked 2, .linked 1, .known true, .notified 1] ∧
      run.registry.tokens[0]? = some ⟨none, false, 3, []⟩ ∧ run.registry.liveTokens = 0 ∧
        CallsAccounted processes (DeathRegistry.notify processes) run.registry 0 ∧
          CallsAccounted processes (DeathRegistry.notifyWithin processes 0) run.registry 0 ∧
            (fired 1 run.records).length = 1 ∧
              ∃ earlier within count after, run.records =
                  earlier ++ .event (.began 0) :: (within ++ .event (.ended 0 count) :: after) ∧
                turns 0 within = [⟨1, 0⟩, ⟨2, 1⟩] ∧ (fired 0 within).length = count := by
  intro steps run processes
  obtain ⟨lives, calls⟩ := death_links_live_once [none, none]
    (steps.map fun action => (⟨fun _ => true⟩, action))
  have dead : run.registry.tokens[0]? = some ⟨none, false, 3, []⟩ := rfl
  obtain ⟨outermost, nested⟩ := calls processes run.registry 0 _ dead
  have split : run.records =
      run.records.take 3 ++ .event (.began 0) :: run.records.drop 4 := rfl
  obtain ⟨_, within, count, after, rest, turns, counted, _⟩ := lives.death _ _ _ split
  refine ⟨rfl, dead, rfl, outermost, nested 0 (Nat.le_refl 0), rfl,
    run.records.take 3, within, count, after, ?_, turns, counted⟩
  rw [← rest]
  exact split

end DeathHistory

end BiometricSession
