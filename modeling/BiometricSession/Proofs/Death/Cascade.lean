import BiometricSession.Proofs.Death.Recorded

/-!
# Cascades and their history

A stretch of a cascade continues a history if the registry is still what the
history tells, whoever is being told is so again at the end, every death that
begins in it has ended, and no death that had begun before is touched.

Notifications call recipients, which declare further deaths in the middle.  The
nested stretches are therefore dealt with by induction on the depth, with one
statement for every way of declaring a death: if as many nested deaths are
provided for as there are live tokens, declaring one continues any history.
-/

namespace BiometricSession

/-- Whether an entry has nothing to do with the course of a death. -/
def DeathRecord.isPlain : DeathRecord → Bool
  | event (.began _) | event (.told ..) | event (.ended ..) | missed .. => false
  | _ => true

namespace DeathHistory

variable {token recipient depth : Nat} {history : List DeathRecord} {record : DeathRecord}
  {registry before middle after : DeathRegistry} {own : Nat → Prop}

/-! ## Live tokens -/

theorem liveTokens_setToken {old : ClientToken Nat}
    (found : registry.tokens[token]? = some old) (state : ClientToken Nat) :
    (registry.setToken token state).liveTokens + old.alive.toNat =
      registry.liveTokens + state.alive.toNat := by
  obtain ⟨within, isOld⟩ := List.getElem?_eq_some_iff.mp found
  unfold DeathRegistry.liveTokens DeathRegistry.setToken
  rw [List.countP_set within, isOld]
  cases alive : old.alive with
  | false => cases state.alive <;> simp
  | true =>
      have positive : 0 < registry.tokens.countP (·.alive) :=
        List.countP_pos_iff.mpr ⟨old, List.mem_of_getElem? found, alive⟩
      cases state.alive <;> simp <;> omega

theorem dead_of_liveTokens {state : ClientToken Nat}
    (found : registry.tokens[token]? = some state) (none : registry.liveTokens = 0) :
    state.alive = false := by
  have dead := List.countP_eq_zero.mp none state (List.mem_of_getElem? found)
  simpa using dead

/-- Making a recipient changes no token. -/
theorem tokens_obtain (registry : DeathRegistry) (name : String) :
    (registry.obtain name).2.tokens = registry.tokens := by
  unfold DeathRegistry.obtain
  cases registry.find? name <;> rfl

/-! ## Stretches -/

/-- A stretch of a cascade continues a history.  The deaths of some tokens may be
its own business. -/
structure Continues (own : Nat → Prop) (history : List DeathRecord)
    (before : DeathRegistry) (records : List DeathRecord) (after : DeathRegistry) :
    Prop where
  recorded : Recorded (history ++ records) after
  beingTold_eq : after.beingTold = before.beingTold
  live_le : after.liveTokens ≤ before.liveTokens
  closed : ∀ token, Begun token records → Ended token records
  untouched : ∀ token, Begun token history → ¬ own token →
    turns token records = [] ∧ ¬ Ended token records

/-- A stretch that leaves all deaths alone that had begun before. -/
abbrev Calm : Nat → Prop :=
  fun _ => False

namespace Continues

/-- A change that the history need not account for. -/
theorem silent (recorded : Recorded history after)
    (told : after.beingTold = before.beingTold)
    (live : after.liveTokens ≤ before.liveTokens) :
    Continues own history before [] after where
  recorded := by simpa using recorded
  beingTold_eq := told
  live_le := live
  closed token begun := by simp [Begun] at begun
  untouched token _ _ := ⟨rfl, by simp [Ended]⟩

theorem refl (recorded : Recorded history registry) :
    Continues own history registry [] registry :=
  silent recorded rfl (Nat.le_refl _)

theorem trans {records more : List DeathRecord}
    (front : Continues own history before records middle)
    (back : Continues own (history ++ records) middle more after) :
    Continues own history before (records ++ more) after where
  recorded := by simpa using back.recorded
  beingTold_eq := back.beingTold_eq.trans front.beingTold_eq
  live_le := Nat.le_trans back.live_le front.live_le
  closed token begun := by
    rcases begun_append.mp begun with first | second
    · exact (front.closed token first).append more
    · exact ended_append.mpr (.inr (back.closed token second))
  untouched token begun notOwn := by
    obtain ⟨noTurn, noEnd⟩ := front.untouched token begun notOwn
    obtain ⟨noTurnLater, noEndLater⟩ := back.untouched token (begun.append records) notOwn
    refine ⟨by rw [turns_append, noTurn, noTurnLater]; rfl, ?_⟩
    intro ended
    exact (ended_append.mp ended).elim noEnd noEndLater

/-- An entry that has nothing to do with the course of a death. -/
theorem single (recorded : Recorded (history ++ [record]) after)
    (plain : record.isPlain = true) (told : after.beingTold = before.beingTold)
    (live : after.liveTokens ≤ before.liveTokens) :
    Continues own history before [record] after where
  recorded := recorded
  beingTold_eq := told
  live_le := live
  closed token begun := by
    obtain rfl := List.mem_singleton.mp begun
    cases plain
  untouched token _ _ := by
    constructor
    · cases record with
      | event happened => cases happened <;> first | rfl | cases plain
      | missed => cases plain
      | _ => rfl
    · rintro ⟨count, member⟩
      obtain rfl := List.mem_singleton.mp member
      cases plain

/-- A remark on a registry that stays as it is. -/
theorem remark (recorded : Recorded history registry) (law : Law history record)
    (plain : record.isPlain = true) (noToken : record.changes? = none)
    (noGift : ∀ recipient, record ≠ .givenUp recipient)
    (noTurn : ∀ recipient, record.tells recipient = false ∧
      record.settles recipient = false) :
    Continues own history registry [record] registry :=
  single (recorded.remark law noToken noGift noTurn) plain rfl (Nat.le_refl _)

end Continues

/-! ## Single actions -/

theorem continues_link (recorded : Recorded history registry) {state : ClientToken Nat}
    (found : registry.tokens[token]? = some state) (name : String) :
    Continues Calm history registry (registry.link token state name).records
      (registry.link token state name).registry := by
  obtain ⟨known, within, tokens, told⟩ := recorded.obtain name
  have stillFound : (registry.obtain name).2.tokens[token]? = some state := by
    rw [tokens, found]
  have sameLive : (registry.obtain name).2.liveTokens = registry.liveTokens := by
    rw [DeathRegistry.liveTokens, tokens]
    rfl
  unfold DeathRegistry.link ClientToken.link
  by_cases alive : state.alive = true
  · simp only [if_pos alive]
    refine .single (known.link stillFound alive within) rfl told ?_
    have counted := liveTokens_setToken stillFound
      { state with
        nextLink := state.nextLink + 1
        links := state.links ++ [⟨state.nextLink, (registry.obtain name).1⟩] }
    rw [sameLive] at counted
    exact Nat.le_of_eq (Nat.add_right_cancel counted)
  · simp only [if_neg alive]
    have law : Law history (.linkRefused token .alreadyDead) :=
      ⟨rfl, recorded.begun found (Bool.eq_false_iff.mpr alive)⟩
    refine .single (known.remark law rfl (by simp) fun _ => ⟨rfl, rfl⟩) rfl told ?_
    exact Nat.le_of_eq sameLive

theorem continues_unlink (recorded : Recorded history registry) {state : ClientToken Nat}
    (found : registry.tokens[token]? = some state) (number : Nat) :
    Continues Calm history registry (registry.unlink token state number).records
      (registry.unlink token state number).registry := by
  unfold DeathRegistry.unlink ClientToken.unlink
  cases held : state.links.any (·.number == number) with
  | true =>
      simp only [if_true]
      refine .single (recorded.unlink found held) rfl rfl ?_
      have counted := liveTokens_setToken found
        { state with links := state.links.filter (·.number != number) }
      exact Nat.le_of_eq (Nat.add_right_cancel counted)
  | false =>
      simp only [Bool.false_eq_true, if_false]
      have law : Law history (.unlinkRefused token number .notLinked) := by
        refine ⟨rfl, fun removable => ?_⟩
        simp [(recorded.removable_iff found number).mpr removable] at held
      exact .remark recorded law rfl rfl (by simp) fun _ => ⟨rfl, rfl⟩

/-- A way of declaring deaths that continues every history of a registry with no
more live tokens than `depth`. -/
def ContinuesWithin (depth : Nat) (notify : DeathRegistry.Notification) : Prop :=
  ∀ history registry token state, Recorded history registry →
    registry.tokens[token]? = some state → registry.liveTokens ≤ depth →
      Continues Calm history registry (notify registry token).records
        (notify registry token).registry

section Notify

variable {processes : ProcessTable} {notify : DeathRegistry.Notification}

theorem continues_report (recorded : Recorded history registry) (report : List LogRecord) :
    Continues Calm history registry (report.map fun entry => .event (.logged entry))
      registry := by
  induction report generalizing history with
  | nil => exact .refl recorded
  | cons entry report ih =>
      have first : Continues Calm history registry [.event (.logged entry)] registry :=
        .remark recorded trivial rfl rfl (by simp) fun _ => ⟨rfl, rfl⟩
      exact first.trans (ih first.recorded)

theorem continues_perform (within : ContinuesWithin depth notify)
    (recorded : Recorded history registry) (fits : registry.liveTokens ≤ depth)
    (action : DeathAction) :
    Continues Calm history registry
      (registry.performWith processes notify action).records
      (registry.performWith processes notify action).registry := by
  cases action with
  | link position name =>
      simp only [DeathRegistry.performWith]
      cases found : registry.tokens[position]? with
      | none => exact .refl recorded
      | some state => exact continues_link recorded found name
  | unlink position number =>
      simp only [DeathRegistry.performWith]
      cases found : registry.tokens[position]? with
      | none => exact .refl recorded
      | some state => exact continues_unlink recorded found number
  | drop name =>
      simp only [DeathRegistry.performWith, DeathRegistry.change]
      cases found : registry.find? name with
      | none => exact .refl recorded
      | some recipient =>
          exact .single (recorded.giveUp (Recorded.lt_length_of_find? found)) rfl rfl
            (Nat.le_refl _)
  | onDeath name reaction =>
      simp only [DeathRegistry.performWith, DeathRegistry.change]
      cases found : registry.find? name with
      | none => exact .refl recorded
      | some recipient =>
          exact .silent (recorded.change recipient reaction) rfl (Nat.le_refl _)
  | die position =>
      simp only [DeathRegistry.performWith]
      cases found : registry.tokens[position]? with
      | none => exact .refl recorded
      | some state => exact within _ _ _ state recorded found fits
  | watch position process =>
      simp only [DeathRegistry.performWith]
      cases found : registry.tokens[position]? with
      | none => exact .refl recorded
      | some state =>
          have reported := continues_report recorded
            ((WatchFinding.of state.alive (processes.alive process)).report process)
          cases finding : WatchFinding.of state.alive (processes.alive process) with
          | tokenDead => simpa only [finding] using reported
          | running => simpa only [finding] using reported
          | processGone =>
              simp only [finding] at reported ⊢
              exact reported.trans (within _ _ _ state reported.recorded found fits)
  | processAlive process => exact .refl recorded
  | look position =>
      simp only [DeathRegistry.performWith]
      cases registry.tokens[position]? <;> exact .refl recorded
  | unknown => exact .refl recorded

theorem continues_react (within : ContinuesWithin depth notify) (name : String)
    (actions : List DeathAction) (recorded : Recorded history registry)
    (fits : registry.liveTokens ≤ depth) :
    Continues Calm history registry
      (DeathRegistry.reactWith processes notify name actions registry).records
      (DeathRegistry.reactWith processes notify name actions registry).registry := by
  induction actions generalizing history registry with
  | nil => exact .refl recorded
  | cons action actions ih =>
      simp only [DeathRegistry.reactWith]
      have first : Continues Calm history registry
          (registry.performWith processes notify action).records
          (registry.performWith processes notify action).registry :=
        continues_perform within recorded fits action
      have answered : Continues Calm
          (history ++ (registry.performWith processes notify action).records)
          (registry.performWith processes notify action).registry
          [.event (.reacted name (registry.performWith processes notify action).answer)]
          (registry.performWith processes notify action).registry :=
        .remark first.recorded trivial rfl rfl (by simp) fun _ => ⟨rfl, rfl⟩
      have rest := ih answered.recorded (Nat.le_trans first.live_le fits)
      exact first.trans (answered.trans rest)

/-! ## Telling the recipients of a death -/

/-- A stretch in which some links have their turn in the death of a token, and
some of them fire. -/
structure Notifies (token : Nat) (history : List DeathRecord) (before : DeathRegistry)
    (links : List (DeathLink Nat)) (count : Nat) (records : List DeathRecord)
    (after : DeathRegistry) : Prop where
  continues : Continues (· = token) history before records after
  turns_eq : turns token records = links
  fired_length : (fired token records).length = count
  unended : ¬ Ended token records

theorem Notifies.trans {links others : List (DeathLink Nat)} {count more : Nat}
    {records rest : List DeathRecord}
    (front : Notifies token history before links count records middle)
    (back : Notifies token (history ++ records) middle others more rest after) :
    Notifies token history before (links ++ others) (count + more) (records ++ rest)
      after where
  continues := front.continues.trans back.continues
  turns_eq := by rw [turns_append, front.turns_eq, back.turns_eq]
  fired_length := by
    rw [fired_append, List.length_append, front.fired_length, back.fired_length]
  unended ended := (ended_append.mp ended).elim front.unended back.unended

/-- Somebody who exists is told at its turn and reacts. -/
theorem notifies_tell (within : ContinuesWithin depth notify)
    (recorded : Recorded history registry) (fits : registry.liveTokens ≤ depth)
    {link : DeathLink Nat} (next : NextInTurn token link history)
    (existing : Existing link.recipient history) (details : DeathRecipient) :
    Notifies token history registry [link] 1
      (.event (.told token link.number link.recipient details.name) ::
        (DeathRegistry.tellWith processes notify link.recipient details registry).records)
      (DeathRegistry.tellWith processes notify link.recipient details registry).registry := by
  have told : Recorded
      (history ++ [.event (.told token link.number link.recipient details.name)])
      { registry with beingTold := link.recipient :: registry.beingTold } := by
    have law : Law history
        (.event (.told token link.number link.recipient details.name)) := ⟨next, existing⟩
    refine recorded.entry law rfl (by simp) _ ?_
    intro other
    simp [List.count_cons, DeathRecord.tells, DeathRecord.settles]
  have reaction : Continues Calm _ _
      (DeathRegistry.reactWith processes notify details.name details.reaction
        { registry with beingTold := link.recipient :: registry.beingTold }).records
      (DeathRegistry.reactWith processes notify details.name details.reaction
        { registry with beingTold := link.recipient :: registry.beingTold }).registry :=
    continues_react within details.name details.reaction told fits
  simp only [DeathRegistry.tellWith]
  generalize DeathRegistry.reactWith processes notify details.name details.reaction
    { registry with beingTold := link.recipient :: registry.beingTold } = progress
      at reaction ⊢
  have settled : Recorded
      (history ++ [.event (.told token link.number link.recipient details.name)] ++
        progress.records ++ [.settled link.recipient])
      { progress.registry with
        beingTold := progress.registry.beingTold.erase link.recipient } := by
    have law : Law (history ++
        [.event (.told token link.number link.recipient details.name)] ++ progress.records)
        (.settled link.recipient) := trivial
    refine reaction.recorded.entry law rfl (by simp) _ ?_
    intro other
    rw [reaction.beingTold_eq, List.erase_cons_head]
    simp [List.count_cons, DeathRecord.tells, DeathRecord.settles]
  -- the reaction may declare any death, but this one has begun already
  obtain ⟨noTurn, noEnd⟩ := reaction.untouched token (next.1.append _) id
  have noFire : fired token progress.records = [] :=
    List.eq_nil_of_subset_nil (noTurn ▸ (fired_sublist_turns token progress.records).subset)
  have parts : .event (.told token link.number link.recipient details.name) ::
      (progress.records ++ [.settled link.recipient]) =
        [.event (.told token link.number link.recipient details.name)] ++
          progress.records ++ [.settled link.recipient] := by simp
  refine ⟨⟨?_, ?_, reaction.live_le, ?_, ?_⟩, ?_, ?_, ?_⟩
  · simpa using settled
  · simp only [reaction.beingTold_eq, List.erase_cons_head]
  · intro other begun
    have inner : Begun other progress.records := by simpa [Begun] using begun
    obtain ⟨count, member⟩ := reaction.closed other inner
    exact ⟨count, by simp [member]⟩
  · intro other begun notOwn
    obtain ⟨noOtherTurn, noOtherEnd⟩ := reaction.untouched other (begun.append _) id
    have apart : token ≠ other := fun same => notOwn same.symm
    refine ⟨?_, ?_⟩
    · rw [parts, turns_append, turns_append, noOtherTurn]
      simp [turns, DeathRecord.turn?, apart]
    · rintro ⟨count, member⟩
      exact noOtherEnd ⟨count, by simpa using member⟩
  · rw [parts, turns_append, turns_append, noTurn]
    simp [turns, DeathRecord.turn?]
  · rw [parts, fired_append, fired_append, noFire]
    simp [fired, DeathRecord.fired?]
  · rintro ⟨count, member⟩
    exact noEnd ⟨count, by simpa using member⟩

/-- The turn of a link passes if its recipient does not exist any more. -/
theorem notifies_missed (recorded : Recorded history registry) {link : DeathLink Nat}
    (next : NextInTurn token link history) (gone : ¬ Existing link.recipient history) :
    Notifies token history registry [link] 0
      [.missed token link.number link.recipient] registry := by
  have law : Law history (.missed token link.number link.recipient) := ⟨next, gone⟩
  refine ⟨⟨?_, rfl, Nat.le_refl _, ?_, ?_⟩, ?_, ?_, ?_⟩
  · exact recorded.remark law rfl (by simp) fun _ => ⟨rfl, rfl⟩
  · intro other begun
    simp [Begun] at begun
  · intro other begun notOwn
    have apart : token ≠ other := fun same => notOwn same.symm
    simp [turns, DeathRecord.turn?, apart, Ended]
  · simp [turns, DeathRecord.turn?]
  · simp [fired, DeathRecord.fired?]
  · simp [Ended]

/-- All links that are left when a death begins have their turns, in order. -/
theorem notifies_tellAll (within : ContinuesWithin depth notify)
    (links : List (DeathLink Nat)) (recorded : Recorded history registry)
    (fits : registry.liveTokens ≤ depth) (begun : Begun token history)
    (unended : ¬ Ended token history)
    (left : turns token history ++ links = linksLeft token history) :
    Notifies token history registry links
      (DeathRegistry.tellAllWith processes notify token links registry).answer
      (DeathRegistry.tellAllWith processes notify token links registry).records
      (DeathRegistry.tellAllWith processes notify token links registry).registry := by
  induction links generalizing history registry with
  | nil => exact ⟨.refl recorded, rfl, rfl, by simp [DeathRegistry.tellAllWith, Ended]⟩
  | cons link links ih =>
      have next : NextInTurn token link history :=
        ⟨begun, unended, links, by rw [← left]; simp⟩
      have held : link ∈ linksLeft token history := by simp [← left]
      have known : link.recipient < registry.recipients.length :=
        recorded.linkedKnown token link (List.mem_filter.mp held).1
      have existing := recorded.existing_iff known
      -- whatever happens in this turn, the rest of the links are left
      have rest : ∀ count records after,
          Notifies token history registry [link] count records after →
            Notifies token (history ++ records) after links
              (DeathRegistry.tellAllWith processes notify token links after).answer
              (DeathRegistry.tellAllWith processes notify token links after).records
              (DeathRegistry.tellAllWith processes notify token links after).registry := by
        intro count records after turn
        apply ih turn.continues.recorded (Nat.le_trans turn.continues.live_le fits)
          (begun.append records)
        · intro ended
          exact (ended_append.mp ended).elim unended turn.unended
        · rw [turns_append, turn.turns_eq,
            turn.continues.recorded.lawful.linksLeft_frozen begun, ← left,
            List.append_assoc]
          rfl
      simp only [DeathRegistry.tellAllWith]
      cases found : registry.existing? link.recipient with
      | none =>
          have gone : ¬ Existing link.recipient history := by
            rw [← existing, found]
            simp
          have turn := notifies_missed recorded next gone
          simpa using turn.trans (rest _ _ _ turn)
      | some details =>
          have stillThere : Existing link.recipient history := by
            rw [← existing, found]
            rfl
          have turn : Notifies token history registry [link] 1
              (.event (.told token link.number link.recipient details.name) ::
                (DeathRegistry.tellWith processes notify link.recipient details
                  registry).records)
              (DeathRegistry.tellWith processes notify link.recipient details
                registry).registry :=
            notifies_tell within recorded fits next stillThere details
          have both := turn.trans (rest _ _ _ turn)
          rw [Nat.add_comm] at both
          exact both

end Notify

/-! ## Declaring deaths -/

/-- A death that is declared of a dead token changes nothing. -/
theorem continues_redeclared (recorded : Recorded history registry)
    {state : ClientToken Nat} (found : registry.tokens[token]? = some state)
    (dead : state.alive = false) :
    Continues Calm history registry [.redeclared token] registry := by
  have law : Law history (.redeclared token) := recorded.begun found dead
  exact .remark recorded law rfl rfl (by simp) fun _ => ⟨rfl, rfl⟩

/-- A death that takes all links of a live token, tells those who exist and ends. -/
theorem continues_death {processes : ProcessTable} {notify : DeathRegistry.Notification}
    (within : ContinuesWithin depth notify) (recorded : Recorded history registry)
    {state : ClientToken Nat} (found : registry.tokens[token]? = some state)
    (alive : state.alive = true) (fits : registry.liveTokens ≤ depth + 1)
    {progress : DeathProgress Nat}
    (notified : progress =
      DeathRegistry.tellAllWith processes notify token state.links
        (registry.setToken token { state with alive := false, links := [] })) :
    Continues Calm history registry
      (.event (.began token) ::
        (progress.records ++ [.event (.ended token progress.answer)]))
      progress.registry := by
  have unbegun := recorded.not_begun found alive
  have died := recorded.die found alive
  have begun : Begun token (history ++ [.event (.began token)]) := by simp [Begun]
  have counted := liveTokens_setToken found { state with alive := false, links := [] }
  simp only [alive, Bool.toNat_true, Bool.toNat_false] at counted
  -- a death that had ended would have begun before, and this one has just begun
  have unended : ¬ Ended token (history ++ [.event (.began token)]) := by
    rintro ⟨count, member⟩
    have before : .event (.ended token count) ∈ history := by simpa using member
    have whole : Lawful ([] ++ history) := recorded.lawful
    obtain ⟨between, rest, rfl, law⟩ := whole.law_of_mem before
    exact unbegun (law.1.append _)
  have noTurn : turns token (history ++ [.event (.began token)]) = [] := by
    rw [turns_append, recorded.lawful.turns_eq_nil unbegun]
    rfl
  have left : linksLeft token (history ++ [.event (.began token)]) = state.links := by
    rw [(recorded.tokens token state found).left alive]
    simp [linksLeft, issued, unlinked, DeathRecord.issued?, DeathRecord.unlinked?]
  have told : Notifies token (history ++ [.event (.began token)])
      (registry.setToken token { state with alive := false, links := [] }) state.links
      progress.answer progress.records progress.registry := by
    rw [notified]
    exact notifies_tellAll within state.links died (by omega) begun unended
      (by rw [noTurn, left]; rfl)
  have noFire : fired token (history ++ [.event (.began token)]) = [] :=
    List.eq_nil_of_subset_nil (noTurn ▸ (fired_sublist_turns token _).subset)
  have law : Law (history ++ [.event (.began token)] ++ progress.records)
      (.event (.ended token progress.answer)) := by
    refine ⟨begun.append _, ?_, ?_, ?_⟩
    · intro ended
      exact (ended_append.mp ended).elim unended told.unended
    · rw [turns_append, noTurn, told.turns_eq,
        told.continues.recorded.lawful.linksLeft_frozen begun, left]
      rfl
    · rw [fired_append, noFire]
      exact told.fired_length.symm
  have finished : Recorded
      (history ++ [.event (.began token)] ++ progress.records ++
        [.event (.ended token progress.answer)]) progress.registry :=
    told.continues.recorded.remark law rfl (by simp) fun _ => ⟨rfl, rfl⟩
  refine ⟨by simpa using finished, told.continues.beingTold_eq, ?_, ?_, ?_⟩
  · exact Nat.le_trans told.continues.live_le (by omega)
  · intro other begins
    rcases List.mem_cons.mp begins with here | inside
    · obtain rfl : other = token := by simpa using here
      exact ⟨progress.answer, by simp⟩
    · have inner : Begun other progress.records := by simpa [Begun] using inside
      obtain ⟨count, member⟩ := told.continues.closed other inner
      exact ⟨count, by simp [member]⟩
  · intro other before _
    have apart : other ≠ token := by
      rintro rfl
      exact unbegun before
    obtain ⟨noOtherTurn, noOtherEnd⟩ :=
      told.continues.untouched other (before.append _) apart
    have parts : .event (.began token) ::
        (progress.records ++ [.event (.ended token progress.answer)]) =
          [.event (.began token)] ++ progress.records ++
            [.event (.ended token progress.answer)] := by simp
    refine ⟨?_, ?_⟩
    · rw [parts, turns_append, turns_append, noOtherTurn]
      rfl
    · rintro ⟨count, member⟩
      apply noOtherEnd
      refine ⟨count, ?_⟩
      simpa [apart] using member

/-- If as many nested deaths are provided for as there are live tokens, declaring
a death continues every history. -/
theorem continues_notifyWithin (processes : ProcessTable) (depth : Nat) :
    ContinuesWithin depth (DeathRegistry.notifyWithin processes depth) := by
  induction depth with
  | zero =>
      intro history registry token state recorded found fits
      have dead := dead_of_liveTokens found (Nat.le_zero.mp fits)
      exact continues_redeclared recorded found dead
  | succ depth ih =>
      intro history registry token state recorded found fits
      simp only [DeathRegistry.notifyWithin, found, Option.bind_some, ClientToken.die]
      by_cases alive : state.alive = true
      · simp only [if_pos alive]
        exact continues_death ih recorded found alive fits rfl
      · simp only [if_neg alive]
        exact continues_redeclared recorded found (Bool.eq_false_iff.mpr alive)

theorem continues_notify (processes : ProcessTable) (depth : Nat) :
    ContinuesWithin depth (DeathRegistry.notify processes) :=
  fun history registry token state recorded found _ =>
    continues_notifyWithin processes registry.liveTokens history registry token state
      recorded found (Nat.le_refl _)

end DeathHistory

end BiometricSession
