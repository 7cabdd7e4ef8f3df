import BiometricSession.Proofs.Death.History

/-!
# Registries as their history tells

A registry holds what a lawful history says: a token is alive until its death
has begun and holds the links that are left; a recipient is held until it is
given up; and those that are being told have been told more often than they have
settled.

Each change of a registry is paired here with the entry that accounts for it.
-/

namespace BiometricSession

/-- The token whose state an entry changes. -/
def DeathRecord.changes? : DeathRecord → Option Nat
  | event (.linked token ..) | event (.unlinked token _) | event (.began token) => some token
  | _ => none

namespace DeathHistory

variable {token recipient : Nat} {history : List DeathRecord} {record : DeathRecord}

/-- A token is in the state that a history tells. -/
structure TokenAgrees (token : Nat) (history : List DeathRecord)
    (state : ClientToken Nat) : Prop where
  alive : state.alive = true ↔ ¬ Begun token history
  left : state.alive = true → state.links = linksLeft token history
  bare : state.alive = false → state.links = []
  numbers : ∀ link ∈ issued token history, link.number < state.nextLink

theorem unchanged (other : record.changes? ≠ some token) :
    issued token [record] = [] ∧ unlinked token [record] = [] ∧ ¬ Begun token [record] := by
  cases record with
  | event happened =>
      cases happened with
      | linked position link recipient =>
          have apart : position ≠ token := fun same => other (congrArg some same)
          simp [issued, unlinked, Begun, DeathRecord.issued?, DeathRecord.unlinked?, apart]
      | unlinked position link =>
          have apart : position ≠ token := fun same => other (congrArg some same)
          simp [issued, unlinked, Begun, DeathRecord.issued?, DeathRecord.unlinked?, apart]
      | began position =>
          have apart : token ≠ position := fun same => other (congrArg some same.symm)
          simp [issued, unlinked, Begun, DeathRecord.issued?, DeathRecord.unlinked?, apart]
      | _ => simp [issued, unlinked, Begun, DeathRecord.issued?, DeathRecord.unlinked?]
  | _ => simp [issued, unlinked, Begun, DeathRecord.issued?, DeathRecord.unlinked?]

theorem linksLeft_unchanged (other : record.changes? ≠ some token) :
    linksLeft token (history ++ [record]) = linksLeft token history := by
  obtain ⟨noIssue, noRemoval, _⟩ := unchanged other
  simp only [linksLeft, issued_append, unlinked_append, noIssue, noRemoval, List.append_nil]

theorem TokenAgrees.unchanged {state : ClientToken Nat}
    (agrees : TokenAgrees token history state) (other : record.changes? ≠ some token) :
    TokenAgrees token (history ++ [record]) state := by
  obtain ⟨noIssue, noRemoval, noBeginning⟩ := DeathHistory.unchanged other
  refine ⟨?_, ?_, agrees.bare, ?_⟩
  · rw [agrees.alive, begun_append, or_iff_left noBeginning]
  · rw [linksLeft_unchanged other]
    exact agrees.left
  · rw [issued_append, noIssue, List.append_nil]
    exact agrees.numbers

/-- A registry is what a lawful history says. -/
structure Recorded (history : List DeathRecord) (registry : DeathRegistry) : Prop where
  lawful : Lawful history
  tokens : ∀ token state, registry.tokens[token]? = some state →
    TokenAgrees token history state
  linkedKnown : ∀ token, ∀ link ∈ issued token history,
    link.recipient < registry.recipients.length
  givenUpKnown : ∀ recipient, .givenUp recipient ∈ history →
    recipient < registry.recipients.length
  held : ∀ recipient details, registry.recipients[recipient]? = some details →
    (details.held = true ↔ .givenUp recipient ∉ history)
  told : ∀ recipient, registry.beingTold.count recipient +
    history.countP (·.settles recipient) = history.countP (·.tells recipient)

namespace Recorded

variable {registry : DeathRegistry}

theorem fresh (processes : List (Option UInt32)) :
    Recorded [] (DeathRegistry.fresh processes) where
  lawful := .nil
  tokens := by
    intro token state found
    simp only [DeathRegistry.fresh, List.getElem?_map, Option.map_eq_some_iff] at found
    obtain ⟨process, _, rfl⟩ := found
    refine ⟨?_, ?_, ?_, ?_⟩ <;>
      simp [ClientToken.fresh, Begun, linksLeft, issued]
  linkedKnown := by simp [issued]
  givenUpKnown := by simp
  held := by simp [DeathRegistry.fresh]
  told := by simp [DeathRegistry.fresh]

/-- An entry that changes no token and gives up no recipient; it may change who is
being told. -/
theorem entry (recorded : Recorded history registry) (law : Law history record)
    (noToken : record.changes? = none) (noGift : ∀ recipient, record ≠ .givenUp recipient)
    (beingTold : List Nat)
    (told : ∀ recipient, beingTold.count recipient + [record].countP (·.settles recipient) =
      registry.beingTold.count recipient + [record].countP (·.tells recipient)) :
    Recorded (history ++ [record]) { registry with beingTold } where
  lawful := recorded.lawful.snoc law
  tokens := by
    intro token state found
    exact (recorded.tokens token state found).unchanged (by simp [noToken])
  linkedKnown := by
    intro token
    rw [issued_append, (unchanged (by simp [noToken])).1, List.append_nil]
    exact recorded.linkedKnown token
  givenUpKnown := by
    intro recipient member
    rcases List.mem_append.mp member with before | now
    · exact recorded.givenUpKnown recipient before
    · exact absurd (List.mem_singleton.mp now).symm (noGift recipient)
  held := by
    intro recipient details found
    rw [recorded.held recipient details found, List.mem_append, List.mem_singleton,
      or_iff_left (noGift recipient).symm]
  told := by
    intro recipient
    have before := recorded.told recipient
    have now := told recipient
    rw [List.countP_append, List.countP_append]
    simp only
    omega

/-- An entry that says nothing of tokens, recipients and those being told. -/
theorem remark (recorded : Recorded history registry) (law : Law history record)
    (noToken : record.changes? = none) (noGift : ∀ recipient, record ≠ .givenUp recipient)
    (noTurn : ∀ recipient, record.tells recipient = false ∧
      record.settles recipient = false) :
    Recorded (history ++ [record]) registry := by
  refine recorded.entry law noToken noGift registry.beingTold ?_
  intro recipient
  simp [(noTurn recipient).1, (noTurn recipient).2]

/-- An entry that accounts for a change of one token. -/
theorem tokenEntry (recorded : Recorded history registry) (law : Law history record)
    {position : Nat} {state : ClientToken Nat}
    (changes : record.changes? = some position)
    (agrees : TokenAgrees position (history ++ [record]) state)
    (known : ∀ link ∈ issued position [record],
      link.recipient < registry.recipients.length) :
    Recorded (history ++ [record]) (registry.setToken position state) where
  lawful := recorded.lawful.snoc law
  tokens := by
    intro token other found
    by_cases here : position = token
    · subst here
      rw [DeathRegistry.setToken, List.getElem?_set_self'] at found
      simp at found
      obtain ⟨_, rfl⟩ := found
      exact agrees
    · rw [DeathRegistry.setToken, List.getElem?_set_ne here] at found
      refine (recorded.tokens token other found).unchanged ?_
      rw [changes]
      exact fun same => here (Option.some.inj same)
  linkedKnown := by
    intro token link member
    rw [issued_append] at member
    rcases List.mem_append.mp member with before | now
    · exact recorded.linkedKnown token link before
    · by_cases here : position = token
      · subst here
        exact known link now
      · have other : record.changes? ≠ some token := by
          rw [changes]
          exact fun same => here (Option.some.inj same)
        simp [(unchanged other).1] at now
  givenUpKnown := by
    intro recipient member
    rcases List.mem_append.mp member with before | now
    · exact recorded.givenUpKnown recipient before
    · rw [← List.mem_singleton.mp now] at changes
      cases changes
  held := by
    intro recipient details found
    have other : .givenUp recipient ≠ record := by
      rintro rfl
      cases changes
    rw [recorded.held recipient details found, List.mem_append, List.mem_singleton,
      or_iff_left other]
  told := by
    intro recipient
    have none : record.tells recipient = false ∧ record.settles recipient = false := by
      cases record with
      | event happened => cases happened <;> first | exact ⟨rfl, rfl⟩ | cases changes
      | _ => cases changes
    simpa [DeathRegistry.setToken, none.1, none.2] using recorded.told recipient

/-! ## Tokens -/

theorem not_begun (recorded : Recorded history registry) {state : ClientToken Nat}
    (found : registry.tokens[token]? = some state) (alive : state.alive = true) :
    ¬ Begun token history :=
  (recorded.tokens token state found).alive.mp alive

theorem begun (recorded : Recorded history registry) {state : ClientToken Nat}
    (found : registry.tokens[token]? = some state) (dead : state.alive = false) :
    Begun token history := by
  apply Classical.byContradiction
  intro alive
  have := (recorded.tokens token state found).alive.mpr alive
  simp [dead] at this

theorem link (recorded : Recorded history registry) {state : ClientToken Nat}
    (found : registry.tokens[token]? = some state) (alive : state.alive = true)
    (known : recipient < registry.recipients.length) :
    Recorded (history ++ [.event (.linked token state.nextLink recipient)])
      (registry.setToken token
        { state with
          nextLink := state.nextLink + 1
          links := state.links ++ [⟨state.nextLink, recipient⟩] }) := by
  have agrees := recorded.tokens token state found
  have new : state.nextLink ∉ (issued token history).map (·.number) := by
    intro old
    obtain ⟨link, member, same⟩ := List.mem_map.mp old
    exact absurd (agrees.numbers link member) (by omega)
  have kept : state.nextLink ∉ unlinked token history := fun removed =>
    new (recorded.lawful.issued_of_unlinked removed)
  have issue : issued token [.event (.linked token state.nextLink recipient)] =
      [⟨state.nextLink, recipient⟩] := by
    simp [issued, DeathRecord.issued?]
  have law : Law history (.event (.linked token state.nextLink recipient)) :=
    ⟨recorded.not_begun found alive, new⟩
  refine recorded.tokenEntry law rfl ⟨?_, ?_, ?_, ?_⟩ ?_
  · rw [begun_append, or_iff_left (by simp [Begun])]
    exact agrees.alive
  · intro _
    have removals :
        unlinked token [.event (.linked token state.nextLink recipient)] = [] := rfl
    simp only [linksLeft, issued_append, unlinked_append, issue, removals, List.append_nil,
      List.filter_append]
    rw [agrees.left alive, linksLeft]
    simp [kept]
  · intro dead
    simp [alive] at dead
  · intro link member
    rw [issued_append, issue] at member
    rcases List.mem_append.mp member with before | now
    · exact Nat.lt_succ_of_lt (agrees.numbers link before)
    · obtain rfl := List.mem_singleton.mp now
      exact Nat.lt_succ_self _
  · rw [issue]
    intro link member
    obtain rfl := List.mem_singleton.mp member
    exact known

/-- A token holds a link exactly if it can be removed. -/
theorem removable_iff (recorded : Recorded history registry) {state : ClientToken Nat}
    (found : registry.tokens[token]? = some state) (number : Nat) :
    state.links.any (·.number == number) = true ↔ Removable token number history := by
  have agrees := recorded.tokens token state found
  cases alive : state.alive with
  | true =>
      rw [agrees.left alive]
      simp only [linksLeft, List.any_filter, Removable, List.any_eq_true, List.mem_map]
      constructor
      · rintro ⟨link, issue, held⟩
        simp only [Bool.and_eq_true, decide_eq_true_eq, beq_iff_eq] at held
        obtain ⟨kept, rfl⟩ := held
        exact ⟨⟨link, issue, rfl⟩, kept, agrees.alive.mp alive⟩
      · rintro ⟨⟨link, issue, rfl⟩, kept, _⟩
        exact ⟨link, issue, by simp [kept]⟩
  | false =>
      rw [agrees.bare alive]
      simp only [List.any_nil, Bool.false_eq_true, false_iff]
      exact fun removable => removable.2.2 (recorded.begun found alive)

theorem unlink (recorded : Recorded history registry) {state : ClientToken Nat}
    (found : registry.tokens[token]? = some state) {number : Nat}
    (held : state.links.any (·.number == number) = true) :
    Recorded (history ++ [.event (.unlinked token number)])
      (registry.setToken token
        { state with links := state.links.filter (·.number != number) }) := by
  have agrees := recorded.tokens token state found
  have law : Law history (.event (.unlinked token number)) :=
    (recorded.removable_iff found number).mp held
  have issues : issued token [.event (.unlinked token number)] = [] := rfl
  have removal : unlinked token [.event (.unlinked token number)] = [number] := by
    simp [unlinked, DeathRecord.unlinked?]
  refine recorded.tokenEntry law rfl ⟨?_, ?_, ?_, ?_⟩ ?_
  · rw [begun_append, or_iff_left (by simp [Begun])]
    exact agrees.alive
  · intro alive
    simp only [linksLeft, issued_append, unlinked_append, issues, removal, List.append_nil]
    rw [agrees.left alive, linksLeft, List.filter_filter]
    congr 1
    funext link
    by_cases same : link.number = number <;> simp [same]
  · intro dead
    simp [agrees.bare dead]
  · rw [issued_append, issues, List.append_nil]
    exact agrees.numbers
  · simp [issues]

theorem die (recorded : Recorded history registry) {state : ClientToken Nat}
    (found : registry.tokens[token]? = some state) (alive : state.alive = true) :
    Recorded (history ++ [.event (.began token)])
      (registry.setToken token { state with alive := false, links := [] }) := by
  have agrees := recorded.tokens token state found
  have law : Law history (.event (.began token)) := recorded.not_begun found alive
  have issues : issued token [.event (.began token)] = [] := rfl
  refine recorded.tokenEntry law rfl ⟨?_, ?_, ?_, ?_⟩ ?_
  · simp [Begun]
  · intro again
    simp at again
  · intro _
    rfl
  · rw [issued_append, issues, List.append_nil]
    exact agrees.numbers
  · simp [issues]

/-! ## Recipients -/

/-- A change of recipients that makes, holds and gives up nobody. -/
theorem ofRecipients (recorded : Recorded history registry)
    {recipients : List DeathRecipient}
    (length_le : registry.recipients.length ≤ recipients.length)
    (held : ∀ recipient details, recipients[recipient]? = some details →
      (details.held = true ↔ .givenUp recipient ∉ history)) :
    Recorded history { registry with recipients } where
  lawful := recorded.lawful
  tokens := recorded.tokens
  linkedKnown token link member :=
    Nat.lt_of_lt_of_le (recorded.linkedKnown token link member) length_le
  givenUpKnown recipient member :=
    Nat.lt_of_lt_of_le (recorded.givenUpKnown recipient member) length_le
  held := held
  told := recorded.told

theorem lt_length_of_find? {name : String} (found : registry.find? name = some recipient) :
    recipient < registry.recipients.length := by
  obtain ⟨within, _⟩ := List.findIdx?_eq_some_iff_getElem.mp found
  exact within

theorem obtain (recorded : Recorded history registry) (name : String) :
    Recorded history (registry.obtain name).2 ∧
      (registry.obtain name).1 < (registry.obtain name).2.recipients.length ∧
        (registry.obtain name).2.tokens = registry.tokens ∧
          (registry.obtain name).2.beingTold = registry.beingTold := by
  unfold DeathRegistry.obtain
  cases found : registry.find? name with
  | some recipient => exact ⟨recorded, lt_length_of_find? found, rfl, rfl⟩
  | none =>
      refine ⟨recorded.ofRecipients (by simp) ?_, by simp, rfl, rfl⟩
      intro recipient details isDetails
      rcases Nat.lt_trichotomy recipient registry.recipients.length with old | new | beyond
      · rw [List.getElem?_append_left old] at isDetails
        exact recorded.held recipient details isDetails
      · subst new
        simp only [List.getElem?_concat_length, Option.some.injEq] at isDetails
        subst isDetails
        simp only [true_iff]
        exact fun gone => Nat.lt_irrefl _ (recorded.givenUpKnown _ gone)
      · rw [List.getElem?_eq_none (by simp; omega)] at isDetails
        cases isDetails

theorem change (recorded : Recorded history registry) (recipient : Nat)
    (reaction : List DeathAction) :
    Recorded history { registry with
      recipients := registry.recipients.modify recipient fun details =>
        { details with reaction } } := by
  refine recorded.ofRecipients (by simp) ?_
  intro other details isDetails
  rw [List.getElem?_modify, Option.map_eq_map, Option.map_eq_some_iff] at isDetails
  obtain ⟨before, found, rfl⟩ := isDetails
  rw [← recorded.held other before found]
  by_cases same : recipient = other <;> simp [same]

theorem giveUp (recorded : Recorded history registry)
    (known : recipient < registry.recipients.length) :
    Recorded (history ++ [.givenUp recipient]) { registry with
      recipients := registry.recipients.modify recipient fun details =>
        { details with held := false } } where
  lawful := recorded.lawful.snoc trivial
  tokens token state found :=
    (recorded.tokens token state found).unchanged (by simp [DeathRecord.changes?])
  linkedKnown := by
    intro token
    rw [issued_append, (unchanged (by simp [DeathRecord.changes?])).1, List.append_nil,
      List.length_modify]
    exact recorded.linkedKnown token
  givenUpKnown := by
    intro other member
    rw [List.length_modify]
    rcases List.mem_append.mp member with before | now
    · exact recorded.givenUpKnown other before
    · obtain ⟨rfl⟩ := DeathRecord.givenUp.inj (List.mem_singleton.mp now)
      exact known
  held := by
    intro other details isDetails
    rw [List.getElem?_modify, Option.map_eq_map, Option.map_eq_some_iff] at isDetails
    obtain ⟨before, found, rfl⟩ := isDetails
    have agrees := recorded.held other before found
    by_cases same : recipient = other
    · simp [same]
    · simp only [if_neg same, agrees, List.mem_append, List.mem_singleton,
        DeathRecord.givenUp.injEq, not_or]
      exact ⟨fun kept => ⟨kept, fun isSame => same isSame.symm⟩, fun kept => kept.1⟩
  told := by
    intro other
    simpa [DeathRecord.tells, DeathRecord.settles] using recorded.told other

/-- A recipient exists in a registry exactly if it does by the history. -/
theorem existing_iff (recorded : Recorded history registry)
    (known : recipient < registry.recipients.length) :
    (registry.existing? recipient).isSome = true ↔ Existing recipient history := by
  have found : registry.recipients[recipient]? = some registry.recipients[recipient] :=
    List.getElem?_eq_getElem known
  have held := recorded.held recipient _ found
  have told := recorded.told recipient
  have being : registry.beingTold.contains recipient = true ↔
      history.countP (·.settles recipient) < history.countP (·.tells recipient) := by
    rw [List.contains_iff_mem, ← List.count_pos_iff]
    omega
  unfold DeathRegistry.existing? Existing
  rw [found, Option.isSome_filter, Option.any_some, Bool.or_eq_true, held, being]

end Recorded

end DeathHistory

end BiometricSession
