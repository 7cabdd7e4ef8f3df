import BiometricSession.Proofs.Session.Holding
import BiometricSession.Proofs.World.Life
import Mathlib.Data.List.Nodup

/-!
# Links between tokens and sessions

A link is written down twice: the token lists the session under a number, and
the session holds the token and the number.  This file says what each command
does to either side.

Two facts hold in every run.  The links of a token are tidy: no number and no
session occurs twice, and a dead token lists nobody.  And as long as nobody but
the sessions removes links, a live token lists every session that holds a link to
it, under the number that the session holds.
-/

namespace BiometricSession

/-! ## The links of one token -/

namespace ClientToken

variable {token : ClientToken Nat} {made : Nat}

/-- The recipients that a token lists, in the order in which they were linked. -/
def recipients (token : ClientToken Nat) : List Nat :=
  token.links.map (·.recipient)

/-- A token from which a link is removed, if it is there. -/
def without (token : ClientToken Nat) (number : Nat) : ClientToken Nat :=
  { token with links := token.links.filter (·.number != number) }

/-- A token to which one more recipient is linked. -/
def joined (token : ClientToken Nat) (recipient : Nat) : ClientToken Nat :=
  { token with
    nextLink := token.nextLink + 1
    links := token.links ++ [⟨token.nextLink, recipient⟩] }

/-- A token whose process has died. -/
def dead (token : ClientToken Nat) : ClientToken Nat :=
  { token with alive := false, links := [] }

theorem unlink_cases (token : ClientToken Nat) (number : Nat) :
    token.unlink number = .ok (token.without number) ∨
      token.unlink number = .error .notLinked ∧ token.without number = token := by
  unfold unlink
  cases known : token.links.any (·.number == number) with
  | true => exact .inl rfl
  | false =>
      refine .inr ⟨rfl, ?_⟩
      have none : token.links.filter (·.number != number) = token.links := by
        rw [List.filter_eq_self]
        intro link member
        have other := List.any_eq_false.mp known link member
        simpa using other
      simp [without, none]

/-- The links of a token are in order, given how many sessions were made. -/
structure Tidy (token : ClientToken Nat) (made : Nat) : Prop where
  numbered : ∀ link ∈ token.links, link.number < token.nextLink
  numbers_nodup : (token.links.map (·.number)).Nodup
  recipients_nodup : token.recipients.Nodup
  recipients_lt : ∀ recipient ∈ token.recipients, recipient < made
  dead_bare : token.alive = false → token.links = []

namespace Tidy

theorem fresh (process : Option UInt32) : (ClientToken.fresh process).Tidy made := by
  constructor <;> simp [ClientToken.fresh, recipients]

theorem mono {more : Nat} (tidy : token.Tidy made) (le : made ≤ more) : token.Tidy more :=
  { tidy with
    recipients_lt := fun recipient listed =>
      Nat.lt_of_lt_of_le (tidy.recipients_lt recipient listed) le }

theorem without (tidy : token.Tidy made) (number : Nat) : (token.without number).Tidy made := by
  have fewer : (token.without number).links.Sublist token.links := List.filter_sublist
  refine ⟨?_, ?_, ?_, ?_, ?_⟩
  · intro link member
    exact tidy.numbered link (fewer.subset member)
  · exact (fewer.map _).nodup tidy.numbers_nodup
  · exact (fewer.map _).nodup tidy.recipients_nodup
  · intro recipient listed
    exact tidy.recipients_lt recipient ((fewer.map _).subset listed)
  · intro dead
    simp [ClientToken.without, tidy.dead_bare dead]

theorem dead (token : ClientToken Nat) (made : Nat) : token.dead.Tidy made := by
  constructor <;> simp [ClientToken.dead, recipients]

theorem joined (tidy : token.Tidy made) (alive : token.alive = true) :
    (token.joined made).Tidy (made + 1) := by
  have recipients_eq : (token.joined made).recipients = token.recipients ++ [made] := by
    simp [ClientToken.joined, recipients]
  refine ⟨?_, ?_, ?_, ?_, ?_⟩
  · intro link member
    rcases List.mem_append.mp member with before | isNew
    · exact Nat.lt_succ_of_lt (tidy.numbered link before)
    · obtain rfl := List.mem_singleton.mp isNew
      exact Nat.lt_succ_self _
  · have isFresh : token.nextLink ∉ token.links.map (·.number) := by
      intro taken
      obtain ⟨link, member, same⟩ := List.mem_map.mp taken
      exact absurd same (Nat.ne_of_lt (tidy.numbered link member))
    simpa [ClientToken.joined, List.nodup_append, tidy.numbers_nodup] using isFresh
  · have isFresh : made ∉ token.recipients := fun listed =>
      Nat.lt_irrefl _ (tidy.recipients_lt made listed)
    rw [recipients_eq]
    exact List.nodup_append.mpr ⟨tidy.recipients_nodup, List.nodup_singleton made, by
      intro recipient listed other isMade same
      obtain rfl := List.mem_singleton.mp isMade
      exact isFresh (same ▸ listed)⟩
  · intro recipient listed
    rw [recipients_eq] at listed
    rcases List.mem_append.mp listed with before | isNew
    · exact Nat.lt_succ_of_lt (tidy.recipients_lt recipient before)
    · obtain rfl := List.mem_singleton.mp isNew
      exact Nat.lt_succ_self _
  · intro isDead
    simp [ClientToken.joined, alive] at isDead

theorem link_unique_number (tidy : token.Tidy made) {first second : DeathLink Nat}
    (isFirst : first ∈ token.links) (isSecond : second ∈ token.links)
    (same : first.number = second.number) : first = second :=
  List.inj_on_of_nodup_map tidy.numbers_nodup isFirst isSecond same

theorem link_unique_recipient (tidy : token.Tidy made) {first second : DeathLink Nat}
    (isFirst : first ∈ token.links) (isSecond : second ∈ token.links)
    (same : first.recipient = second.recipient) : first = second :=
  List.inj_on_of_nodup_map tidy.recipients_nodup isFirst isSecond same

theorem mem_recipients_without (tidy : token.Tidy made) {link : DeathLink Nat}
    (linked : link ∈ token.links) (recipient : Nat) :
    recipient ∈ (token.without link.number).recipients ↔
      recipient ∈ token.recipients ∧ recipient ≠ link.recipient := by
  constructor
  · intro listed
    obtain ⟨other, member, rfl⟩ := List.mem_map.mp listed
    obtain ⟨isOther, kept⟩ := List.mem_filter.mp member
    refine ⟨List.mem_map.mpr ⟨other, isOther, rfl⟩, ?_⟩
    intro same
    obtain rfl := tidy.link_unique_recipient isOther linked same
    simp at kept
  · rintro ⟨listed, differs⟩
    obtain ⟨other, isOther, rfl⟩ := List.mem_map.mp listed
    refine List.mem_map.mpr ⟨other, List.mem_filter.mpr ⟨isOther, ?_⟩, rfl⟩
    simp only [bne_iff_ne, ne_eq]
    intro same
    exact differs (congrArg _ (tidy.link_unique_number isOther linked same))

end Tidy

end ClientToken

namespace World

variable {Action : Type} {world : World Action} {position token : Nat}

/-- The token at a position, if there is one, lists a session. -/
def Lists (world : World Action) (token position : Nat) : Prop :=
  ∃ state, world.tokens[token]? = some state ∧ position ∈ state.recipients

/-- Whether the token at a position is alive, if there is one. -/
def aliveAt (world : World Action) (token : Nat) : Option Bool :=
  world.tokens[token]?.map (·.alive)

/-- The links of every token are in order. -/
def Tidy (world : World Action) : Prop :=
  ∀ (token : Nat) (state : ClientToken Nat), world.tokens[token]? = some state →
    state.Tidy world.monitors.length

/-- Every session that holds a link is listed under the number that it holds,
unless its client has died. -/
def Holding (world : World Action) : Prop :=
  ∀ position monitor token link, world.monitor? position = some monitor →
    monitor.session.Holds token link →
      ∃ state, world.tokens[token]? = some state ∧
        (state.alive = true → ⟨link, position⟩ ∈ state.links)

/-- The session at a position holds a link to a token. -/
def HoldsAt (world : World Action) (position token : Nat) : Prop :=
  ∃ monitor link, world.monitor? position = some monitor ∧ monitor.session.Holds token link

/-- All sessions of a world are sound. -/
def Sound (world : World Action) : Prop :=
  ∀ position monitor, world.monitor? position = some monitor → monitor.session.Sound

theorem holdsAt_iff {monitor : Monitor Action}
    (found : world.monitor? position = some monitor) :
    world.HoldsAt position token ↔ ∃ link, monitor.session.Holds token link := by
  simp [HoldsAt, found]

theorem not_holdsAt (absent : world.monitor? position = none) :
    ¬ world.HoldsAt position token := by
  simp [HoldsAt, absent]

theorem holdsAt_of_same {after : World Action}
    (same : after.monitor? position = world.monitor? position) :
    after.HoldsAt position token ↔ world.HoldsAt position token := by
  simp [HoldsAt, same]

/-- A session holds a link to one token at most. -/
theorem HoldsAt.unique {other : Nat} (first : world.HoldsAt position token)
    (second : world.HoldsAt position other) : token = other := by
  obtain ⟨monitor, link, found, holds⟩ := first
  obtain ⟨_, _, isMonitor, holdsOther⟩ := second
  obtain rfl := Option.some.inj (found.symm.trans isMonitor)
  exact Option.some.inj (holds.token_eq.symm.trans holdsOther.token_eq)

theorem getElem?_set_known {tokens : List (ClientToken Nat)} {number : Nat}
    {state : ClientToken Nat} (known : tokens[number]? = some state)
    (replacement : ClientToken Nat) (other : Nat) :
    (tokens.set number replacement)[other]? =
      if other = number then some replacement else tokens[other]? := by
  obtain ⟨within, _⟩ := List.getElem?_eq_some_iff.mp known
  rw [List.getElem?_set, if_pos within]
  simp only [eq_comm]

theorem Tidy.of_tokens_eq {after : World Action} (tidy : world.Tidy)
    (same : after.tokens = world.tokens)
    (le : world.monitors.length ≤ after.monitors.length) : after.Tidy := by
  intro token state known
  rw [same] at known
  exact (tidy token state known).mono le

theorem lists_of_tokens_eq {after : World Action} (same : after.tokens = world.tokens) :
    after.Lists token position ↔ world.Lists token position := by
  simp [Lists, same]

theorem aliveAt_of_tokens_eq {after : World Action} (same : after.tokens = world.tokens) :
    after.aliveAt token = world.aliveAt token := by
  simp [aliveAt, same]

/-! ## Removing a session's link -/

/-- The tokens of a world once a session's link is removed. -/
def released (world : World Action) (session : Session Action) : List (ClientToken Nat) :=
  match session.token, session.link with
  | some token, some link => world.tokens.modify token (·.without link)
  | _, _ => world.tokens

theorem foldl_applyEffect (effects : List Effect) (tokens : List (ClientToken Nat)) :
    effects.foldl applyEffect tokens =
      (effects.filter (·.isUnlink)).foldl applyEffect tokens := by
  induction effects generalizing tokens with
  | nil => rfl
  | cons effect effects ih =>
      cases effect with
      | unlink => exact ih _
      | _ => exact ih tokens

theorem modify_eq_self {tokens : List (ClientToken Nat)} {token : Nat}
    {change : ClientToken Nat → ClientToken Nat}
    (same : ∀ state, tokens[token]? = some state → change state = state) :
    tokens.modify token change = tokens := by
  apply List.ext_getElem?
  intro other
  rw [List.getElem?_modify]
  by_cases here : token = other
  · subst here
    cases known : tokens[token]? with
    | none => rfl
    | some state => simp [same state known]
  · simp [here]

/-- Whether or not its token refuses, a session that asks for it leaves the token
without its link. -/
theorem foldl_applyEffect_unlinks (answers : Answers) (session : Session Action)
    (refusal : answers.unlinkRefusal = world.unlinkRefusal session) :
    (session.unlinks answers).foldl applyEffect world.tokens = world.released session := by
  unfold Session.unlinks released
  cases held : session.token with
  | none => rfl
  | some token =>
      cases number : session.link with
      | none => rfl
      | some link =>
          have stays : ∀ error, answers.unlinkRefusal = some error →
              world.tokens.modify token (·.without link) = world.tokens := by
            intro error refused
            apply modify_eq_self
            intro state known
            rcases state.unlink_cases link with done | ⟨_, same⟩
            · simp [refusal, unlinkRefusal, held, number, known, done] at refused
            · exact same
          simp only [List.foldl_cons, List.foldl_nil]
          cases refused : answers.unlinkRefusal with
          | some error => exact (stays error refused).symm
          | none =>
              change world.tokens.modify token _ = _
              congr 1
              funext state
              rcases state.unlink_cases link with done | ⟨failed, same⟩
              · rw [done]
              · rw [failed, same]

section Action

variable [HardwareAction Action]

/-- Of all operations, only the destruction of a session changes the tokens. -/
theorem tokens_perform [ScopedAction Action] (world : World Action) (number : Nat)
    (monitor : Monitor Action) (operation : Operation) :
    (world.perform number monitor operation).world.tokens =
      if operation = .destroy then world.released monitor.session else world.tokens := by
  simp only [perform, settle]
  rw [foldl_applyEffect, Session.unlinks_perform]
  split
  · exact foldl_applyEffect_unlinks _ _ rfl
  · rfl

theorem tokens_drop (world : World Action) (number : Nat) (monitor : Monitor Action) :
    (world.drop number monitor).world.tokens = world.released monitor.session := by
  simp only [drop, settle]
  rw [foldl_applyEffect, Session.unlinks_drop]
  exact foldl_applyEffect_unlinks _ _ rfl

end Action

theorem released_of_holds {session : Session Action} {link : Nat}
    (holds : session.Holds token link) :
    (world.released session)[token]? = world.tokens[token]?.map (·.without link) := by
  simp [released, holds.token_eq, holds.link_eq]

theorem released_of_not_holds {session : Session Action}
    (free : ∀ link, ¬ session.Holds token link) :
    (world.released session)[token]? = world.tokens[token]? := by
  unfold released
  cases held : session.token with
  | none => rfl
  | some number =>
      cases linked : session.link with
      | none => rfl
      | some link =>
          have other : number ≠ token := by
            rintro rfl
            exact free link ⟨held, linked⟩
          simp [other]

/-- Removing a session's link takes that session off the token's list, and nobody
else. -/
theorem lists_of_released {after : World Action} {monitor : Monitor Action} {number : Nat}
    (tidy : world.Tidy) (holding : world.Holding)
    (found : world.monitor? number = some monitor)
    (same : after.tokens = world.released monitor.session) :
    after.Lists token position ↔
      world.Lists token position ∧ ¬(position = number ∧ world.HoldsAt number token) := by
  rw [holdsAt_iff found]
  by_cases holds : ∃ link, monitor.session.Holds token link
  · obtain ⟨link, holds⟩ := holds
    obtain ⟨state, known, listed⟩ := holding number monitor token link found holds
    have tidy := tidy token state known
    simp only [Lists, same, released_of_holds holds, known, Option.map_some,
      Option.some.injEq, exists_eq_left']
    cases alive : state.alive with
    | true =>
        rw [tidy.mem_recipients_without (listed alive)]
        have own : position = number ∧ (∃ link, monitor.session.Holds token link) ↔
            position = number := and_iff_left ⟨link, holds⟩
        exact and_congr_right fun _ => (not_congr own).symm
    | false => simp [ClientToken.recipients, ClientToken.without, tidy.dead_bare alive]
  · have free : ∀ link, ¬ monitor.session.Holds token link := not_exists.mp holds
    simp [Lists, same, released_of_not_holds free, holds]

theorem aliveAt_of_released {after : World Action} {session : Session Action}
    (same : after.tokens = world.released session) :
    after.aliveAt token = world.aliveAt token := by
  unfold aliveAt
  rw [same]
  by_cases holds : ∃ link, session.Holds token link
  · obtain ⟨link, holds⟩ := holds
    rw [released_of_holds holds, Option.map_map]
    rfl
  · rw [released_of_not_holds (not_exists.mp holds)]

theorem Tidy.of_released {after : World Action} {session : Session Action}
    (tidy : world.Tidy) (same : after.tokens = world.released session)
    (length_eq : after.monitors.length = world.monitors.length) : after.Tidy := by
  intro token state known
  rw [same] at known
  rw [length_eq]
  by_cases holds : ∃ link, session.Holds token link
  · obtain ⟨link, holds⟩ := holds
    rw [released_of_holds holds] at known
    obtain ⟨before, isBefore, rfl⟩ := Option.map_eq_some_iff.mp known
    exact (tidy token before isBefore).without link
  · rw [released_of_not_holds (not_exists.mp holds)] at known
    exact tidy token state known

theorem Holding.of_released {monitor : Monitor Action} {number link : Nat}
    {state : ClientToken Nat} (tidy : world.Tidy) (holding : world.Holding)
    (found : world.monitor? number = some monitor) (other : number ≠ position)
    (known : world.tokens[token]? = some state)
    (listed : state.alive = true → ⟨link, position⟩ ∈ state.links) :
    ∃ after, (world.released monitor.session)[token]? = some after ∧
      (after.alive = true → ⟨link, position⟩ ∈ after.links) := by
  by_cases holds : ∃ own, monitor.session.Holds token own
  · obtain ⟨own, holds⟩ := holds
    refine ⟨state.without own, by simp [released_of_holds holds, known], ?_⟩
    intro alive
    obtain ⟨_, isState, ownListed⟩ := holding number monitor token own found holds
    obtain rfl := Option.some.inj (known.symm.trans isState)
    refine List.mem_filter.mpr ⟨listed alive, ?_⟩
    simp only [bne_iff_ne, ne_eq]
    intro sameNumber
    have sameLink := (tidy token state known).link_unique_number (listed alive)
      (ownListed alive) sameNumber
    exact other (congrArg DeathLink.recipient sameLink).symm
  · exact ⟨state, by rw [released_of_not_holds (not_exists.mp holds), known], listed⟩

/-! ## Making a session -/

/-- The ways in which a new session can be linked, with what its token says and
the tokens that come of it. -/
inductive Making (world : World Action) (token : Option Nat) :
    Option (Nat × Except TokenError Nat) → List (ClientToken Nat) → Prop
  | unlinked (unknown : ∀ number, token = some number → world.tokens[number]? = none) :
      Making world token none world.tokens
  | refused {number : Nat} {state : ClientToken Nat} (given : token = some number)
      (known : world.tokens[number]? = some state) (gone : state.alive = false) :
      Making world token (some (number, .error .alreadyDead)) world.tokens
  | linked {number : Nat} {state : ClientToken Nat} (given : token = some number)
      (known : world.tokens[number]? = some state) (alive : state.alive = true) :
      Making world token (some (number, .ok state.nextLink))
        (world.tokens.set number (state.joined world.monitors.length))

theorem making (world : World Action) (setting : Setting) (action : Action)
    (token : Option Nat) (listener : Option Listener) :
    ∃ linked tokens, Making world token linked tokens ∧
      world.make setting action token listener =
        ⟨{ world with
            tokens
            monitors := world.monitors ++
              [some ⟨setting, (Session.make action listener.isSome linked).1, listener⟩] },
          (Session.make action listener.isSome linked).2.map
            (.effect world.monitors.length setting),
          .returned world.monitors.length⟩ := by
  cases token with
  | none => exact ⟨none, world.tokens, .unlinked (by simp), rfl⟩
  | some number =>
      cases known : world.tokens[number]? with
      | none => exact ⟨none, world.tokens, .unlinked (by simpa using known), by simp [make, known]⟩
      | some state =>
          cases alive : state.alive with
          | false =>
              exact ⟨_, _, .refused rfl known alive, by
                simp [make, known, ClientToken.link, alive, Except.map]⟩
          | true =>
              exact ⟨_, _, .linked rfl known alive, by
                simp [make, known, ClientToken.link, alive, Except.map, ClientToken.joined]⟩

end World

end BiometricSession
