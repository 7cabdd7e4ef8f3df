import BiometricSession.Death.Cascade
import Mathlib.Data.List.Induction

/-!
# Histories of cascades

The account of a cascade is read here as a history.  At every moment it tells
which links a token has issued, which of them were removed, whether the token's
death has begun and ended, which links have had their turn in it, and which
recipients still exist.

Every entry of a lawful history obeys a law about what came before it.  Nothing
in a law looks ahead, so a history stays lawful entry by entry, however deeply
the calls that make the entries are nested.
-/

namespace BiometricSession

namespace DeathRecord

/-- The link that an entry issues at a token. -/
def issued? (token : Nat) : DeathRecord → Option (DeathLink Nat)
  | event (.linked position link recipient) =>
      if position = token then some ⟨link, recipient⟩ else none
  | _ => none

/-- The number of the link that an entry removes from a token. -/
def unlinked? (token : Nat) : DeathRecord → Option Nat
  | event (.unlinked position link) => if position = token then some link else none
  | _ => none

/-- The link whose turn has come in the death of a token. -/
def turn? (token : Nat) : DeathRecord → Option (DeathLink Nat)
  | event (.told position link recipient _) =>
      if position = token then some ⟨link, recipient⟩ else none
  | missed position link recipient =>
      if position = token then some ⟨link, recipient⟩ else none
  | _ => none

/-- The link by which somebody is told of the death of a token. -/
def fired? (token : Nat) : DeathRecord → Option (DeathLink Nat)
  | event (.told position link recipient _) =>
      if position = token then some ⟨link, recipient⟩ else none
  | _ => none

/-- Whether an entry tells a recipient of a death. -/
def tells (recipient : Nat) : DeathRecord → Bool
  | event (.told _ _ number _) => number = recipient
  | _ => false

/-- Whether a recipient has done with a death by an entry. -/
def settles (recipient : Nat) : DeathRecord → Bool
  | settled number => number = recipient
  | _ => false

end DeathRecord

namespace DeathHistory

variable {token recipient : Nat} {history earlier later : List DeathRecord}
  {record : DeathRecord}

/-- The links that a token has issued, in order. -/
def issued (token : Nat) (history : List DeathRecord) : List (DeathLink Nat) :=
  history.filterMap (·.issued? token)

/-- The numbers of the links that were removed from a token. -/
def unlinked (token : Nat) (history : List DeathRecord) : List Nat :=
  history.filterMap (·.unlinked? token)

/-- The links that a token has issued and that were not removed, in order. -/
def linksLeft (token : Nat) (history : List DeathRecord) : List (DeathLink Nat) :=
  (issued token history).filter fun link => link.number ∉ unlinked token history

/-- The links that have had their turn in the death of a token, in order. -/
def turns (token : Nat) (history : List DeathRecord) : List (DeathLink Nat) :=
  history.filterMap (·.turn? token)

/-- The links that have fired in the death of a token, in order. -/
def fired (token : Nat) (history : List DeathRecord) : List (DeathLink Nat) :=
  history.filterMap (·.fired? token)

/-- The death of a token has begun. -/
def Begun (token : Nat) (history : List DeathRecord) : Prop :=
  .event (.began token) ∈ history

/-- The death of a token has ended. -/
def Ended (token : Nat) (history : List DeathRecord) : Prop :=
  ∃ count, .event (.ended token count) ∈ history

/-- A recipient exists until its owner gives it up, and as long as it is being
told of a death. -/
def Existing (recipient : Nat) (history : List DeathRecord) : Prop :=
  .givenUp recipient ∉ history ∨
    history.countP (·.settles recipient) < history.countP (·.tells recipient)

/-- A link can be removed from a token that has issued it if that did not happen
before and the token's death has not begun. -/
def Removable (token link : Nat) (history : List DeathRecord) : Prop :=
  link ∈ (issued token history).map (·.number) ∧ link ∉ unlinked token history ∧
    ¬ Begun token history

/-- A link is the next in turn while the death of its token is going on. -/
def NextInTurn (token : Nat) (link : DeathLink Nat) (history : List DeathRecord) : Prop :=
  Begun token history ∧ ¬ Ended token history ∧
    turns token history ++ [link] <+: linksLeft token history

/-- What an entry says of the history before it. -/
def Law (earlier : List DeathRecord) : DeathRecord → Prop
  | .event (.linked token link _) =>
      ¬ Begun token earlier ∧ link ∉ (issued token earlier).map (·.number)
  | .linkRefused token error => error = .alreadyDead ∧ Begun token earlier
  | .event (.unlinked token link) => Removable token link earlier
  | .unlinkRefused token link error => error = .notLinked ∧ ¬ Removable token link earlier
  | .event (.began token) => ¬ Begun token earlier
  | .event (.told token link recipient _) =>
      NextInTurn token ⟨link, recipient⟩ earlier ∧ Existing recipient earlier
  | .missed token link recipient =>
      NextInTurn token ⟨link, recipient⟩ earlier ∧ ¬ Existing recipient earlier
  | .event (.ended token count) =>
      Begun token earlier ∧ ¬ Ended token earlier ∧
        turns token earlier = linksLeft token earlier ∧
          count = (fired token earlier).length
  | .redeclared token => Begun token earlier
  | .event (.reacted ..) | .event (.logged _) | .givenUp _ | .settled _ => True

/-- Every entry of a history obeys the law about what came before it. -/
def Lawful (history : List DeathRecord) : Prop :=
  ∀ earlier record later, history = earlier ++ record :: later → Law earlier record

/-! ## Reading a history in parts -/

theorem issued_append :
    issued token (earlier ++ later) = issued token earlier ++ issued token later :=
  List.filterMap_append

theorem unlinked_append :
    unlinked token (earlier ++ later) = unlinked token earlier ++ unlinked token later :=
  List.filterMap_append

theorem turns_append :
    turns token (earlier ++ later) = turns token earlier ++ turns token later :=
  List.filterMap_append

theorem fired_append :
    fired token (earlier ++ later) = fired token earlier ++ fired token later :=
  List.filterMap_append

theorem Begun.append (begun : Begun token earlier) (later : List DeathRecord) :
    Begun token (earlier ++ later) :=
  List.mem_append_left later begun

theorem begun_append :
    Begun token (earlier ++ later) ↔ Begun token earlier ∨ Begun token later :=
  List.mem_append

theorem Ended.append (ended : Ended token earlier) (later : List DeathRecord) :
    Ended token (earlier ++ later) := by
  obtain ⟨count, member⟩ := ended
  exact ⟨count, List.mem_append_left later member⟩

theorem ended_append :
    Ended token (earlier ++ later) ↔ Ended token earlier ∨ Ended token later := by
  constructor
  · rintro ⟨count, member⟩
    rcases List.mem_append.mp member with before | after
    · exact .inl ⟨count, before⟩
    · exact .inr ⟨count, after⟩
  · rintro (⟨count, before⟩ | ⟨count, after⟩)
    · exact ⟨count, List.mem_append_left _ before⟩
    · exact ⟨count, List.mem_append_right _ after⟩

theorem fired_sublist_turns (token : Nat) (history : List DeathRecord) :
    (fired token history).Sublist (turns token history) := by
  induction history with
  | nil => exact List.Sublist.refl _
  | cons record history ih =>
      unfold fired turns at ih ⊢
      rw [List.filterMap_cons, List.filterMap_cons]
      cases fires : record.fired? token with
      | none =>
          cases record.turn? token with
          | none => exact ih
          | some link => exact ih.cons link
      | some link =>
          have turn : record.turn? token = some link := by
            cases record with
            | event happened =>
                cases happened with
                | told => exact fires
                | _ => cases fires
            | _ => cases fires
          rw [turn]
          exact ih.cons_cons link

/-! ## Lawful histories -/

namespace Lawful

theorem nil : Lawful [] := by
  intro earlier record later split
  simp at split

theorem snoc (lawful : Lawful history) (law : Law history record) :
    Lawful (history ++ [record]) := by
  intro earlier other later split
  rcases List.eq_nil_or_concat later with rfl | ⟨rest, last, rfl⟩
  · obtain ⟨rfl, same⟩ := List.append_inj' split rfl
    obtain rfl := List.head_eq_of_cons_eq same
    exact law
  · rw [List.concat_eq_append, ← List.cons_append, ← List.append_assoc] at split
    obtain ⟨same, _⟩ := List.append_inj' split rfl
    exact lawful earlier other rest same

theorem of_append (lawful : Lawful (earlier ++ later)) : Lawful earlier := by
  intro first record rest split
  exact lawful first record (rest ++ later) (by rw [split]; simp)

/-- The law of an entry of the later part of a history. -/
theorem law_of_mem (lawful : Lawful (earlier ++ later)) (member : record ∈ later) :
    ∃ between rest, later = between ++ record :: rest ∧ Law (earlier ++ between) record := by
  obtain ⟨between, rest, rfl⟩ := List.append_of_mem member
  exact ⟨between, rest, rfl, lawful _ record rest (by simp)⟩

/-- Once a token's death has begun, it issues no link any more. -/
theorem issued_eq_nil (lawful : Lawful (earlier ++ later)) (begun : Begun token earlier) :
    issued token later = [] := by
  rw [issued, List.filterMap_eq_nil_iff]
  intro record member
  obtain ⟨between, _, _, law⟩ := lawful.law_of_mem member
  cases record with
  | event happened =>
      cases happened with
      | linked position link recipient =>
          apply if_neg
          rintro rfl
          exact law.1 (begun.append between)
      | _ => rfl
  | _ => rfl

/-- Once a token's death has begun, no link is removed from it any more. -/
theorem unlinked_eq_nil (lawful : Lawful (earlier ++ later)) (begun : Begun token earlier) :
    unlinked token later = [] := by
  rw [unlinked, List.filterMap_eq_nil_iff]
  intro record member
  obtain ⟨between, _, _, law⟩ := lawful.law_of_mem member
  cases record with
  | event happened =>
      cases happened with
      | unlinked position link =>
          apply if_neg
          rintro rfl
          exact law.2.2 (begun.append between)
      | _ => rfl
  | _ => rfl

/-- The links that a death takes are those that were left when it began. -/
theorem linksLeft_frozen (lawful : Lawful (earlier ++ later)) (begun : Begun token earlier) :
    linksLeft token (earlier ++ later) = linksLeft token earlier := by
  unfold linksLeft
  rw [issued_append, unlinked_append, lawful.issued_eq_nil begun,
    lawful.unlinked_eq_nil begun, List.append_nil, List.append_nil]

theorem next_of_turn (lawful : Lawful (earlier ++ later)) {link : DeathLink Nat}
    (member : record ∈ later) (turn : record.turn? token = some link) :
    ∃ between, NextInTurn token link (earlier ++ between) ∧
      ∃ rest, later = between ++ record :: rest := by
  obtain ⟨between, rest, split, law⟩ := lawful.law_of_mem member
  refine ⟨between, ?_, rest, split⟩
  cases record with
  | event happened =>
      cases happened with
      | told position number recipient name =>
          simp only [DeathRecord.turn?] at turn
          split at turn
          · rename_i same
            subst same
            obtain rfl := Option.some.inj turn
            exact law.1
          · cases turn
      | _ => cases turn
  | missed position number recipient =>
      simp only [DeathRecord.turn?] at turn
      split at turn
      · rename_i same
        subst same
        obtain rfl := Option.some.inj turn
        exact law.1
      · cases turn
  | _ => cases turn

/-- No link has its turn before the death of its token begins. -/
theorem turns_eq_nil (lawful : Lawful history) (alive : ¬ Begun token history) :
    turns token history = [] := by
  rw [turns, List.filterMap_eq_nil_iff]
  intro record member
  cases turn : record.turn? token with
  | none => rfl
  | some link =>
      have whole : Lawful ([] ++ history) := lawful
      obtain ⟨between, next, rest, rfl⟩ := whole.next_of_turn member turn
      exact absurd (next.1.append (record :: rest)) alive

/-- No link has its turn once the death of its token has ended. -/
theorem turns_eq_nil_of_ended (lawful : Lawful (earlier ++ later))
    (ended : Ended token earlier) : turns token later = [] := by
  rw [turns, List.filterMap_eq_nil_iff]
  intro record member
  cases turn : record.turn? token with
  | none => rfl
  | some link =>
      obtain ⟨between, next, _⟩ := lawful.next_of_turn member turn
      exact absurd (ended.append between) next.2.1

/-- A death begins once. -/
theorem not_begun (lawful : Lawful (earlier ++ later)) (begun : Begun token earlier) :
    ¬ Begun token later := by
  intro again
  obtain ⟨between, _, _, law⟩ := lawful.law_of_mem again
  exact law (begun.append between)

/-- A link that was removed had been issued. -/
theorem issued_of_unlinked (lawful : Lawful history) {link : Nat}
    (member : link ∈ unlinked token history) :
    link ∈ (issued token history).map (·.number) := by
  obtain ⟨record, within, isRemoval⟩ := List.mem_filterMap.mp member
  have whole : Lawful ([] ++ history) := lawful
  obtain ⟨between, rest, rfl, law⟩ := whole.law_of_mem within
  cases record with
  | event happened =>
      cases happened with
      | unlinked position number =>
          simp only [DeathRecord.unlinked?] at isRemoval
          split at isRemoval
          · rename_i same
            subst same
            obtain rfl := Option.some.inj isRemoval
            rw [issued_append, List.map_append]
            exact List.mem_append_left _ law.1
          · cases isRemoval
      | _ => cases isRemoval
  | _ => cases isRemoval

/-- The links of one token have different numbers. -/
theorem nodup_numbers (lawful : Lawful history) (token : Nat) :
    ((issued token history).map (·.number)).Nodup := by
  induction history using List.reverseRecOn with
  | nil => exact List.nodup_nil
  | append_singleton history record ih =>
      have before := ih lawful.of_append
      have law := lawful history record [] rfl
      rw [issued_append, List.map_append]
      cases issue : record.issued? token with
      | none => simpa [issued, issue] using before
      | some link =>
          cases record with
          | event happened =>
              cases happened with
              | linked position number recipient =>
                  simp only [DeathRecord.issued?] at issue
                  split at issue
                  · rename_i same
                    subst same
                    obtain rfl := Option.some.inj issue
                    have new := law.2
                    rw [List.nodup_append]
                    refine ⟨before, by simp [issued, DeathRecord.issued?], ?_⟩
                    intro number isIssued other isNew
                    obtain rfl : other = _ := by
                      simpa [issued, DeathRecord.issued?] using isNew
                    rintro rfl
                    exact new isIssued
                  · cases issue
              | _ => cases issue
          | _ => cases issue

end Lawful

end DeathHistory

end BiometricSession
