import BiometricSession.Proofs.Action.Scoped
import BiometricSession.Proofs.Session.Crash

/-!
# What a session holds of its token

A session that could be linked to its client's token holds the token and the
number of its link until it lets go of both.  It lets go when its client's death
has been handled and when it is destroyed; nothing else moves what it holds.

Letting go is one thing and removing the link another: a session asks its token
to remove the link when it is destroyed and when it is given up, but not when its
client has died.
-/

namespace BiometricSession

namespace Effect

/-- Whether an effect asks a token to remove a link. -/
def isUnlink : Effect → Bool
  | unlink .. => true
  | _ => false

theorem isUnlink_of_inReach {effect : Effect} {listening : Bool}
    (within : effect.inReach listening = true) : effect.isUnlink = false := by
  cases effect with
  | unlink => cases within
  | _ => rfl

end Effect

namespace Session

variable {Action : Type} {session : Session Action}

/-- A session holds a token and the number of its link to it. -/
structure Holds (session : Session Action) (token link : Nat) : Prop where
  token_eq : session.token = some token
  link_eq : session.link = some link

/-- What a session asks of its token when its link is to be removed. -/
def unlinks (answers : Answers) (session : Session Action) : List Effect :=
  match session.token, session.link with
  | some token, some link => [.unlink token link answers.unlinkRefusal]
  | _, _ => []

/-- Between two moments, a session has kept what it holds of its token. -/
structure Keeps (before after : Session Action) : Prop where
  token_eq : after.token = before.token
  link_eq : after.link = before.link

/-- A session holds nothing of its token. -/
structure Bare (session : Session Action) : Prop where
  token_eq : session.token = none
  link_eq : session.link = none

theorem Bare.not_holds (bare : session.Bare) {token link : Nat} :
    ¬ session.Holds token link := by
  intro holds
  have token_eq := holds.token_eq
  simp [bare.token_eq] at token_eq

theorem Keeps.holds_iff {after : Session Action} (keeps : Keeps session after)
    {token link : Nat} : after.Holds token link ↔ session.Holds token link := by
  constructor
  · intro holds
    exact ⟨keeps.token_eq ▸ holds.token_eq, keeps.link_eq ▸ holds.link_eq⟩
  · intro holds
    exact ⟨keeps.token_eq.trans holds.token_eq, keeps.link_eq.trans holds.link_eq⟩

theorem Cancelling.keeps {answers : Answers} {byClient : Bool} {step : Step Action Int32}
    (cancelling : Cancelling answers session byClient step) :
    Keeps session step.session := by
  cases cancelling <;> exact ⟨rfl, rfl⟩

theorem Cancelling.unlinks_nothing {answers : Answers} {byClient : Bool}
    {step : Step Action Int32} (cancelling : Cancelling answers session byClient step) :
    step.effects.filter (·.isUnlink) = [] := by
  cases cancelling <;> rfl

theorem filter_isUnlink_unlinking (answers : Answers) (session : Session Action)
    (report : TokenError → Notice) :
    (session.unlinking answers report).filter (·.isUnlink) = session.unlinks answers := by
  unfold unlinking unlinks
  cases session.token with
  | none => rfl
  | some token =>
      cases session.link with
      | none => rfl
      | some link => cases answers.unlinkRefusal <;> rfl

theorem filter_isUnlink_recovery (session : Session Action) :
    session.recovery.filter (·.isUnlink) = [] := by
  unfold recovery
  cases session.poisoned <;> rfl

theorem Sound.bare_destroyedSession (sound : session.Sound) :
    session.destroyedSession.Bare :=
  have bare := sound.destroyedSession.destroyed_bare rfl
  ⟨bare.1, bare.2.1⟩

theorem Keeps.locked {Value : Type} {step : Step Action Value}
    (keeps : Keeps session step.session) : Keeps session (session.locked step).session :=
  ⟨by simpa using keeps.token_eq, by simpa using keeps.link_eq⟩

end Session

/-- Whether a session that has carried out an operation has let go of its
token. -/
def Operation.releases : Operation → Bool
  | clientDied _ | destroy => true
  | start | stop _ | callback _ => false

namespace Session

variable {Action : Type} [HardwareAction Action] {setting : Setting} {answers : Answers}
  {session : Session Action} {operation : Operation}

theorem Outcome.keeps {step : Step Action Reply}
    (outcome : Outcome setting answers session operation step)
    (retains : operation.releases = false) : Keeps session step.session := by
  cases outcome with
  | stopped cancelling => exact cancelling.keeps
  | diedAfterDestroy | deathBroken | deathHandled | destroyed => cases retains
  | _ => exact ⟨rfl, rfl⟩

theorem Outcome.bare {step : Step Action Reply}
    (outcome : Outcome setting answers session operation step) (sound : session.Sound)
    (releases : operation.releases = true) {reply : Reply}
    (returned : step.ending = .returned reply) : step.session.Bare := by
  cases outcome with
  | diedAfterDestroy destroyed =>
      have bare := sound.destroyed_bare destroyed
      exact ⟨bare.1, bare.2.1⟩
  | deathBroken => cases returned
  | deathHandled => exact ⟨rfl, rfl⟩
  | destroyed => exact sound.bare_destroyedSession
  | _ => cases releases

/-- An operation of another kind than the client's death and the destruction
moves nothing of what the session holds. -/
theorem keeps_perform (setting : Setting) (answers : Answers) (session : Session Action)
    (retains : operation.releases = false) :
    Keeps session (session.perform setting answers operation).session := by
  obtain ⟨step, outcome, performed⟩ := perform_outcome setting answers session operation
  rw [performed]
  exact (outcome.keeps retains).locked

/-- A broken-off operation moves nothing of what the session holds. -/
theorem keeps_of_crashed {crash : Crash}
    (crashed : (session.perform setting answers operation).ending = .crashed crash) :
    Keeps session (session.perform setting answers operation).session := by
  rw [perform_of_crashed crashed]
  exact ⟨rfl, rfl⟩

/-- A session that has handled its client's death or was destroyed holds
nothing. -/
theorem bare_perform (sound : session.Sound) (releases : operation.releases = true)
    {reply : Reply}
    (returned : (session.perform setting answers operation).ending = .returned reply) :
    (session.perform setting answers operation).session.Bare := by
  obtain ⟨step, outcome, performed⟩ := perform_outcome setting answers session operation
  rw [performed] at returned ⊢
  have bare := outcome.bare sound releases (by simpa using returned)
  exact ⟨by simpa using bare.token_eq, by simpa using bare.link_eq⟩

/-- Whatever it goes through, a session never comes to hold what it did not hold
before. -/
theorem keeps_or_bare (setting : Setting) (answers : Answers) (sound : session.Sound)
    (operation : Operation) :
    Keeps session (session.perform setting answers operation).session ∨
      (session.perform setting answers operation).session.Bare := by
  cases releases : operation.releases with
  | false => exact .inl (keeps_perform setting answers session releases)
  | true =>
      cases ended : (session.perform setting answers operation).ending with
      | crashed crash => exact .inl (keeps_of_crashed ended)
      | returned reply => exact .inr (bare_perform sound releases ended)

theorem filter_isUnlink_destroyEffects (answers : Answers) (session : Session Action) :
    (session.destroyEffects answers).filter (·.isUnlink) = session.unlinks answers := by
  have ended : (if session.destroyed then [] else
      [Effect.notice (.destroyed (HardwareAction.kind session.action))]).filter
        (·.isUnlink) = [] := by
    cases session.destroyed <;> rfl
  unfold destroyEffects
  rw [List.filter_append, ended, List.append_nil]
  split
  · rename_i token unlinked
    simp [unlinks, token, unlinked, Effect.isUnlink]
  · exact filter_isUnlink_unlinking answers session _

/-- While it handles an event, a session asks its token nothing. -/
theorem reaction_unlinks_nothing [ScopedAction Action] (setting : Setting)
    (answers : Answers) (session : Session Action) (event : HardwareEvent) :
    (session.reaction setting answers event).emission.effects.filter (·.isUnlink) = [] := by
  rw [List.filter_eq_nil_iff]
  intro effect member
  have within := session.reaction_inReach setting answers event effect member
  simp [Effect.isUnlink_of_inReach within]

theorem Outcome.unlinks [ScopedAction Action] {step : Step Action Reply}
    (outcome : Outcome setting answers session operation step) :
    step.effects.filter (·.isUnlink) =
      if operation = .destroy then session.unlinks answers else [] := by
  cases outcome with
  | startIgnored | startBroken | startAccepted | startRefused | droppedAfterVerdict
  | droppedAfterDestroy | diedAfterDestroy => rfl
  | reactionBroken | finished | continued =>
      exact reaction_unlinks_nothing setting answers session _
  | stopped cancelling => exact cancelling.unlinks_nothing
  | deathBroken standing cancelling | deathHandled standing cancelling =>
      exact cancelling.unlinks_nothing
  | destroyed => exact filter_isUnlink_destroyEffects answers session

/-- Of all operations, only the destruction asks the token to remove the session's
link. -/
theorem unlinks_perform [ScopedAction Action] (setting : Setting) (answers : Answers)
    (session : Session Action) (operation : Operation) :
    (session.perform setting answers operation).effects.filter (·.isUnlink) =
      if operation = .destroy then session.unlinks answers else [] := by
  obtain ⟨step, outcome, performed⟩ := perform_outcome setting answers session operation
  rw [performed, locked_effects, List.filter_append, filter_isUnlink_recovery,
    List.nil_append]
  exact outcome.unlinks

/-- A session that is given up asks its token to remove its link. -/
theorem unlinks_drop (setting : Setting) (answers : Answers) (session : Session Action) :
    (session.drop setting answers).effects.filter (·.isUnlink) =
      session.unlinks answers := by
  have opening : (Effect.notice .leaked :: session.unlinking answers .leakUnlinkFailed).filter
      (·.isUnlink) = session.unlinks answers :=
    filter_isUnlink_unlinking answers session _
  unfold drop
  cases token : session.token with
  | none => simp [unlinks, token]
  | some position =>
      cases done : session.done with
      | true => exact opening
      | false =>
          have reported : ((session.scope setting answers).reportError
              (HardwareAction.kind session.action) (session.scope setting answers).device
                ErrorCode.hardwareUnavailable 0).run.effects.filter (·.isUnlink) = [] := by
            rw [List.filter_eq_nil_iff]
            intro effect member
            have within := (session.scope setting answers).scoped_reportError _ _ _ _ []
              effect member
            simp [Effect.isUnlink_of_inReach within]
          simp only [Bool.false_eq_true, if_false, List.filter_append, opening, reported,
            List.append_nil]

end Session

end BiometricSession
