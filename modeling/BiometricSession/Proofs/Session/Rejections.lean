import BiometricSession.Proofs.Action.Counting
import BiometricSession.Proofs.Session.Verdict

/-!
# Rejections and their count

An authentication counts the rejections that its session handles, and nothing else changes an
action.  So an action that was new at first is known from the number of these rejections: the
count is exact up to the greatest number that it can hold.  The rejection that reaches the
limit finishes the session, so that as long as the session handles events, the limit lies
ahead.
-/

namespace BiometricSession

namespace BuiltinAction

/-- Whether an action has counted no rejection yet. -/
def isNew : BuiltinAction → Bool
  | authenticate authentication => authentication.failedAttempts = 0
  | enroll _ | remove _ | enumerate => true

/-- The action with one more rejection counted, if it counts rejections. -/
def countRejection : BuiltinAction → BuiltinAction
  | authenticate authentication => authenticate authentication.countRejection
  | action => action

/-- A new action once its session has handled some rejections. -/
def afterRejections (count : Nat) : BuiltinAction → BuiltinAction
  | authenticate authentication =>
      authenticate { authentication with
        failedAttempts := UInt32.ofNat (min count (UInt32.size - 1)) }
  | action => action

theorem afterRejections_zero {action : BuiltinAction} (isNew : action.isNew = true) :
    action.afterRejections 0 = action := by
  cases action with
  | authenticate authentication =>
      have none : authentication.failedAttempts = 0 := of_decide_eq_true isNew
      simp [afterRejections, ← none]
  | enroll | remove | enumerate => rfl

theorem toNat_count (count : Nat) :
    (UInt32.ofNat (min count (UInt32.size - 1))).toNat = min count (UInt32.size - 1) := by
  apply UInt32.toNat_ofNat_of_lt'
  have bounded := Nat.min_le_right count (UInt32.size - 1)
  exact Nat.lt_of_le_of_lt bounded (by decide)

theorem countRejection_afterRejections (count : Nat) (action : BuiltinAction) :
    (action.afterRejections count).countRejection = action.afterRejections (count + 1) := by
  cases action with
  | enroll | remove | enumerate => rfl
  | authenticate authentication =>
      have size : UInt32.size - 1 = 4294967295 := rfl
      have before := toNat_count count
      simp only [afterRejections, countRejection, Authentication.countRejection,
        authenticate.injEq, Authentication.mk.injEq, true_and]
      by_cases full : UInt32.ofNat (min count (UInt32.size - 1)) = UInt32.ofNat (UInt32.size - 1)
      · have greatest : (UInt32.ofNat (UInt32.size - 1)).toNat = 4294967295 := rfl
        rw [full, greatest] at before
        rw [if_pos full, full]
        congr 1
        omega
      · have below : count < 4294967295 := by
          apply Nat.lt_of_not_le
          intro reached
          exact full (congrArg UInt32.ofNat (Nat.min_eq_right reached))
        rw [if_neg full]
        apply UInt32.toNat_inj.mp
        rw [UInt32.toNat_add, before, toNat_count, UInt32.toNat_one, Nat.mod_eq_of_lt]
        · omega
        · omega

theorem kind_afterRejections (count : Nat) (action : BuiltinAction) :
    (action.afterRejections count).kind = action.kind := by
  cases action <;> rfl

/-- How many rejections lock the user out; zero if none do. -/
def limit : BuiltinAction → Nat
  | authenticate authentication => authentication.maxFailedAttempts.toNat
  | enroll _ | remove _ | enumerate => 0

/-- As long as the limit lies ahead, it is the rejection that reaches it that locks the user
out. -/
theorem locksOut_afterRejections {action : BuiltinAction} {count : Nat}
    (below : 0 < action.limit → count < action.limit) {authentication : Authentication}
    (after : action.afterRejections count = .authenticate authentication) :
    authentication.locksOut = true ↔ 0 < action.limit ∧ count + 1 = action.limit := by
  cases action with
  | enroll | remove | enumerate => cases after
  | authenticate fresh =>
      obtain rfl := authenticate.inj after
      have bounded := fresh.maxFailedAttempts.toNat_lt
      have size : UInt32.size - 1 = 4294967295 := rfl
      simp only [limit] at below ⊢
      simp only [Authentication.locksOut, toNat_count, decide_eq_true_eq]
      omega

end BuiltinAction

namespace Session

variable {setting : Setting} {answers : Answers} {session : Session BuiltinAction}

/-- Whether an operation makes a session handle the rejection of an attempt that it was
waiting for. -/
def rejects (session : Session BuiltinAction) (operation : Operation) : Bool :=
  match session.action, operation with
  | .authenticate _, .callback (.result (.authenticated _ false _)) => session.isOpen
  | _, _ => false

theorem action_respond (scope : Scope) (session : Session BuiltinAction)
    (isOpen : session.isOpen = true) (result : HardwareResult) :
    (session.action.respond scope result).action =
      if session.rejects (.callback (.result result)) then session.action.countRejection
      else session.action := by
  unfold rejects
  cases shape : session.action with
  | authenticate authentication =>
      cases result with
      | authenticated identifier accepted token => cases accepted <;> simp [isOpen] <;> rfl
      | enrolled | removed | enumerated => rfl
  | enroll | remove | enumerate => cases result <;> rfl

theorem rejects_iff {operation : Operation} :
    session.rejects operation = true ↔
      (∃ authentication, session.action = .authenticate authentication) ∧
        session.isOpen = true ∧
          ∃ identifier token,
            operation = .callback (.result (.authenticated identifier false token)) := by
  unfold rejects
  split
  · next authentication identifier token isAction =>
      exact ⟨fun isOpen => ⟨⟨authentication, isAction⟩, isOpen, identifier, token, rfl⟩,
        fun rejection => rejection.2.1⟩
  · next other =>
      refine ⟨nofun, ?_⟩
      rintro ⟨⟨authentication, isAction⟩, -, identifier, token, rfl⟩
      exact (other authentication identifier token isAction rfl).elim

theorem action_reaction (isOpen : session.isOpen = true) (event : HardwareEvent) :
    (session.reaction setting answers event).action =
      if session.rejects (.callback event) then session.action.countRejection
      else session.action := by
  cases event with
  | acquired | error =>
      rw [if_neg (by simp [rejects_iff])]
      rfl
  | result result => exact action_respond _ session isOpen result

theorem Outcome.action_eq {operation : Operation} {step : Step BuiltinAction Reply}
    (outcome : Outcome setting answers session operation step) :
    step.session.action =
      if session.rejects operation then session.action.countRejection else session.action := by
  cases outcome with
  | startIgnored | startBroken | startAccepted | startRefused | diedAfterDestroy =>
      rw [if_neg (by simp [rejects_iff])]
  | destroyed =>
      rw [if_neg (by simp [rejects_iff])]
      rfl
  | stopped cancelling =>
      rw [if_neg (by simp [rejects_iff])]
      exact cancelling.action_eq
  | droppedAfterVerdict done => rw [if_neg (by simp [rejects_iff, isOpen, done])]
  | droppedAfterDestroy undone terminated =>
      rw [if_neg (by simp [rejects_iff, isOpen, terminated])]
  | reactionBroken undone live | finished undone live | continued undone live =>
      exact action_reaction (isOpen_of_live undone live) _
  | deathBroken standing cancelling | deathHandled standing cancelling =>
      rw [if_neg (by simp [rejects_iff])]
      exact cancelling.action_eq

/-- An operation changes the action by counting the rejection that it makes the session handle,
if it does, and in no other way. -/
theorem action_perform (setting : Setting) (answers : Answers)
    (session : Session BuiltinAction) (operation : Operation) :
    (session.perform setting answers operation).session.action =
      if session.rejects operation then session.action.countRejection else session.action := by
  obtain ⟨step, outcome, performed⟩ := perform_outcome setting answers session operation
  rw [performed, locked_session]
  cases step.ending <;> exact outcome.action_eq

theorem Outcome.isOpen_of_isOpen {Action : Type} [HardwareAction Action]
    {session : Session Action} {operation : Operation} {step : Step Action Reply}
    (outcome : Outcome setting answers session operation step)
    (isOpen : step.session.isOpen = true) : session.isOpen = true := by
  cases outcome with
  | startIgnored | startBroken | startRefused | droppedAfterVerdict | droppedAfterDestroy
  | reactionBroken | continued | diedAfterDestroy => exact isOpen
  | startAccepted created answer => simpa [Session.isOpen, created] using isOpen
  | finished => simp [Session.isOpen] at isOpen
  | stopped cancelling | deathBroken standing cancelling | deathHandled standing cancelling =>
      cases cancelling <;> exact isOpen
  | destroyed =>
      cases gone : session.destroyed with
      | true => simpa [Session.isOpen, destroyedSession, gone] using isOpen
      | false => simp [Session.isOpen, destroyedSession, gone] at isOpen

/-- No operation opens a session again. -/
theorem isOpen_of_perform {Action : Type} [HardwareAction Action] {session : Session Action}
    {operation : Operation}
    (isOpen : (session.perform setting answers operation).session.isOpen = true) :
    session.isOpen = true := by
  obtain ⟨step, outcome, performed⟩ := perform_outcome setting answers session operation
  apply outcome.isOpen_of_isOpen
  rw [performed] at isOpen
  simpa [Session.isOpen] using isOpen

theorem rejects_attempt {authentication : Authentication}
    (isAction : session.action = .authenticate authentication)
    (identifier : BiometricIdentifier) (accepted : Bool) (token : List UInt8) :
    session.rejects (.callback (.result (.authenticated identifier accepted token))) =
      (session.isOpen && !accepted) := by
  unfold rejects
  rw [isAction]
  cases accepted <;> simp

/-- The calls for the result of an attempt, if the session authenticates. -/
theorem calls_attempt {authentication : Authentication}
    (isAction : session.action = .authenticate authentication)
    (identifier : BiometricIdentifier) (accepted : Bool) (token : List UInt8) :
    (session.perform setting answers
        (.callback (.result (.authenticated identifier accepted token)))).effects.filter
          (·.callsOut) =
      if session.isOpen then
        if accepted then
          Authentication.acceptanceCalls (session.scope setting answers) identifier token
        else
          Authentication.rejectionCalls (session.scope setting answers) authentication.locksOut
      else
        [] := by
  rw [calls_callback]
  cases session.isOpen with
  | false => rfl
  | true =>
      change (session.action.respond (session.scope setting answers)
        (.authenticated identifier accepted token)).emission.effects.filter _ = _
      rw [isAction]
      cases accepted with
      | true => exact Authentication.calls_accepted _ identifier token
      | false =>
          rw [← authentication.isLockedOut_countRejection]
          exact Authentication.calls_rejected _ authentication.countRejection

/-- A session that was made with a new action has handled some rejections: they are counted,
and as long as the session handles events, the limit lies ahead. -/
structure Tallied (first : BuiltinAction) (count : Nat) (session : Session BuiltinAction) :
    Prop where
  action_eq : session.action = first.afterRejections count
  below : session.isOpen = true → 0 < first.limit → count < first.limit

namespace Tallied

variable {first : BuiltinAction} {count : Nat}

theorem locksOut_iff (tallied : session.Tallied first count) (isOpen : session.isOpen = true)
    (authentication : Authentication) (isAction : session.action = .authenticate authentication) :
    authentication.locksOut = true ↔ 0 < first.limit ∧ count + 1 = first.limit :=
  BuiltinAction.locksOut_afterRejections (tallied.below isOpen)
    (tallied.action_eq.symm.trans isAction)

/-- An operation that is no rejection leaves the count as it is. -/
theorem kept (tallied : session.Tallied first count) (setting : Setting) (answers : Answers)
    {operation : Operation} (noRejection : session.rejects operation = false) :
    (session.perform setting answers operation).session.Tallied first count where
  action_eq := by
    rw [action_perform, noRejection]
    exact tallied.action_eq
  below isOpen := tallied.below (isOpen_of_perform isOpen)

/-- A rejection is counted.  If it reaches the limit, the session is finished. -/
theorem counted (tallied : session.Tallied first count) {operation : Operation}
    (rejection : session.rejects operation = true)
    (steady : Steady
      (Effect.deliveries (session.perform setting answers operation).effects)) :
    (session.perform setting answers operation).session.Tallied first (count + 1) where
  action_eq := by
    rw [action_perform, if_pos rejection, tallied.action_eq,
      BuiltinAction.countRejection_afterRejections]
  below stillOpen limited := by
    obtain ⟨⟨authentication, isAction⟩, isOpen, identifier, token, rfl⟩ :=
      rejects_iff.mp rejection
    have reached := tallied.locksOut_iff isOpen
    obtain ⟨finished, returned, performed⟩ := handled isOpen steady
    have before := tallied.below isOpen limited
    -- a session that the rejection at the limit has finished is not open any more
    apply Nat.lt_of_le_of_ne before
    intro last
    have finishes : finished = true := by
      refine (finishes_iff reached returned).mpr (.inl (.lockedOut ?_ limited last _ _))
      rw [isAction]
      rfl
    rw [performed, if_pos finishes] at stillOpen
    simp [Session.isOpen] at stillOpen

end Tallied

/-- A new session has handled no rejections. -/
theorem tallied_make {action : BuiltinAction} (isNew : action.isNew = true) (listening : Bool)
    (linked : Option (Nat × Except TokenError Nat)) :
    (make action listening linked).1.Tallied action 0 where
  action_eq := by rw [make_action, BuiltinAction.afterRejections_zero isNew]
  below _ := id

end Session

/-- The death of clients leaves the count of rejections as it is. -/
theorem Course.tallied {setting : Setting} {first last : Session BuiltinAction}
    {life : List SessionDeed} {action : BuiltinAction} {count : Nat}
    (course : Course setting first life last)
    (deaths : ∀ deed ∈ life, deed.operation = .clientDied true)
    (tallied : first.Tallied action count) : last.Tallied action count := by
  induction course with
  | start => exact tallied
  | @perform middle life course answers operation ih =>
      rw [List.forall_mem_append] at deaths
      obtain rfl : operation = .clientDied true := deaths.2 _ (List.mem_singleton.mpr rfl)
      refine (ih deaths.1).kept setting answers ?_
      rw [Bool.eq_false_iff, ne_eq, Session.rejects_iff]
      rintro ⟨_, _, _, _, isRejection⟩
      cases isRejection

end BiometricSession
