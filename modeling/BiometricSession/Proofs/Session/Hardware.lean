import BiometricSession.Proofs.Session.Soundness

/-!
# A session's calls of the hardware

A session calls the hardware when it is started, when it is stopped, and when
its client dies.  This file keeps the account of those calls: the hardware has
taken one stop from a cancelled session and none from any other, one start from
a running session, and none from a session that was only created.

What the session's action does about an event is the action's own affair and
does not enter the account.
-/

namespace BiometricSession

namespace Effect

/-- Whether an effect is a call of the hardware. -/
def reachesHardware : Effect → Bool
  | halStart .. | halStop .. => true
  | _ => false

/-- Whether an effect is a start that the hardware has accepted. -/
def acceptedStart : Effect → Bool
  | halStart _ _ (.status code) => code = 0
  | _ => false

/-- Whether an effect is a stop that the hardware has accepted. -/
def acceptedStop : Effect → Bool
  | halStop _ (.status code) => code = 0
  | _ => false

/-- The calls of the hardware among some effects, in order. -/
def hardwareCalls (effects : List Effect) : List Effect :=
  effects.filter (·.reachesHardware)

@[simp]
theorem hardwareCalls_nil : hardwareCalls [] = [] :=
  rfl

@[simp]
theorem hardwareCalls_append (first second : List Effect) :
    hardwareCalls (first ++ second) = hardwareCalls first ++ hardwareCalls second :=
  List.filter_append ..

@[simp]
theorem hardwareCalls_notice (notice : Notice) (effects : List Effect) :
    hardwareCalls (.notice notice :: effects) = hardwareCalls effects :=
  rfl

theorem silent_of_hardwareCalls {effects : List Effect} (none : hardwareCalls effects = [])
    {effect : Effect} (member : effect ∈ effects) :
    effect.asksStart = false ∧ effect.asksStop = false := by
  have unreached := List.filter_eq_nil_iff.mp none effect member
  cases effect <;> first | exact ⟨rfl, rfl⟩ | exact absurd rfl unreached

/-- Only calls that reach somebody matter for the calls of the hardware. -/
theorem hardwareCalls_filter_callsOut (effects : List Effect) :
    hardwareCalls (effects.filter (·.callsOut)) = hardwareCalls effects := by
  unfold hardwareCalls
  rw [List.filter_filter]
  congr 1
  funext effect
  cases effect <;> rfl

theorem hardwareCalls_eq_nil {effects : List Effect}
    (silent : ∀ effect ∈ effects, effect.callsOut = false) :
    hardwareCalls effects = [] := by
  rw [← hardwareCalls_filter_callsOut, List.filter_eq_nil_iff.mpr]
  · rfl
  · intro effect member
    simp [silent effect member]

end Effect

namespace Operation

/-- Whether an operation is an event of the hardware. -/
def isEvent : Operation → Bool
  | callback _ => true
  | _ => false

end Operation

/-- The calls of the hardware by which a session carries out an operation. -/
def SessionDeed.hardwareCalls (deed : SessionDeed) : List Effect :=
  if deed.operation.isEvent then [] else Effect.hardwareCalls deed.effects

namespace Session

variable {Action : Type}

/-- A session keeps account of the calls of the hardware that were accepted. -/
structure Accounts (session : Session Action) (calls : List Effect) : Prop where
  stops : calls.countP (·.acceptedStop) = session.cancelled.toNat
  created : session.phase = .created → calls.countP (·.acceptedStart) = 0
  running : session.phase = .running → calls.countP (·.acceptedStart) = 1

namespace Accounts

variable {session after : Session Action} {calls more : List Effect}

/-- The account is kept by a step without accepted calls which changes neither
the flag of cancelling nor, unless it ends the session, the phase. -/
theorem unchanged (accounts : session.Accounts calls)
    (noStop : more.countP (·.acceptedStop) = 0)
    (noStart : more.countP (·.acceptedStart) = 0)
    (cancelled : after.cancelled = session.cancelled)
    (phase : after.phase = session.phase ∨ after.phase = .terminated) :
    after.Accounts (calls ++ more) := by
  refine ⟨?_, ?_, ?_⟩
  · rw [List.countP_append, noStop, cancelled, accounts.stops, Nat.add_zero]
  · intro created
    rw [List.countP_append, noStart, Nat.add_zero]
    rcases phase with same | ended
    · exact accounts.created (same.symm.trans created)
    · simp [ended] at created
  · intro running
    rw [List.countP_append, noStart, Nat.add_zero]
    rcases phase with same | ended
    · exact accounts.running (same.symm.trans running)
    · simp [ended] at running

end Accounts

theorem Cancelling.accounts {answers : Answers} {session : Session Action}
    {byClient : Bool} {step : Step Action Int32}
    (cancelling : Cancelling answers session byClient step) {calls : List Effect}
    (accounts : session.Accounts calls) :
    step.session.Accounts (calls ++ Effect.hardwareCalls step.effects) := by
  cases cancelling with
  | ended | repeated | broken => exact accounts.unchanged rfl rfl rfl (.inl rfl)
  | refused live first nonzero answer =>
      refine accounts.unchanged ?_ rfl rfl (.inl rfl)
      simp [Effect.hardwareCalls, Effect.reachesHardware, Effect.acceptedStop, nonzero]
  | accepted live first answer =>
      refine ⟨?_, ?_, ?_⟩
      · have none : calls.countP (·.acceptedStop) = 0 := by
          rw [accounts.stops, first]
          rfl
        rw [List.countP_append, none]
        rfl
      · intro created
        rw [List.countP_append, accounts.created created]
        rfl
      · intro running
        rw [List.countP_append, accounts.running running]
        rfl

section Action

variable [HardwareAction Action]

theorem Outcome.accounts {setting : Setting} {answers : Answers}
    {session : Session Action} {operation : Operation} {step : Step Action Reply}
    (outcome : Outcome setting answers session operation step) {calls : List Effect}
    (accounts : session.Accounts calls) :
    step.session.Accounts
      (calls ++ (SessionDeed.of operation step).hardwareCalls) := by
  cases outcome with
  | startIgnored | startBroken => exact accounts.unchanged rfl rfl rfl (.inl rfl)
  | startRefused created nonzero answer =>
      refine accounts.unchanged rfl ?_ rfl (.inl rfl)
      simp [SessionDeed.hardwareCalls, SessionDeed.of, Operation.isEvent,
        Effect.hardwareCalls, Effect.reachesHardware, Effect.acceptedStart, nonzero]
  | startAccepted created answer =>
      refine ⟨?_, ?_, ?_⟩
      · rw [List.countP_append, accounts.stops]
        rfl
      · intro again
        cases again
      · intro _
        rw [List.countP_append, accounts.created created]
        rfl
  | stopped cancelling => exact cancelling.accounts accounts
  | droppedAfterVerdict | droppedAfterDestroy | reactionBroken | continued =>
      exact accounts.unchanged rfl rfl rfl (.inl rfl)
  | finished => exact accounts.unchanged rfl rfl rfl (.inr rfl)
  | diedAfterDestroy => exact accounts.unchanged rfl rfl rfl (.inl rfl)
  | deathBroken standing cancelling => exact cancelling.accounts accounts
  | deathHandled standing cancelling =>
      have counted := cancelling.accounts accounts
      exact ⟨counted.stops, counted.created, counted.running⟩
  | destroyed =>
      have none : (SessionDeed.of .destroy
          (⟨session.destroyedSession, session.destroyEffects answers, .returned .none⟩ :
            Step Action Reply)).hardwareCalls = [] :=
        Effect.hardwareCalls_eq_nil fun effect member => destroyEffects_callsOut member
      rw [none]
      refine accounts.unchanged rfl rfl rfl ?_
      cases destroyed : session.destroyed <;> simp [destroyedSession, destroyed]

end Action

end Session

/-- Every session keeps account of the calls of the hardware in its life. -/
theorem accountInvariant {Action : Type} [HardwareAction Action] :
    LifeInvariant fun (_ : Setting) (session : Session Action) (life : List SessionDeed) =>
      session.Accounts (life.flatMap (·.hardwareCalls)) where
  made _ action listening linked := by
    rcases linked with _ | ⟨token, error | link⟩ <;>
      exact ⟨rfl, by simp, by simp [Session.make]⟩
  performed setting answers session life operation accounts := by
    obtain ⟨step, outcome, performed⟩ :=
      Session.perform_outcome setting answers session operation
    have counted := outcome.accounts accounts
    have unlocked : (SessionDeed.of operation (session.locked step)).hardwareCalls =
        (SessionDeed.of operation step).hardwareCalls := by
      simp only [SessionDeed.hardwareCalls, SessionDeed.of, Session.locked_effects,
        Effect.hardwareCalls_append]
      rw [Effect.hardwareCalls_eq_nil fun effect member => Session.recovery_callsOut member]
      rfl
    rw [performed, List.flatMap_append, List.flatMap_singleton, unlocked]
    exact ⟨by simpa using counted.stops, by simpa using counted.created,
      by simpa using counted.running⟩

end BiometricSession
