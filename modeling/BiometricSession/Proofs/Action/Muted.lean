import BiometricSession.Proofs.Action.Scoped

/-!
# Actions without haptics

In a muted scope nothing vibrates, whatever the users prefer.  A call in a muted scope
is the same call with its vibrations left out: it has the other effects in the same
order, and it ends in the same way.  Whatever is true of sessions in general because of
that needs an action that does not care for the haptics; the four actions and the probe
do not.
-/

namespace BiometricSession

/-- Whether the device vibrates. -/
def Effect.vibrates : Effect → Bool
  | vibration .. => true
  | _ => false

/-- Effects without the vibrations among them. -/
def Effect.muted (effects : List Effect) : List Effect :=
  effects.filter (!·.vibrates)

namespace Effect

theorem attempts_muted (effects : List Effect) : attempts (muted effects) = attempts effects := by
  induction effects with
  | nil => rfl
  | cons effect effects ih =>
      cases effect with
      | vibration => exact ih
      | delivery event answer => exact congrArg (event :: ·) ih
      | _ => exact ih

theorem muted_muted (effects : List Effect) : muted (muted effects) = muted effects := by
  simp [muted]

theorem muted_append (first second : List Effect) :
    muted (first ++ second) = muted first ++ muted second :=
  List.filter_append ..

end Effect

/-- Whatever can vibrate is taken away from a session's setting. -/
def Setting.muted (setting : Setting) : Setting :=
  { setting with haptics := .disabled }

/-- The answers of collaborators to users who prefer nothing. -/
def Answers.muted (answers : Answers) : Answers :=
  { answers with preferences := .empty }

def Scope.muted (scope : Scope) : Scope :=
  { scope with setting := scope.setting.muted, answers := scope.answers.muted }

def Emission.muted {Value : Type} (emission : Emission Value) : Emission Value :=
  ⟨Effect.muted emission.effects, emission.ending⟩

def Reaction.muted {Action : Type} (reaction : Reaction Action) : Reaction Action :=
  ⟨reaction.action, reaction.emission.muted⟩

namespace Call

variable {First Second Value : Type}

/-- A call without its vibrations. -/
def muted (call : Call Value) : Call Value :=
  fun earlier => (call earlier).muted

@[simp]
theorem muted_pure (value : Value) : (pure value : Call Value).muted = pure value :=
  rfl

theorem muted_emit {effects : List Effect} (still : effects.all (!·.vibrates) = true) :
    (emit effects).muted = emit effects := by
  have same : Effect.muted effects = effects :=
    List.filter_eq_self.mpr (List.all_eq_true.mp still)
  funext earlier
  exact congrArg (Emission.mk · _) same

@[simp]
theorem muted_note (notice : Notice) : (note notice).muted = note notice :=
  muted_emit rfl

/-- What a call goes on with does not know of the vibrations before it. -/
@[simp]
theorem muted_bind (first : Call First) (next : First → Call Second) :
    (first >>= next).muted = (first.muted >>= fun value => (next value).muted) := by
  funext earlier
  change (Call.bind first next earlier).muted = Call.bind first.muted _ earlier
  unfold Call.bind muted
  rcases first earlier with ⟨effects, value | crash⟩
  · simp only [Emission.muted, Effect.attempts_muted, Effect.muted_append]
  · rfl

end Call

/-! ## What a scope offers -/

namespace Scope

variable (scope : Scope)

@[simp]
theorem muted_device : scope.muted.device = scope.device :=
  rfl

@[simp]
theorem muted_user : scope.muted.user = scope.user :=
  rfl

@[simp]
theorem muted_deliver (event : ListenerEvent) :
    (scope.deliver event).muted = scope.muted.deliver event := by
  funext earlier
  unfold Call.muted deliver
  cases listening : scope.listening with
  | false => simp [muted, listening, Emission.muted, Effect.muted]
  | true =>
      simp only [muted, listening, Answers.muted, if_true]
      rfl

@[simp]
theorem muted_deliverOrNote (event : ListenerEvent) :
    (scope.deliverOrNote event).muted = scope.muted.deliverOrNote event := by
  unfold deliverOrNote
  rw [Call.muted_bind, muted_deliver]
  congr 1
  funext failure
  cases failure <;> simp

theorem muted_vibrate (effect : Option HapticEffect) : (vibrate effect).muted = vibrate none := by
  cases effect <;> rfl

@[simp]
theorem muted_signalSuccess : scope.signalSuccess.muted = scope.muted.signalSuccess :=
  muted_vibrate _

@[simp]
theorem muted_signalFailure : scope.signalFailure.muted = scope.muted.signalFailure :=
  muted_vibrate _

@[simp]
theorem muted_reportError (kind : ClientKind) (device : UInt64) (error vendor : Int32) :
    (scope.reportError kind device error vendor).muted =
      scope.muted.reportError kind device error vendor := by
  unfold reportError
  rw [Call.muted_bind, Call.muted_emit rfl]
  congr 1
  funext _
  rw [Call.muted_bind, muted_deliverOrNote]
  rfl

end Scope

/-! ## Actions -/

/-- An action to which it makes no difference whether anything vibrates. -/
class UnfeelingAction (Action : Type) [HardwareAction Action] : Prop where
  respond_muted : ∀ (scope : Scope) (action : Action) (result : HardwareResult),
    (HardwareAction.respond scope action result).muted =
      HardwareAction.respond scope.muted action result

theorem HardwareAction.muted_unexpected {Action : Type} (action : Action) (kind : ClientKind)
    (result : HardwareResult) :
    (unexpected action kind result).muted = unexpected action kind result :=
  rfl

theorem Enrollment.muted_enrolled (scope : Scope) (identifier : BiometricIdentifier)
    (remaining : Int32) :
    (enrolled scope identifier remaining).muted =
      enrolled scope.muted identifier remaining := by
  unfold enrolled
  change Call.muted (if identifier.group ≠ scope.setting.descriptor.group then _ else _) =
    if identifier.group ≠ scope.setting.descriptor.group then _ else _
  split <;> split <;> simp

namespace Authentication

theorem muted_accepted (scope : Scope) (identifier : BiometricIdentifier)
    (token : List UInt8) :
    (accepted scope identifier token).muted = accepted scope.muted identifier token := by
  simp [accepted]

theorem muted_rejected (scope : Scope) (authentication : Authentication) :
    (rejected scope authentication).muted = rejected scope.muted authentication := by
  unfold rejected
  simp only [Call.muted_bind, Call.muted_note, Scope.muted_signalFailure,
    Scope.muted_deliverOrNote]
  congr 1
  funext _
  congr 1
  funext _
  congr 1
  funext failed
  split
  · rfl
  · split
    · simp
    · rfl

end Authentication

theorem Removal.muted_removed (scope : Scope) (identifier : BiometricIdentifier)
    (remaining : Int32) :
    (removed scope identifier remaining).muted = removed scope.muted identifier remaining := by
  simp [removed]

theorem Enumeration.muted_enumerated (scope : Scope) (identifier : BiometricIdentifier)
    (remaining : Int32) :
    (enumerated scope identifier remaining).muted =
      enumerated scope.muted identifier remaining := by
  simp [enumerated]

instance : UnfeelingAction BuiltinAction where
  respond_muted scope action result := by
    have unexpected := HardwareAction.muted_unexpected action action.kind result
    have handled (next : BuiltinAction) {call other : Call Bool} (same : call.muted = other) :
        (Reaction.mk next call.run).muted = ⟨next, other.run⟩ :=
      congrArg (Reaction.mk next) (congrFun same [])
    cases action with
    | enroll enrollment =>
        cases result with
        | enrolled identifier remaining =>
            exact handled _ (Enrollment.muted_enrolled scope identifier remaining)
        | authenticated | removed | enumerated => exact unexpected
    | authenticate authentication =>
        cases result with
        | authenticated identifier accepted token =>
            cases accepted with
            | true => exact handled _ (Authentication.muted_accepted scope identifier token)
            | false =>
                exact handled _
                  (Authentication.muted_rejected scope authentication.countRejection)
        | enrolled | removed | enumerated => exact unexpected
    | remove removal =>
        cases result with
        | removed identifier remaining =>
            exact handled _ (Removal.muted_removed scope identifier remaining)
        | enrolled | authenticated | enumerated => exact unexpected
    | enumerate =>
        cases result with
        | enumerated identifier remaining =>
            exact handled _ (Enumeration.muted_enumerated scope identifier remaining)
        | enrolled | authenticated | removed => exact unexpected

theorem Probe.muted_removed (probe : Probe) (scope : Scope) (identifier : BiometricIdentifier)
    (remaining : Int32) :
    (probe.removed scope identifier remaining).muted =
      probe.removed scope.muted identifier remaining := by
  simp [removed, Call.muted_emit, Effect.vibrates]
  rfl

instance : UnfeelingAction Probe where
  respond_muted scope probe result := by
    cases result with
    | removed identifier remaining =>
        exact congrArg (Reaction.mk probe)
          (congrFun (probe.muted_removed scope identifier remaining) [])
    | enrolled | authenticated | enumerated =>
        exact HardwareAction.muted_unexpected probe probe.kind _

instance {First Second : Type} [HardwareAction First] [HardwareAction Second]
    [UnfeelingAction First] [UnfeelingAction Second] : UnfeelingAction (First ⊕ Second) where
  respond_muted scope action result := by
    cases action with
    | inl action =>
        have same := UnfeelingAction.respond_muted scope action result
        exact congrArg (fun reaction => Reaction.mk (Sum.inl reaction.action) reaction.emission)
          same
    | inr action =>
        have same := UnfeelingAction.respond_muted scope action result
        exact congrArg (fun reaction => Reaction.mk (Sum.inr reaction.action) reaction.emission)
          same

/-! ## Sessions -/

namespace Session

variable {Action : Type} [HardwareAction Action]

theorem muted_acquired (scope : Scope) (action : Action) (info vendor : Int32) :
    (acquired scope action info vendor).muted = acquired scope.muted action info vendor := by
  have wake : ∀ failed : Bool,
      (do
        if info = AcquiredCode.good then
          Call.emit [.userActivity scope.user]
        return failed : Call Bool).muted =
      (do
        if info = AcquiredCode.good then
          Call.emit [.userActivity scope.user]
        return failed : Call Bool) := by
    intro failed
    dsimp only
    split <;> simp [Call.muted_emit, Effect.vibrates]
  unfold acquired
  rw [Call.muted_bind, Call.muted_emit rfl]
  congr 1
  funext _
  rw [Call.muted_bind, Call.muted_note]
  congr 1
  funext _
  dsimp only at wake ⊢
  split <;> simp [wake]

theorem muted_failed (scope : Scope) (action : Action) (device : UInt64)
    (error vendor : Int32) :
    (failed scope action device error vendor).muted =
      failed scope.muted action device error vendor := by
  simp [failed]

theorem muted_react [UnfeelingAction Action] (scope : Scope) (action : Action)
    (event : HardwareEvent) :
    (react scope action event).muted = react scope.muted action event := by
  cases event with
  | acquired info vendor =>
      exact congrArg (Reaction.mk action)
        (congrFun (muted_acquired scope action info vendor) [])
  | error device error vendor =>
      exact congrArg (Reaction.mk action)
        (congrFun (muted_failed scope action device error vendor) [])
  | result result => exact UnfeelingAction.respond_muted scope action result

/-- What a session makes of an event where nothing can vibrate is what it makes of the event
otherwise, without the vibrations. -/
theorem muted_reaction [UnfeelingAction Action] (setting : Setting) (answers : Answers)
    (session : Session Action) (event : HardwareEvent) :
    (session.reaction setting answers event).muted =
      session.reaction setting.muted answers.muted event :=
  muted_react (session.scope setting answers) session.action event

end Session

end BiometricSession
