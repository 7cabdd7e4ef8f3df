import BiometricSession.Proofs.World.Verdict

/-!
# The lockout comes at the limit

An authentication locks the user out with the rejection that reaches its limit, and with no
other result of an attempt, however the attempts are interleaved with what else happens in a
run.  A client that could not be told of that rejection is not told of the lockout either.
Every rejection that is handled makes a signal of failure and is delivered before that.
-/

namespace BiometricSession

/-- Whether an effect reports an error to the metrics or to the client. -/
def Effect.reportsError : Effect → Bool
  | errorMetric .. => true
  | delivery event _ => event.isError
  | _ => false

theorem Effect.quiet_vibrations (effect : Option HapticEffect) :
    (vibrations effect).any (·.reportsError) = false := by
  cases effect <;> rfl

theorem Scope.quiet_told (scope : Scope) (earlier : List ListenerEvent) {event : ListenerEvent}
    (noError : event.isError = false) :
    (scope.told earlier event).any (·.reportsError) = false := by
  unfold told
  split
  · simp [Effect.reportsError, noError]
  · rfl

namespace Authentication

theorem quiet_acceptanceCalls (scope : Scope) (identifier : BiometricIdentifier)
    (token : List UInt8) :
    (acceptanceCalls scope identifier token).any (·.reportsError) = false := by
  rw [acceptanceCalls, List.any_append, Effect.quiet_vibrations, scope.quiet_told _ rfl]
  rfl

theorem reports_rejectionCalls (scope : Scope) (locksOut : Bool) :
    (rejectionCalls scope locksOut).any (·.reportsError) =
      (locksOut && scope.takes (.authenticationFailed scope.device)) := by
  rw [rejectionCalls, List.any_append, List.any_append, Effect.quiet_vibrations,
    scope.quiet_told _ rfl, Bool.false_or, Bool.false_or]
  cases locksOut && scope.takes (.authenticationFailed scope.device) <;> rfl

end Authentication

/-- A deed in which the result of an attempt reaches a session that has handled some
rejections, and so many of them lock the user out, or none at all if the limit is zero. -/
structure WorldDeed.Attempts (position : Nat) (limit rejections : Nat) (scope : Scope)
    (deed : WorldDeed BuiltinAction) : Prop where
  /-- A rejection that is handled makes its calls, with a lockout if it reaches the limit. -/
  calls : deed.rejects position = true →
    World.callsOf position deed.step.happenings =
      Authentication.rejectionCalls scope (0 < limit ∧ rejections + 1 = limit)
  /-- An error is reported just for a rejection that reaches the limit and that the client
  could be told of. -/
  reports_iff : (World.callsOf position deed.step.happenings).any (·.reportsError) = true ↔
    deed.rejects position = true ∧ (0 < limit ∧ rejections + 1 = limit) ∧
      scope.takes (.authenticationFailed scope.device) = true
  /-- The report of an error finishes the session. -/
  finishes : (World.callsOf position deed.step.happenings).any (·.reportsError) = true →
    deed.step.ending = .returned (.reply (.verdict true)) ∧
      ∃ monitor, deed.step.world.monitor? position = some monitor ∧
        monitor.session.done = true ∧ monitor.session.phase = .terminated

namespace World

variable {world : World BuiltinAction} {position : Nat}

/-- The calls for the result of an attempt are known from the number of rejections so far. -/
theorem callsOf_attempt {monitor : Monitor BuiltinAction}
    (found : world.monitor? position = some monitor) {authentication : Authentication}
    {count : Nat} (tallied : monitor.session.Tallied (.authenticate authentication) count)
    (identifier : BiometricIdentifier) (accepted : Bool) (bytes : List UInt8) :
    let limit := authentication.maxFailedAttempts.toNat
    let scope := monitor.session.scope monitor.setting (world.answers monitor)
    callsOf position (world.obey (.perform position
        (.callback (.result (.authenticated identifier accepted bytes))))).happenings =
      if monitor.session.isOpen then
        if accepted then
          Authentication.acceptanceCalls scope identifier bytes
        else
          Authentication.rejectionCalls scope (0 < limit ∧ count + 1 = limit)
      else
        [] := by
  intro limit scope
  rw [callsOf, effectsOf_obey_perform found, Session.calls_attempt tallied.action_eq]
  cases isOpen : monitor.session.isOpen with
  | false => rfl
  | true =>
      congr 3
      rw [Bool.eq_iff_iff, decide_eq_true_iff]
      exact tallied.locksOut_iff isOpen _ tallied.action_eq

/-- The result of an attempt is handled as is due. -/
theorem attempts_obey {monitor : Monitor BuiltinAction}
    (found : world.monitor? position = some monitor) {authentication : Authentication}
    {count : Nat} (tallied : monitor.session.Tallied (.authenticate authentication) count)
    {identifier : BiometricIdentifier} {accepted : Bool} {bytes : List UInt8}
    {deed : WorldDeed BuiltinAction}
    (isDeed : deed = ⟨world,
      .perform position (.callback (.result (.authenticated identifier accepted bytes))),
      world.obey
        (.perform position (.callback (.result (.authenticated identifier accepted bytes))))⟩)
    (steady : Steady (deed.deliveries position)) :
    deed.Attempts position authentication.maxFailedAttempts.toNat count
      (monitor.session.scope monitor.setting (world.answers monitor)) := by
  have rejects : deed.rejects position = (monitor.session.isOpen && !accepted) := by
    rw [isDeed, rejects_obey_perform found, Session.rejects_attempt tallied.action_eq]
  have shown := congrArg (fun deed => callsOf position deed.step.happenings) isDeed
  have calls := shown.trans (callsOf_attempt found tallied identifier accepted bytes)
  have reports : (callsOf position deed.step.happenings).any (·.reportsError) = true ↔
      deed.rejects position = true ∧
        (0 < authentication.maxFailedAttempts.toNat ∧
          count + 1 = authentication.maxFailedAttempts.toNat) ∧
          (monitor.session.scope monitor.setting (world.answers monitor)).takes
            (.authenticationFailed monitor.setting.descriptor.device) = true := by
    rw [calls, rejects]
    cases monitor.session.isOpen with
    | false => simp
    | true =>
        cases accepted with
        | true => simp [Authentication.quiet_acceptanceCalls]
        | false =>
            simp only [if_true, Bool.false_eq_true, if_false,
              Authentication.reports_rejectionCalls]
            simp [Scope.device, Session.scope]
  refine ⟨?_, reports, ?_⟩
  · intro rejected
    rw [rejects, Bool.and_eq_true, Bool.not_eq_true'] at rejected
    rw [calls, if_pos rejected.1, rejected.2]
    rfl
  · intro reported
    obtain ⟨rejected, ⟨limited, reached⟩, _⟩ := reports.mp reported
    rw [rejects, Bool.and_eq_true, Bool.not_eq_true'] at rejected
    obtain ⟨isOpen, rfl⟩ := rejected
    obtain ⟨finished, after, _, present, judges⟩ :=
      judges_obey found isOpen tallied isDeed steady
    obtain rfl : finished = true :=
      judges.finished_iff.mpr (.inl (.lockedOut rfl limited reached _ _))
    exact ⟨judges.answer, _, present, judges.ended rfl⟩

/-- The user is locked out just by the rejection that reaches the limit.  A session is made to
authenticate, and whatever a run does after that, as long as the session's listener breaks off
no call: the count of the session tells how many rejections it has handled, up to the greatest
number that it can hold; if there is a limit, they are no more than that; a rejection that the
session handles makes its calls, in order; and the result of an attempt makes the session
report an error just if it is the rejection that reaches the limit and the client could be
told of it, which finishes the session.  So without a limit no error is ever reported. -/
theorem lockout_comes_at_limit (world : World BuiltinAction) (setting : Setting)
    (operation : UInt64) (filter : AcquireFilter) (limit : UInt32) (token : Option Nat)
    (listener : Option Listener) (commands : List (WorldCommand BuiltinAction))
    (steady : Steady (deliveries world.monitors.length
      (world.deeds
        (.make setting (.authenticate (.fresh operation filter limit)) token listener ::
          commands)))) :
    let position := world.monitors.length
    let run := .make setting (.authenticate (.fresh operation filter limit)) token listener ::
      commands
    (∀ monitor, (world.after run).monitor? position = some monitor →
      ∃ authentication, monitor.session.action = .authenticate authentication ∧
        authentication.maxFailedAttempts = limit ∧
          authentication.failedAttempts.toNat =
            min (rejections position (world.deeds run)) (UInt32.size - 1)) ∧
      (0 < limit.toNat → rejections position (world.deeds run) ≤ limit.toNat) ∧
        ∀ earlier deed later identifier accepted bytes monitor,
          world.deeds run = earlier ++ deed :: later →
            deed.command = .perform position
                (.callback (.result (.authenticated identifier accepted bytes))) →
              deed.before.monitor? position = some monitor →
                deed.Attempts position limit.toNat (rejections position earlier)
                  (monitor.session.scope setting (deed.before.answers monitor)) := by
  intro position run
  have tallies := tallies_make world setting rfl token listener steady
  refine ⟨?_, tallies.bounded, ?_⟩
  · intro monitor found
    exact ⟨_, (tallies.stays.within monitor found).action_eq, rfl, BuiltinAction.toNat_count _⟩
  · intro earlier deed later identifier accepted bytes monitor split isAttempt found
    have member : deed ∈ world.deeds run := by
      rw [split]
      exact List.mem_append_right _ List.mem_cons_self
    have tallied := found_tallied rfl steady split found
    obtain ⟨rfl, _⟩ := found_as_made world setting _ token listener commands member found
    exact attempts_obey found tallied (deed_eq member isAttempt) (steady_of_mem steady member)

/-- The second of two rejections reaches the limit: the user feels it, the client hears of it
and of the lockout, and the session is finished.  A third one is not handled any more. -/
theorem lockout_comes_at_limit_second :
    let setting : Setting := ⟨⟨10, 20, false, "owner", 42, 1⟩, .fingerprint, .standard true⟩
    let listener : Listener := .failingAfter none .sent
    let making : WorldCommand BuiltinAction :=
      .make setting (.authenticate (.fresh 7 (.empty 6) 2)) none (some listener)
    let rejection : WorldCommand BuiltinAction :=
      .perform 0 (.callback (.result (.authenticated default false [])))
    let opening := [making, .perform 0 .start, rejection, .perform 0 (.stop true)]
    let before := (fresh []).after opening
    let deeds := (fresh []).deeds (opening ++ [rejection, rejection])
    Steady (deliveries 0 deeds) ∧ rejections 0 deeds ≤ 2 ∧
      callsOf 0 (before.obey rejection).happenings =
        [.vibration .doubleClick .assistanceSonification,
          .delivery (.authenticationFailed 1) .sent,
          .errorMetric .authenticate ErrorCode.lockout 0 10,
          .delivery (.error 1 ErrorCode.lockout 0 42) .sent] ∧
        (before.obey rejection).ending = .returned (.reply (.verdict true)) := by
  intro setting listener making rejection opening before deeds
  have steady : Steady (deliveries 0 deeds) := by decide
  have limited := lockout_comes_at_limit (fresh []) setting 7 (.empty 6) 2 none (some listener)
    [.perform 0 .start, rejection, .perform 0 (.stop true), rejection, rejection] steady
  have split : deeds = (fresh []).deeds opening ++ ⟨before, rejection, before.obey rejection⟩ ::
      (before.obey rejection).world.deeds [rejection] :=
    deeds_append (fresh []) opening [rejection, rejection]
  cases found : before.monitor? 0 with
  | none => exact absurd found (by decide)
  | some monitor =>
      have attempt := limited.2.2 _ _ _ _ _ _ monitor split rfl found
      exact ⟨steady, limited.2.1 (by decide), by decide, (attempt.finishes (by decide)).1⟩

end World

end BiometricSession
