import BiometricSession.Proofs.Session.Audit

/-!
# Verdicts

Whether an event finishes the session that handles it.  Besides errors, a session tells its
client of one event at most, and it is finished if the client cannot be told of that event, or
if the event concludes the session: an error, a result of another kind, an accepted attempt, a
rejection that locks the user out, or a result that leaves nothing remaining.  A finished
session has ended; any other session stays as it is but for the count of its action.
-/

namespace BiometricSession

namespace HardwareResult

/-- The kind of sessions that expect a result. -/
def kind : HardwareResult → ClientKind
  | enrolled .. => .enroll
  | authenticated .. => .authenticate
  | removed .. => .remove
  | enumerated .. => .enumerate

/-- How much a result leaves remaining, if it says so. -/
def remaining? : HardwareResult → Option Int32
  | enrolled _ remaining | removed _ remaining | enumerated _ remaining => some remaining
  | authenticated .. => none

end HardwareResult

/-- Why an event finishes a session even if its client can be told of it.  The session expects
results of a kind; it has handled some rejections, and so many of them lock the user out, or
none at all if the limit is zero. -/
inductive HardwareEvent.Concludes (kind : ClientKind) (limit rejections : Nat) :
    HardwareEvent → Prop
  | error (device : UInt64) (error vendor : Int32) :
      Concludes kind limit rejections (.error device error vendor)
  | foreign {result : HardwareResult} (foreign : result.kind ≠ kind) :
      Concludes kind limit rejections (.result result)
  | accepted (own : kind = .authenticate) (identifier : BiometricIdentifier)
      (token : List UInt8) :
      Concludes kind limit rejections (.result (.authenticated identifier true token))
  | lockedOut (own : kind = .authenticate) (limited : 0 < limit)
      (reached : rejections + 1 = limit) (identifier : BiometricIdentifier)
      (token : List UInt8) :
      Concludes kind limit rejections (.result (.authenticated identifier false token))
  | last {result : HardwareResult} (own : result.kind = kind)
      (nothingRemains : result.remaining? = some 0) :
      Concludes kind limit rejections (.result result)

/-- The first attempt of a call to tell the client of an event, if a listener is attached. -/
def Scope.attempt (scope : Scope) (event : ListenerEvent) : List DeliveryAttempt :=
  if scope.listening then [⟨event, scope.answers.delivery [] event⟩] else []

theorem Scope.takes_iff (scope : Scope) (event : ListenerEvent) :
    scope.takes event = true ↔
      ∀ delivery ∈ scope.attempt event, delivery.answer = .sent := by
  unfold takes attempt
  cases scope.listening <;> simp

/-! ## Calls -/

/-- A call tells the client of the given event, if any, and otherwise of errors only.  If it
returns, it finishes the session just if it concludes anyway or the client did not take the
event. -/
structure Emission.DecidedBy (scope : Scope) (news : Option ListenerEvent) (concluding : Bool)
    (emission : Emission Bool) : Prop where
  verdict : ∀ finished, emission.ending = .returned finished →
    finished = (concluding || news.any fun event => !scope.takes event)
  heard : (Effect.deliveries emission.effects).filter (fun delivery => !delivery.event.isError) =
    news.toList.flatMap scope.attempt

namespace Call

variable {scope : Scope} {news : Option ListenerEvent} {concluding : Bool}
  {earlier : List ListenerEvent}

theorem decidedBy_note {notice : Notice} {next : Unit → Call Bool}
    (rest : (next () earlier).DecidedBy scope news concluding) :
    ((note notice >>= next) earlier).DecidedBy scope news concluding := by
  rw [note_bind]
  exact ⟨rest.verdict, rest.heard⟩

theorem decidedBy_noteIf {condition : Prop} [Decidable condition] {notice : Notice}
    {next : Unit → Call Bool} (rest : (next () earlier).DecidedBy scope news concluding) :
    ((if condition then note notice >>= next else next ()) earlier).DecidedBy scope news
      concluding := by
  by_cases holds : condition
  · rw [if_pos holds]
    exact decidedBy_note rest
  · rw [if_neg holds]
    exact rest

theorem decidedBy_vibrate {effect : Option HapticEffect} {next : Unit → Call Bool}
    (rest : (next () earlier).DecidedBy scope news concluding) :
    ((Scope.vibrate effect >>= next) earlier).DecidedBy scope news concluding := by
  rw [Scope.vibrate_bind]
  refine ⟨rest.verdict, ?_⟩
  have still : Effect.deliveries (effect.toList.map fun effect =>
      .vibration effect .assistanceSonification) = [] := by
    cases effect <;> rfl
  rw [Effect.deliveries_append, still]
  exact rest.heard

theorem decidedBy_deliverOrNote (scope : Scope) {event : ListenerEvent}
    (noError : event.isError = false) :
    (scope.deliverOrNote event []).DecidedBy scope (some event) false := by
  have told := scope.returned_iff_takes event
  refine ⟨?_, ?_⟩
  · intro failed returned
    rw [returned] at told
    cases failed <;> simpa using told
  · rw [Scope.deliverOrNote_eq]
    cases listening : scope.listening with
    | false => simp [Scope.attempt, listening]
    | true =>
        cases answer : scope.answers.delivery [] event <;>
          simp [Scope.attempt, listening, answer, Effect.deliveries, Effect.delivery?, noError]

/-- The client is told of an event.  If that fails, the session is finished and nothing more is
done; otherwise the rest tells of errors at most and decides. -/
theorem decidedBy_tell {event : ListenerEvent} (noError : event.isError = false)
    {next : Bool → Call Bool} (lost : ∀ between, next true between = ⟨[], .returned true⟩)
    (kept : ∀ between, (next false between).DecidedBy scope none concluding) :
    ((scope.deliverOrNote event >>= next) []).DecidedBy scope (some event) concluding := by
  have told := decidedBy_deliverOrNote scope noError
  cases ended : (scope.deliverOrNote event []).ending with
  | crashed crash =>
      rw [bind_eq_of_crashed ended]
      exact ⟨nofun, told.heard⟩
  | returned failed =>
      have isFailed := told.verdict failed ended
      obtain ⟨between, joined⟩ := bind_eq_of_returned next ended
      rw [joined]
      cases failed with
      | true =>
          rw [lost between]
          refine ⟨?_, by simpa using told.heard⟩
          intro finished returned
          cases returned
          rw [isFailed, Bool.false_or, Bool.or_eq_right_iff_imp.mpr]
          intro _
          exact isFailed.symm
      | false =>
          have rest := kept between
          refine ⟨?_, ?_⟩
          · intro finished returned
            rw [rest.verdict finished returned, Option.any_none, Bool.or_false]
            rw [Bool.false_or] at isFailed
            rw [← isFailed, Bool.or_false]
          · rw [Effect.deliveries_append, List.filter_append, told.heard, rest.heard]
            exact List.append_nil _

theorem decidedBy_pure (scope : Scope) (finished : Bool) (earlier : List ListenerEvent) :
    ((pure finished : Call Bool) earlier).DecidedBy scope none finished := by
  refine ⟨?_, rfl⟩
  intro other returned
  cases returned
  simp

end Call

/-- The report of an error tells of nothing but errors. -/
theorem Scope.heard_reportError (scope : Scope) (kind : ClientKind) (device : UInt64)
    (error vendor : Int32) (earlier : List ListenerEvent) :
    (Effect.deliveries (scope.reportError kind device error vendor earlier).effects).filter
      (fun delivery => !delivery.event.isError) = [] := by
  rw [reportError_eq, deliverOrNote_eq]
  cases scope.listening with
  | false => rfl
  | true => cases scope.answers.delivery earlier _ <;> rfl

/-! ## The four actions -/

section Actions

variable (scope : Scope) (identifier : BiometricIdentifier) (remaining : Int32)

theorem Enrollment.decidedBy_enrolled :
    (enrolled scope identifier remaining []).DecidedBy scope
      (some (.enrollResult identifier remaining)) (remaining = 0) := by
  unfold enrolled
  refine Call.decidedBy_noteIf (Call.decidedBy_noteIf (Call.decidedBy_vibrate ?_))
  exact Call.decidedBy_tell rfl (fun _ => rfl) fun _ => Call.decidedBy_pure scope _ _

theorem Authentication.decidedBy_accepted (token : List UInt8) :
    (accepted scope identifier token []).DecidedBy scope
      (some (.authenticationSucceeded identifier token)) true := by
  unfold accepted
  refine Call.decidedBy_note (Call.decidedBy_vibrate ?_)
  exact Call.decidedBy_tell rfl (fun _ => rfl) fun _ => Call.decidedBy_pure scope _ _

theorem Authentication.decidedBy_rejected (authentication : Authentication) :
    (rejected scope authentication []).DecidedBy scope
      (some (.authenticationFailed scope.device)) authentication.isLockedOut := by
  unfold rejected
  refine Call.decidedBy_note (Call.decidedBy_vibrate ?_)
  refine Call.decidedBy_tell rfl (fun _ => rfl) ?_
  intro between
  cases authentication.isLockedOut with
  | false => exact Call.decidedBy_pure scope false between
  | true =>
      refine Call.decidedBy_note ?_
      cases ended : (scope.reportError .authenticate scope.device ErrorCode.lockout 0
          between).ending with
      | crashed crash =>
          rw [Call.bind_eq_of_crashed ended]
          exact ⟨nofun, scope.heard_reportError _ _ _ _ _⟩
      | returned nothing =>
          obtain ⟨later, joined⟩ := Call.bind_eq_of_returned _ ended
          rw [joined]
          refine ⟨(Call.decidedBy_pure scope true later).verdict, ?_⟩
          rw [Effect.deliveries_append, List.filter_append, scope.heard_reportError]
          rfl

theorem Removal.decidedBy_removed :
    (removed scope identifier remaining []).DecidedBy scope
      (some (.removed identifier remaining)) (remaining = 0) := by
  unfold removed
  refine Call.decidedBy_note ?_
  exact Call.decidedBy_tell rfl (fun _ => rfl) fun _ => Call.decidedBy_pure scope _ _

theorem Enumeration.decidedBy_enumerated :
    (enumerated scope identifier remaining []).DecidedBy scope
      (some (.enumerated identifier remaining)) (remaining = 0) :=
  Call.decidedBy_tell rfl (fun _ => rfl) fun _ => Call.decidedBy_pure scope _ _

end Actions

namespace BuiltinAction

/-- Whether a result that an action expects finishes the session even if the client is told of
it. -/
def concludes : BuiltinAction → HardwareResult → Bool
  | .authenticate _, .authenticated _ true _ => true
  | .authenticate authentication, .authenticated _ false _ => authentication.locksOut
  | _, result => result.remaining?.any fun remaining => remaining = 0

theorem decidedBy_respond (scope : Scope) {action : BuiltinAction} {result : HardwareResult}
    (own : result.kind = action.kind) :
    (action.respond scope result).emission.DecidedBy scope (some (result.news scope.device))
      (action.concludes result) := by
  cases action with
  | enroll enrollment =>
      cases result with
      | enrolled identifier remaining =>
          exact Enrollment.decidedBy_enrolled scope identifier remaining
      | authenticated | removed | enumerated => cases own
  | authenticate authentication =>
      cases result with
      | authenticated identifier accepted token =>
          cases accepted with
          | true => exact Authentication.decidedBy_accepted scope identifier token
          | false =>
              have decided :=
                Authentication.decidedBy_rejected scope authentication.countRejection
              rw [authentication.isLockedOut_countRejection] at decided
              exact decided
      | enrolled | removed | enumerated => cases own
  | remove removal =>
      cases result with
      | removed identifier remaining =>
          exact Removal.decidedBy_removed scope identifier remaining
      | enrolled | authenticated | enumerated => cases own
  | enumerate =>
      cases result with
      | enumerated identifier remaining =>
          exact Enumeration.decidedBy_enumerated scope identifier remaining
      | enrolled | authenticated | removed => cases own

theorem respond_foreign (scope : Scope) {action : BuiltinAction} {result : HardwareResult}
    (foreign : result.kind ≠ action.kind) :
    action.respond scope result = HardwareAction.unexpected action action.kind result := by
  unfold respond
  split
  · exact absurd rfl foreign
  · exact absurd rfl foreign
  · exact absurd rfl foreign
  · exact absurd rfl foreign
  · exact absurd rfl foreign
  · rfl

end BuiltinAction

/-! ## Sessions -/

namespace Session

variable {setting : Setting} {answers : Answers} {session : Session BuiltinAction}

/-- What a session tells its client of an event, besides errors. -/
def news? (setting : Setting) (action : BuiltinAction) : HardwareEvent → Option ListenerEvent
  | .acquired info vendor =>
      if action.filter.any (·.ignores info vendor) then none
      else some (.acquired setting.descriptor.device info vendor)
  | .error .. => none
  | .result result =>
      if result.kind = action.kind then some (result.news setting.descriptor.device) else none

/-- Whether an event finishes a session with an action even if the client is told of it. -/
def concludes (action : BuiltinAction) : HardwareEvent → Bool
  | .acquired .. => false
  | .error .. => true
  | .result result => result.kind ≠ action.kind || action.concludes result

theorem decidedBy_acquired (scope : Scope) (action : BuiltinAction) (info vendor : Int32) :
    (acquired scope action info vendor []).DecidedBy scope
      (news? scope.setting action (.acquired info vendor)) false := by
  have told : (acquisitionTold scope action info vendor []).DecidedBy scope
      (news? scope.setting action (.acquired info vendor)) false := by
    by_cases ignored : action.filter.any (·.ignores info vendor) = true
    · have silent : acquisitionTold scope action info vendor [] =
          ⟨[.notice (.acquisitionIgnored info vendor)], .returned false⟩ := if_pos ignored
      have noNews : news? scope.setting action (.acquired info vendor) = none := if_pos ignored
      rw [silent, noNews]
      exact ⟨(Call.decidedBy_pure scope false []).verdict, rfl⟩
    · have telling : acquisitionTold scope action info vendor [] =
          scope.deliverOrNote (.acquired scope.device info vendor) [] := if_neg ignored
      have news : news? scope.setting action (.acquired info vendor) =
          some (.acquired scope.device info vendor) := if_neg ignored
      rw [telling, news]
      exact Call.decidedBy_deliverOrNote scope rfl
  have quiet : Effect.deliveries (wake scope.user info) = [] := by
    unfold wake
    split <;> rfl
  rw [acquired_eq]
  dsimp only
  cases ended : (acquisitionTold scope action info vendor []).ending with
  | crashed crash => exact ⟨nofun, told.heard⟩
  | returned failed =>
      refine ⟨?_, ?_⟩
      · intro finished returned
        cases returned
        exact told.verdict failed ended
      · simp only [Effect.deliveries_append, quiet, List.append_nil]
        exact told.heard

/-- What a session makes of an event is decided by what it tells its client and by whether the
event concludes the session. -/
theorem decidedBy_reaction (setting : Setting) (answers : Answers)
    (session : Session BuiltinAction) (event : HardwareEvent) :
    (session.reaction setting answers event).emission.DecidedBy (session.scope setting answers)
      (news? setting session.action event) (concludes session.action event) := by
  cases event with
  | acquired info vendor => exact decidedBy_acquired _ session.action info vendor
  | error device error vendor =>
      change (failed _ session.action device error vendor []).DecidedBy _ none true
      rw [failed_eq]
      refine ⟨?_, Scope.heard_reportError _ _ _ _ _ _⟩
      intro finished returned
      obtain ⟨_, _, same⟩ := Ending.map_eq_returned.mp returned
      exact same.symm
  | result result =>
      change (session.action.respond (session.scope setting answers) result).emission.DecidedBy
        _ _ _
      by_cases own : result.kind = session.action.kind
      · have news : news? setting session.action (.result result) =
            some (result.news setting.descriptor.device) := if_pos own
        have concluding : concludes session.action (.result result) =
            session.action.concludes result := by simp [concludes, own]
        rw [news, concluding]
        exact BuiltinAction.decidedBy_respond (session.scope setting answers) own
      · have noNews : news? setting session.action (.result result) = none := if_neg own
        have concluding : concludes session.action (.result result) = true := by
          simp [concludes, own]
        rw [BuiltinAction.respond_foreign _ own, noNews, concluding]
        exact ⟨(Call.decidedBy_pure _ true []).verdict, rfl⟩

/-- The calls for an event are those of what the session makes of it, if it still handles
events. -/
theorem calls_callback (setting : Setting) (answers : Answers) (session : Session BuiltinAction)
    (event : HardwareEvent) :
    (session.perform setting answers (.callback event)).effects.filter (·.callsOut) =
      if session.isOpen then
        (session.reaction setting answers event).emission.effects.filter (·.callsOut)
      else
        [] := by
  obtain ⟨step, outcome, performed⟩ :=
    perform_outcome setting answers session (.callback event)
  have silent : session.recovery.filter (·.callsOut) = [] :=
    List.filter_eq_nil_iff.mpr fun effect reports => by
      simp [Session.recovery_callsOut reports]
  rw [performed, locked_effects, List.filter_append, silent, List.nil_append]
  cases outcome with
  | droppedAfterVerdict done =>
      have closed : session.isOpen = false := by simp [Session.isOpen, done]
      rw [closed]
      rfl
  | droppedAfterDestroy undone terminated =>
      have closed : session.isOpen = false := by simp [Session.isOpen, terminated]
      rw [closed]
      rfl
  | reactionBroken undone live | finished undone live | continued undone live =>
      rw [if_pos (isOpen_of_live undone live)]

/-- A session makes no call for a result of another kind. -/
theorem callsOut_foreign {result : HardwareResult} (foreign : result.kind ≠ session.action.kind) :
    (session.reaction setting answers (.result result)).emission.effects.filter (·.callsOut) =
      [] := by
  change (session.action.respond _ result).emission.effects.filter _ = []
  rw [BuiltinAction.respond_foreign _ foreign]
  rfl

/-- What concludes a session is known from the kind of its action, the limit, and the number of
rejections so far. -/
theorem concludes_iff {action : BuiltinAction} {limit rejections : Nat}
    (counted : ∀ authentication, action = .authenticate authentication →
      (authentication.locksOut = true ↔ 0 < limit ∧ rejections + 1 = limit))
    (event : HardwareEvent) :
    concludes action event = true ↔ event.Concludes action.kind limit rejections := by
  constructor
  · intro concluding
    cases event with
    | acquired => cases concluding
    | error => exact .error _ _ _
    | result result =>
        by_cases own : result.kind = action.kind
        · simp only [concludes, own, ne_eq, not_true_eq_false, decide_false,
            Bool.false_or] at concluding
          unfold BuiltinAction.concludes at concluding
          split at concluding
          · exact .accepted rfl _ _
          · obtain ⟨limited, reached⟩ := (counted _ rfl).mp concluding
            exact .lockedOut rfl limited reached _ _
          · refine .last own ?_
            cases leaves : result.remaining? with
            | none => simp [leaves] at concluding
            | some remaining => simpa [leaves] using concluding
        · exact .foreign own
  · intro concluding
    cases concluding with
    | error => rfl
    | foreign foreign => simp [concludes, foreign]
    | accepted own => cases action <;> rfl
    | lockedOut own limited reached =>
        cases action with
        | authenticate authentication =>
            exact (counted authentication rfl).mpr ⟨limited, reached⟩
        | enroll | remove | enumerate => rfl
    | @last result own nothingRemains =>
        cases result with
        | authenticated => cases nothingRemains
        | enrolled | removed | enumerated =>
            cases nothingRemains
            cases action <;> rfl

/-- A session that handles an event, and whose listener does not break that off, answers whether
it is finished.  If it is, it has ended, and in any case only its action may have changed
otherwise. -/
theorem handled (isOpen : session.isOpen = true) {event : HardwareEvent}
    (steady : Steady
      (Effect.deliveries (session.perform setting answers (.callback event)).effects)) :
    ∃ finished,
      (session.reaction setting answers event).emission.ending = .returned finished ∧
        session.perform setting answers (.callback event) =
          ⟨if finished then
              { session with
                action := (session.reaction setting answers event).action
                done := true
                phase := .terminated }
            else
              { session with action := (session.reaction setting answers event).action },
            session.recovery ++ (session.reaction setting answers event).emission.effects,
            .returned (.verdict finished)⟩ := by
  obtain ⟨step, outcome, performed⟩ :=
    perform_outcome setting answers session (.callback event)
  rw [performed] at steady ⊢
  rw [locked_deliveries] at steady
  cases outcome with
  | droppedAfterVerdict done => simp [Session.isOpen, done] at isOpen
  | droppedAfterDestroy undone terminated => simp [Session.isOpen, terminated] at isOpen
  | reactionBroken undone live crashed =>
      exact absurd steady (not_steady_of_broken (orderly_reaction _ _ _ _) crashed)
  | finished undone live returned => exact ⟨true, returned, rfl⟩
  | continued undone live returned => exact ⟨false, returned, rfl⟩

/-- An event finishes the session that handles it if it concludes the session, or if the client
could not be told of something other than an error, and otherwise it does not. -/
theorem finishes_iff {event : HardwareEvent} {limit rejections : Nat} {finished : Bool}
    (counted : ∀ authentication, session.action = .authenticate authentication →
      (authentication.locksOut = true ↔ 0 < limit ∧ rejections + 1 = limit))
    (returned :
      (session.reaction setting answers event).emission.ending = .returned finished) :
    finished = true ↔ event.Concludes session.action.kind limit rejections ∨
      ∃ delivery ∈
        Effect.deliveries (session.reaction setting answers event).emission.effects,
          delivery.event.isError = false ∧ delivery.answer ≠ .sent := by
  have decided := decidedBy_reaction setting answers session event
  -- nothing but the news can go undelivered: all other deliveries tell of errors
  have undelivered :
      (∃ delivery ∈
        Effect.deliveries (session.reaction setting answers event).emission.effects,
          delivery.event.isError = false ∧ delivery.answer ≠ .sent) ↔
        (news? setting session.action event).any
          (fun news => !(session.scope setting answers).takes news) = true := by
    calc (∃ delivery ∈ _, _ ∧ _)
        ↔ ∃ delivery ∈ (news? setting session.action event).toList.flatMap
            (session.scope setting answers).attempt, delivery.answer ≠ .sent := by
          rw [← decided.heard]
          simp [List.mem_filter, and_assoc]
      _ ↔ _ := by
          cases news? setting session.action event with
          | none => simp
          | some news =>
              have taken := (session.scope setting answers).takes_iff news
              simp only [Option.toList_some, List.flatMap_singleton, Option.any_some,
                Bool.not_eq_true', ← Bool.not_eq_true, taken,
                Classical.not_forall, exists_prop]
  rw [decided.verdict finished returned, Bool.or_eq_true, concludes_iff counted, undelivered]

end Session

end BiometricSession
