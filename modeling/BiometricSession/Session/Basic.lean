import BiometricSession.Action.Basic

/-!
# Sessions

The state of one session between a client and the hardware, and its life
cycle.  A session starts its operation at most once, cancels it at most once,
passes the hardware's events on to the client until one of them finishes it,
and is destroyed or given up in the end.

Every operation but the last works under the session's lock.  A collaborator
that breaks off an operation leaves the lock poisoned; that is reported by
every later operation and changes nothing else.
-/

namespace BiometricSession

/-- The state of one session. -/
structure Session (Action : Type) where
  action : Action
  phase : Phase
  /-- The hardware has accepted a request to cancel the operation. -/
  cancelled : Bool
  /-- The session has been finished by an event. -/
  done : Bool
  /-- Position of the token that the session still holds. -/
  token : Option Nat
  /-- Number of the session's link to its token. -/
  link : Option Nat
  /-- Whether the client's listener is still attached. -/
  listening : Bool
  destroyed : Bool
  poisoned : Bool
  deriving DecidableEq, Repr

/-- An operation on a session. -/
inductive Operation where
  | start
  | stop (byClient : Bool)
  | callback (event : HardwareEvent)
  /-- The client has died; the listener is detached unless it is to be kept. -/
  | clientDied (clearListener : Bool)
  | destroy
  deriving DecidableEq, Repr

/-- What an operation answers. -/
inductive Reply where
  | none
  | status (code : Int32)
  /-- Whether the session is finished. -/
  | verdict (finished : Bool)
  deriving DecidableEq, Repr

/-- What an operation comes to. -/
structure Step (Action Value : Type) where
  session : Session Action
  effects : List Effect
  ending : Ending Value
  deriving DecidableEq, Repr

namespace Step

def map {Action First Second : Type} (convert : First → Second) (step : Step Action First) :
    Step Action Second :=
  ⟨step.session, step.effects, step.ending.map convert⟩

end Step

namespace Session

variable {Action : Type}

/-- A new session.  If it was given a token, `linked` is what the token said to
its wish to be linked. -/
def make (action : Action) (listening : Bool) :
    Option (Nat × Except TokenError Nat) → Session Action × List Effect
  | none =>
      (⟨action, .created, false, false, none, none, listening, false, false⟩, [])
  | some (token, .ok link) =>
      (⟨action, .created, false, false, some token, some link, listening, false, false⟩, [])
  | some (token, .error error) =>
      (⟨action, .created, false, false, some token, none, listening, false, false⟩,
        [.notice (.linkRefused error)])

/-- What taking the lock reports. -/
def recovery (session : Session Action) : List Effect :=
  if session.poisoned then [.notice .recoveringLock] else []

/-- Take an operation's step under the lock of the session it began with. -/
def locked {Value : Type} (session : Session Action) (step : Step Action Value) :
    Step Action Value :=
  let effects := session.recovery ++ step.effects
  match step.ending with
  | .returned value => ⟨step.session, effects, .returned value⟩
  | .crashed crash => ⟨{ step.session with poisoned := true }, effects, .crashed crash⟩

/-- What an action may reach while the session is in this state. -/
def scope (setting : Setting) (answers : Answers) (session : Session Action) : Scope :=
  ⟨setting, answers, session.listening⟩

/-- Ask the hardware to cancel the operation, with the lock held.  A session
that has ended or was cancelled before needs no cancelling. -/
def cancel (answers : Answers) (session : Session Action) (byClient : Bool) :
    Step Action Int32 :=
  if session.phase = .terminated then
    ⟨session, [.notice .stopAfterEnd], .returned 0⟩
  else if session.cancelled then
    ⟨session, [.notice .stopAlreadyCancelled], .returned 0⟩
  else
    let call := Effect.halStop byClient answers.stop
    match answers.stop with
    | .crash _ => ⟨session, [call], .crashed .halStop⟩
    | .status code =>
        if code = 0 then
          ⟨{ session with cancelled := true }, [call, .notice (.stopped byClient)],
            .returned 0⟩
        else
          ⟨session, [call, .notice (.stopRefused code)], .returned code⟩

/-- Ask the hardware to cancel the operation.  The session ends only with the
event that the hardware sends in return. -/
def stop (answers : Answers) (session : Session Action) (byClient : Bool) :
    Step Action Int32 :=
  session.locked (session.cancel answers byClient)

/-- React to the client's death: cancel the operation, and let go of the token
and, unless it is to be kept, of the listener. -/
def clientDied (answers : Answers) (session : Session Action) (clearListener : Bool) :
    Step Action Unit :=
  session.locked <|
    if session.destroyed then
      ⟨session, [.notice .diedAfterDestroy], .returned ()⟩
    else
      let stopping := session.cancel answers false
      let effects := .notice .clientDied :: stopping.effects
      match stopping.ending with
      | .crashed crash => ⟨stopping.session, effects, .crashed crash⟩
      | .returned _ =>
          ⟨{ stopping.session with
              token := none
              link := none
              listening := stopping.session.listening && !clearListener },
            effects, .returned ()⟩

/-- Let the session's token remove its link, if the session still holds the
token.  The given notice reports a refusal. -/
def unlinking (answers : Answers) (session : Session Action) (report : TokenError → Notice) :
    List Effect :=
  match session.token, session.link with
  | some token, some link =>
      .unlink token link answers.unlinkRefusal ::
        (answers.unlinkRefusal.toList.map fun error => .notice (report error))
  | _, _ => []

section Action

variable [HardwareAction Action]

/-- Ask the hardware to begin the operation, unless it was begun before or the
session has ended. -/
def start (setting : Setting) (answers : Answers) (session : Session Action) :
    Step Action Int32 :=
  session.locked <|
    if session.phase ≠ .created then
      ⟨session, [.notice (.startIgnored session.phase)], .returned alreadyInProgress⟩
    else
      let request := HardwareAction.request session.action
      let call := Effect.halStart setting.descriptor request answers.start
      match answers.start with
      | .crash _ => ⟨session, [call], .crashed .halStart⟩
      | .status code =>
          if code = 0 then
            ⟨{ session with phase := .running }, [call, .notice (.started request)],
              .returned 0⟩
          else
            ⟨session, [call, .notice (.startRefused request code)], .returned code⟩

/-- Pass an acquisition on to the client, unless it is kept back.  A good one
also shows that the user is active. -/
def acquired (scope : Scope) (action : Action) (info vendor : Int32) : Call Bool := do
  Call.emit [.acquiredMetric (HardwareAction.kind action) info vendor scope.user]
  Call.note (.acquired info vendor)
  let isIgnored := (HardwareAction.filter action).any (·.ignores info vendor)
  let failed ←
    if isIgnored then do
      Call.note (.acquisitionIgnored info vendor)
      pure false
    else
      scope.deliverOrNote (.acquired scope.device info vendor)
  if info = AcquiredCode.good then
    Call.emit [.userActivity scope.user]
  return failed

/-- Report an error of the hardware, which finishes the session. -/
def failed (scope : Scope) (action : Action) (device : UInt64) (error vendor : Int32) :
    Call Bool := do
  scope.reportError (HardwareAction.kind action) device error vendor
  return true

/-- What a session that has not ended makes of an event. -/
def react (scope : Scope) (action : Action) : HardwareEvent → Reaction Action
  | .acquired info vendor => ⟨action, (acquired scope action info vendor).run⟩
  | .error device error vendor => ⟨action, (failed scope action device error vendor).run⟩
  | .result result => HardwareAction.respond scope action result

/-- Handle an event of the hardware.  The answer says whether it finishes the
session; a session that has ended drops all events. -/
def handle (setting : Setting) (answers : Answers) (session : Session Action)
    (event : HardwareEvent) : Step Action Bool :=
  session.locked <|
    if session.done then
      ⟨session, [.notice (.callbackAfterVerdict event.callback)], .returned false⟩
    else if session.phase = .terminated then
      ⟨session, [.notice (.callbackAfterDestroy event.callback)], .returned false⟩
    else
      let reaction := react (session.scope setting answers) session.action event
      let effects := reaction.emission.effects
      match reaction.emission.ending with
      | .crashed crash =>
          ⟨{ session with action := reaction.action }, effects, .crashed crash⟩
      | .returned true =>
          ⟨{ session with action := reaction.action, done := true, phase := .terminated },
            effects, .returned true⟩
      | .returned false =>
          ⟨{ session with action := reaction.action }, effects, .returned false⟩

/-- Let go of the token and the listener, and end the session. -/
def destroy (answers : Answers) (session : Session Action) : Step Action Unit :=
  let unlinked :=
    match session.token, session.link with
    | some _, none => [.notice (.unlinkFailed .notLinked)]
    | _, _ => session.unlinking answers .unlinkFailed
  let ended :=
    if session.destroyed then
      []
    else
      [.notice (.destroyed (HardwareAction.kind session.action))]
  session.locked
    ⟨{ session with
        token := none
        link := session.token.elim session.link fun _ => none
        listening := false
        destroyed := true
        phase := if session.destroyed then session.phase else .terminated },
      unlinked ++ ended, .returned ()⟩

/-- Give the session up.  A session that still holds its token was never
destroyed: its link is removed, and unless it is finished, the client hears that
the hardware is unavailable. -/
def drop (setting : Setting) (answers : Answers) (session : Session Action) : Emission Unit :=
  match session.token with
  | none => ⟨[], .returned ()⟩
  | some _ =>
      let opening := .notice .leaked :: session.unlinking answers .leakUnlinkFailed
      if session.done then
        ⟨opening, .returned ()⟩
      else
        let scope := session.scope setting answers
        let report :=
          (scope.reportError (HardwareAction.kind session.action) scope.device
            ErrorCode.hardwareUnavailable 0).run
        ⟨opening ++ report.effects, report.ending⟩

def perform (setting : Setting) (answers : Answers) (session : Session Action) :
    Operation → Step Action Reply
  | .start => (session.start setting answers).map .status
  | .stop byClient => (session.stop answers byClient).map .status
  | .callback event => (session.handle setting answers event).map .verdict
  | .clientDied clearListener =>
      (session.clientDied answers clearListener).map fun _ => .none
  | .destroy => (session.destroy answers).map fun _ => .none

/-- A session shown for inspection, which takes the lock like any operation. -/
def inspection (setting : Setting) (session : Session Action) : String × List Effect :=
  let termination :=
    Inspect.record "TerminationState"
      [Inspect.part "already_cancelled" (inspect session.cancelled),
        Inspect.part "already_done" (inspect session.done)]
  (Inspect.openRecord "ClientMonitor"
    [Inspect.part "kind" (inspect (HardwareAction.kind session.action)),
      Inspect.part "descriptor" (inspect setting.descriptor),
      Inspect.part "phase" (inspect session.phase),
      Inspect.part "termination" termination],
    session.recovery)

end Action

end Session

end BiometricSession
