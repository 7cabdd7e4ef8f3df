import BiometricSession.Cookie
import BiometricSession.Replay.Line
import BiometricSession.Replay.Script
import BiometricSession.World.Basic

/-!
# Replays

A replay makes the session of a script, starts it, and lets the events of the
script happen to it in order.  The session is alone in its world, though
strangers may be linked to its client's token; hardware and listener answer as
the script says.  If the client is backed by a process, that process is looked
at before every event, and its end counts as the client's death.  In the end the
session is destroyed, unless the script did so itself.
-/

namespace BiometricSession

/-- Something that happens in a replay. -/
inductive Occurrence where
  | shown (line : ReplayLine)
  | logged (record : LogRecord)
  deriving DecidableEq, Repr

namespace Occurrence

def line? : Occurrence → Option ReplayLine
  | shown line => some line
  | logged _ => none

def record? : Occurrence → Option LogRecord
  | shown _ => none
  | logged record => some record

/-- What the simulated hardware says when it is started. -/
def halStartRecord (descriptor : SessionDescriptor) (request : HalRequest) : LogRecord :=
  .service .debug
    ("Simulated HAL start " ++ request.name ++ " for user " ++
      inspect descriptor.targetUser ++ " (group " ++ inspect descriptor.group ++ ")")

/-- What the simulated vibrator says when it vibrates. -/
def vibrationRecord (effect : HapticEffect) (usage : HapticUsage) : LogRecord :=
  .service .debug ("Vibrate " ++ inspect effect ++ " (" ++ inspect usage ++ ")")

/-- What a replay makes of an effect of its session. -/
def ofEffect (setting : Setting) : Effect → List Occurrence
  | .halStart descriptor request answer =>
      [logged (halStartRecord descriptor request), shown (.halStart request.kind answer.code)]
  | .halStop byClient answer => [shown (.halStop byClient answer.code)]
  | .delivery event .sent => [shown (.delivered (.ofEvent event))]
  | .delivery event (.refused _) | .delivery event .crash =>
      [shown (.deliveryFailed (.ofEvent event))]
  | .vibration effect usage =>
      [logged (vibrationRecord effect usage), shown (.haptic effect)]
  | .userActivity user => [shown (.userActivity user)]
  | .notice notice => [logged (notice.record setting.modality setting.descriptor)]
  | .acquiredMetric kind info vendor user =>
      (Effect.acquiredMetric kind info vendor user).metricsRecord?.toList.map logged
  | .errorMetric kind error vendor user =>
      (Effect.errorMetric kind error vendor user).metricsRecord?.toList.map logged
  | .unlink .. | .probed .. | .probeSent .. => []

/-- What a replay makes of something that happens in its world. -/
def ofHappening : Happening → List Occurrence
  | .effect _ setting effect => ofEffect setting effect
  | .logged record => [logged record]

end Occurrence

namespace SessionSpec

/-- The cookie of a session, and the counter after it.  An authentication
without a cookie of its own takes the next one from the counter. -/
def takeCookie (spec : SessionSpec) (counter : CookieCounter) :
    Int32 × CookieCounter × List LogRecord :=
  if spec.cookie = 0 && spec.kind = .authenticate then
    let (cookie, counter) := counter.allocate
    (cookie, counter,
      [.service .debug
        ("Allocated cookie " ++ inspect cookie ++ " for authenticate session")])
  else
    (spec.cookie, counter, [])

def descriptor (spec : SessionSpec) (cookie : Int32) : SessionDescriptor where
  targetUser := spec.user
  group := spec.group
  restricted := spec.restricted
  owner := spec.owner
  cookie := cookie
  device := spec.device

def action (spec : SessionSpec) (config : MonitorConfig) : BuiltinAction :=
  match spec.kind with
  | .enroll => .enroll (config.enrollment spec.authToken)
  | .authenticate => .authenticate (config.authentication spec.operation)
  | .remove => .remove ⟨spec.biometric⟩
  | .enumerate => .enumerate

/-- The template of a number in the session's group and on its device. -/
def identifier (spec : SessionSpec) (biometric : Int32) : BiometricIdentifier :=
  .unnamed biometric spec.group spec.device

end SessionSpec

namespace MonitorConfig

/-- What is fixed when a session is made as configured, on a device that can
vibrate. -/
def setting (config : MonitorConfig) (descriptor : SessionDescriptor) : Setting where
  descriptor := descriptor
  modality := config.modality
  haptics :=
    (HapticGate.standard true).withDefaults config.haptics.successDefault
      config.haptics.errorDefault

end MonitorConfig

namespace ScriptEvent

/-- The operation on the session that an event stands for.  The client's death
is none, since it reaches the session through the token. -/
def operation? (spec : SessionSpec) : ScriptEvent → Option Operation
  | acquired info vendor => some (.callback (.acquired info vendor))
  | error code vendor device =>
      some (.callback (.error (device.getD spec.device) code vendor))
  | enrollResult biometric remaining =>
      some (.callback (.result (.enrolled (spec.identifier biometric) remaining)))
  | authenticated biometric accepted token =>
      some (.callback (.result (.authenticated (spec.identifier biometric) accepted token)))
  | removed biometric remaining =>
      some (.callback (.result (.removed (spec.identifier biometric) remaining)))
  | enumerated biometric remaining =>
      some (.callback (.result (.enumerated (spec.identifier biometric) remaining)))
  | stop byClient => some (.stop byClient)
  | clientDied => none
  | destroy => some .destroy

end ScriptEvent

/-- A world of one session during a replay, and what happened on the way to
it. -/
structure ReplayStep where
  world : World BuiltinAction
  occurrences : List Occurrence

namespace ReplayStep

/-- Go on in the world that a step has led to. -/
def andThen (first : ReplayStep) (next : World BuiltinAction → ReplayStep) : ReplayStep :=
  let second := next first.world
  ⟨second.world, first.occurrences ++ second.occurrences⟩

end ReplayStep

namespace Replay

/-- The line that shows what an operation answered. -/
def answerLine? : Operation → Reply → Option ReplayLine
  | .start, .status code => some (.status .start code)
  | .stop _, .status code => some (.status .stop code)
  | .callback event, .verdict finished => some (.verdict event.callback finished)
  | .destroy, .none => some .destroyed
  | _, _ => none

/-- A step of the world, with a line that shows what it came to. -/
def report {Value : Type} (step : WorldStep BuiltinAction Value)
    (line? : Value → Option ReplayLine) : ReplayStep :=
  let answer :=
    match step.ending with
    | .returned value => (line? value).toList
    | .crashed _ => []
  ⟨step.world, step.happenings.flatMap Occurrence.ofHappening ++ answer.map .shown⟩

def perform (operation : Operation) (world : World BuiltinAction) : ReplayStep :=
  match world.monitor? 0 with
  | some monitor => report (world.perform 0 monitor operation) (answerLine? operation)
  | none => ⟨world, []⟩

def clientDeath (world : World BuiltinAction) : ReplayStep :=
  report (world.notifyDeath 0) fun notified => some (.clientDied notified)

/-- Look at the process behind the client, if there is one. -/
def checkOwner (processes : ProcessTable) (owner : Option UInt32)
    (world : World BuiltinAction) : ReplayStep :=
  match owner, world.tokens[0]? with
  | some process, some token =>
      match WatchFinding.of token.alive (processes.alive process) with
      | .processGone =>
          let record :=
            LogRecord.service .info
              ("Owner process " ++ inspect process ++ " exited, notifying death recipients")
          let step := clientDeath world
          { step with occurrences := .logged record :: step.occurrences }
      | .tokenDead | .running => ⟨world, []⟩
  | _, _ => ⟨world, []⟩

/-- What the log says when a client dies that has no token to tell it by. -/
def deathWithoutToken : LogRecord :=
  .service .warn "client_died event without a client token"

def happen (spec : SessionSpec) (event : ScriptEvent) (world : World BuiltinAction) :
    ReplayStep :=
  match event.operation? spec with
  | some operation => perform operation world
  | none =>
      match world.tokens with
      | [] => ⟨world, [.logged deathWithoutToken, .shown (.clientDied 0)]⟩
      | _ :: _ => clientDeath world

/-- Let the events of the script happen, and look at the client's process before
each of them.  Processes may come and go in between: each look finds the next
table. -/
def happenAll (owner : Option UInt32) (spec : SessionSpec) :
    (Nat → ProcessTable) → List ScriptEvent → World BuiltinAction → ReplayStep
  | _, [], world => ⟨world, []⟩
  | processes, event :: events, world =>
      ((checkOwner (processes 0) owner world).andThen (happen spec event)).andThen
        (happenAll owner spec (fun look => processes (look + 1)) events)

def leave (world : World BuiltinAction) : ReplayStep :=
  match world.monitor? 0 with
  | some monitor => report (world.drop 0 monitor) fun _ => none
  | none => ⟨world, []⟩

end Replay

namespace ReplayScript

/-- The world of a script before its session is made.  Of the recipients that the
token lists, some strangers still exist. -/
def surroundings (script : ReplayScript) (strangers : Nat → Bool)
    (token : Option (ClientToken Nat)) : World BuiltinAction where
  tokens := token.toList
  monitors := []
  hal := .steady (.status script.hal.startStatus) (.status script.hal.stopStatus)
  preferences := .empty
  strangers := strangers

/-- Make the session of a script under a cookie. -/
def make (script : ReplayScript) (config : MonitorConfig) (strangers : Nat → Bool)
    (token : Option (ClientToken Nat)) (cookie : Int32) : ReplayStep :=
  let step :=
    (script.surroundings strangers token).make (config.setting (script.session.descriptor cookie))
      (script.session.action config) (token.map fun _ => 0)
      (some (.failingAfter script.listener.failAfter (.refused .channelClosed)))
  let opening :=
    LogRecord.service .info
      ("Replaying " ++ script.session.kind.name ++ " session for user " ++
        inspect script.session.user ++ " (" ++ inspect script.events.length ++ " events)")
  let made := Replay.report step fun _ => none
  { made with occurrences := made.occurrences ++ [.logged opening] }

/-- Replay a script under a cookie, from the making of its session to the end. -/
def runWith (processes : Nat → ProcessTable) (config : MonitorConfig) (owner : Option UInt32)
    (script : ReplayScript) (strangers : Nat → Bool) (token : Option (ClientToken Nat))
    (cookie : Int32) : ReplayStep :=
  let played :=
    ((script.make config strangers token cookie).andThen (Replay.perform .start)).andThen
      (Replay.happenAll owner script.session processes script.events)
  let ended :=
    if script.events.contains .destroy then
      played
    else
      played.andThen (Replay.perform .destroy)
  ended.andThen Replay.leave

/-- The token of a script's client, if the session watches for the client's
death. -/
def clientToken (script : ReplayScript) (owner : Option UInt32) :
    Option (ClientToken Nat) :=
  if script.session.withToken then some (.fresh owner) else none

end ReplayScript

/-- A replay that has come to its end. -/
structure Replay where
  /-- What the log says about the session's cookie. -/
  cookieRecords : List LogRecord
  occurrences : List Occurrence
  /-- Whether the client is still alive, if it had a token. -/
  tokenAlive : Option Bool
  deriving DecidableEq, Repr

namespace Replay

def lines (replay : Replay) : List ReplayLine :=
  replay.occurrences.filterMap Occurrence.line?

/-- What a replay leaves in the log, except for what it says about the
cookie. -/
def records (replay : Replay) : List LogRecord :=
  replay.occurrences.filterMap Occurrence.record?

end Replay

namespace ReplayScript

/-- Replay a script, with the client's token if there is one, while the same
processes run throughout.  The session may take a cookie from the counter. -/
def run (processes : ProcessTable) (config : MonitorConfig) (owner : Option UInt32)
    (script : ReplayScript) (strangers : Nat → Bool) (token : Option (ClientToken Nat))
    (counter : CookieCounter) : Replay × CookieCounter :=
  let (cookie, counter, cookieRecords) := script.session.takeCookie counter
  let step := script.runWith (fun _ => processes) config owner strangers token cookie
  (⟨cookieRecords, step.occurrences, step.world.tokens.head?.map (·.alive)⟩, counter)

/-- Replay scripts one after the other, each with a fresh token if its session
watches for the client's death.  All take their cookies from one counter. -/
def runAll (processes : ProcessTable) (config : MonitorConfig) (owner : Option UInt32) :
    List ReplayScript → CookieCounter → List Replay
  | [], _ => []
  | script :: scripts, counter =>
      let (replay, counter) :=
        script.run processes config owner (fun _ => false) (script.clientToken owner) counter
      replay :: runAll processes config owner scripts counter

end ReplayScript

end BiometricSession
