import BiometricSession.Action.Builtin
import BiometricSession.Death.Process
import BiometricSession.Session.Basic

/-!
# Worlds of sessions

Sessions share the hardware, the users' preferences and the tokens of their
clients; each has a listener of its own.  A world holds all of them.  It
answers the calls of its sessions, removes their links on request, and carries
the death of a client to every session that is linked to the client's token.
-/

namespace BiometricSession

/-- How the hardware answers from now on.  It may answer every call in another
way; starts and stops are counted apart, each from zero. -/
structure Hal where
  start : Nat → HalAnswer
  stop : Nat → HalAnswer

namespace Hal

/-- Hardware that answers all starts alike and all stops alike. -/
def steady (start stop : HalAnswer) : Hal :=
  ⟨fun _ => start, fun _ => stop⟩

/-- Hardware that accepts everything. -/
def willing : Hal :=
  steady (.status 0) (.status 0)

/-- The hardware once it has answered the calls among some effects. -/
def after (hal : Hal) (effects : List Effect) : Hal where
  start call := hal.start (call + effects.countP (·.asksStart))
  stop call := hal.stop (call + effects.countP (·.asksStop))

end Hal

/-- A client's listener.  It answers an event in the light of those that it was
told before. -/
structure Listener where
  /-- What the listener was told so far, in order. -/
  told : List ListenerEvent
  answer : List ListenerEvent → ListenerEvent → DeliveryAnswer

namespace Listener

/-- A listener that was told nothing yet.  It takes so many events and then
answers each of them the same way; without a number it takes all events. -/
def failingAfter (successes : Option Nat) (failure : DeliveryAnswer) : Listener where
  told := []
  answer earlier _ :=
    if successes.all (earlier.length < ·) then .sent else failure

/-- The listener after it was told some more events. -/
def after (listener : Listener) (events : List ListenerEvent) : Listener :=
  { listener with told := listener.told ++ events }

end Listener

/-- A session with its setting and its listener. -/
structure Monitor (Action : Type) where
  setting : Setting
  session : Session Action
  /-- The client's listener, even after the session has let go of it; there is
  none if the session was made without one. -/
  listener : Option Listener

/-- Sessions and what they share.  Tokens and sessions are known by their
position; a session that was given up leaves its position empty. -/
structure World (Action : Type) where
  tokens : List (ClientToken Nat)
  monitors : List (Option (Monitor Action))
  hal : Hal
  preferences : Preferences
  /-- Which recipients on links still exist although they are no sessions of this
  world.  They hear of a client's death without calling anybody in it. -/
  strangers : Nat → Bool

/-- Something that happens in a world. -/
inductive Happening where
  /-- An effect of the session at a position. -/
  | effect (monitor : Nat) (setting : Setting) (effect : Effect)
  | logged (record : LogRecord)
  deriving DecidableEq, Repr

namespace Happening

/-- The log record that something leaves, if it is a matter for the log. -/
def record? : Happening → Option LogRecord
  | effect _ setting (.notice notice) =>
      some (notice.record setting.modality setting.descriptor)
  | effect .. => none
  | logged record => some record

end Happening

/-- What an operation on a world comes to. -/
structure WorldStep (Action Value : Type) where
  world : World Action
  happenings : List Happening
  ending : Ending Value

namespace WorldStep

def map {Action First Second : Type} (convert : First → Second)
    (step : WorldStep Action First) : WorldStep Action Second :=
  ⟨step.world, step.happenings, step.ending.map convert⟩

end WorldStep

namespace World

variable {Action : Type}

def fresh (processes : List (Option UInt32)) : World Action :=
  ⟨processes.map ClientToken.fresh, [], Hal.willing, Preferences.empty, fun _ => false⟩

/-- The session at a position, unless there is none or it was given up. -/
def monitor? (world : World Action) (position : Nat) : Option (Monitor Action) :=
  world.monitors[position]?.join

/-- Why the token refuses to remove the link that a session holds. -/
def unlinkRefusal (world : World Action) (session : Session Action) : Option TokenError :=
  match session.token, session.link with
  | some position, some link =>
      match world.tokens[position]? with
      | some token =>
          match token.unlink link with
          | .ok _ => none
          | .error error => some error
      | none => some .notLinked
  | _, _ => none

/-- How the collaborators answer a session during one call, in which it asks the
hardware for one thing at most. -/
def answers (world : World Action) (monitor : Monitor Action) : Answers where
  start := world.hal.start 0
  stop := world.hal.stop 0
  delivery earlier event :=
    match monitor.listener with
    | some listener => listener.answer (listener.told ++ earlier) event
    | none => .sent
  preferences := world.preferences
  unlinkRefusal := world.unlinkRefusal monitor.session

/-- Do what a session asks of its token. -/
def applyEffect (tokens : List (ClientToken Nat)) : Effect → List (ClientToken Nat)
  | .unlink position link none =>
      tokens.modify position fun token =>
        match token.unlink link with
        | .ok token => token
        | .error _ => token
  | _ => tokens

/-- The world after some effects of the session at a position, which is from
now on as given. -/
def settle (world : World Action) (position : Nat) (monitor : Option (Monitor Action))
    (effects : List Effect) : World Action :=
  { world with
    tokens := effects.foldl applyEffect world.tokens
    monitors := world.monitors.set position monitor
    hal := world.hal.after effects }

/-- Make a session.  The answer is its position. -/
def make (world : World Action) (setting : Setting) (action : Action) (token : Option Nat)
    (listener : Option Listener) : WorldStep Action Nat :=
  let position := world.monitors.length
  let linking : Option (Nat × Except TokenError (Nat × ClientToken Nat)) := do
    let number ← token
    let token ← world.tokens[number]?
    return (number, token.link position)
  let answer := linking.map fun (number, linked) => (number, linked.map Prod.fst)
  let tokens :=
    match linking with
    | some (number, .ok (_, token)) => world.tokens.set number token
    | _ => world.tokens
  let (session, effects) := Session.make action listener.isSome answer
  ⟨{ world with
      tokens
      monitors := world.monitors ++ [some ⟨setting, session, listener⟩] },
    effects.map (.effect position setting), .returned position⟩

section Action

variable [HardwareAction Action]

def perform (world : World Action) (position : Nat) (monitor : Monitor Action)
    (operation : Operation) : WorldStep Action Reply :=
  let step := monitor.session.perform monitor.setting (world.answers monitor) operation
  let monitor :=
    { monitor with
      session := step.session
      listener := monitor.listener.map (·.after (Effect.attempts step.effects)) }
  ⟨world.settle position (some monitor) step.effects,
    step.effects.map (.effect position monitor.setting), step.ending⟩

def drop (world : World Action) (position : Nat) (monitor : Monitor Action) :
    WorldStep Action Unit :=
  let emission := monitor.session.drop monitor.setting (world.answers monitor)
  ⟨world.settle position none emission.effects,
    emission.effects.map (.effect position monitor.setting), emission.ending⟩

def inspection (world : World Action) (position : Nat) (monitor : Monitor Action) :
    WorldStep Action String :=
  let (text, effects) := monitor.session.inspection monitor.setting
  ⟨world, effects.map (.effect position monitor.setting), .returned text⟩

/-- Tell every recipient on a list of links of the client's death, except those
that were given up.  The answer counts those that were told; a session whose
call is broken off leaves the others untold. -/
def tellAll : List (DeathLink Nat) → World Action → WorldStep Action Nat
  | [], world => ⟨world, [], .returned 0⟩
  | link :: links, world =>
      match world.monitor? link.recipient with
      | some monitor =>
          let first := world.perform link.recipient monitor (.clientDied true)
          match first.ending with
          | .crashed crash => ⟨first.world, first.happenings, .crashed crash⟩
          | .returned _ =>
              let rest := tellAll links first.world
              ⟨rest.world, first.happenings ++ rest.happenings, rest.ending.map (· + 1)⟩
      | none => (tellAll links world).map (· + (world.strangers link.recipient).toNat)

/-- Declare a token dead and tell everybody who is linked to it. -/
def notifyDeath (world : World Action) (position : Nat) : WorldStep Action Nat :=
  match world.tokens[position]?.bind ClientToken.die with
  | some (links, token) =>
      tellAll links { world with tokens := world.tokens.set position token }
  | none => ⟨world, [], .returned 0⟩

def watch (processes : ProcessTable) (world : World Action) (position : Nat)
    (token : ClientToken Nat) (process : UInt32) : WorldStep Action WatchFinding :=
  let finding := WatchFinding.of token.alive (processes.alive process)
  let report := (finding.report process).map Happening.logged
  match finding with
  | .processGone =>
      let step := world.notifyDeath position
      ⟨step.world, report ++ step.happenings, step.ending.map fun _ => finding⟩
  | .tokenDead | .running => ⟨world, report, .returned finding⟩

end Action

/-- Remove a link from a token on behalf of somebody else than its session. -/
def unlink (world : World Action) (position : Nat) (token : ClientToken Nat) (link : Nat) :
    Except TokenError (World Action) :=
  match token.unlink link with
  | .ok token => .ok { world with tokens := world.tokens.set position token }
  | .error error => .error error

def setHal (world : World Action) (hal : Hal) : World Action :=
  { world with hal }

def setPreference (world : World Action) (key : PreferenceKey) (user : Int32) (value : Bool) :
    World Action :=
  { world with preferences := world.preferences.set key user value }

def setListener (world : World Action) (position : Nat) (monitor : Monitor Action)
    (listener : Listener) : World Action :=
  { world with
    monitors := world.monitors.set position (some { monitor with listener := some listener }) }

/-- For every token, whether it is alive and how many links it holds. -/
def summary (world : World Action) : List (Bool × Nat) :=
  world.tokens.map fun token => (token.alive, token.linkedCount)

end World

end BiometricSession
