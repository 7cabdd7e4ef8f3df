import BiometricSession.Death.Process
import BiometricSession.Death.Token

/-!
# Cascades of deaths

A recipient that hears of a death may act on it: link itself or others to
tokens, remove links, give up recipients, change what recipients do, and
declare further deaths, all in the middle of the first notification.  A
registry holds the tokens and the recipients of such a cascade.

A death tells somebody only if its token was alive, and it ends the token's
life before anybody is told.  So deaths that tell somebody are nested at most
as deep as there are live tokens, which is what the notification recurses on.
-/

namespace BiometricSession

/-- What a recipient can do, on its own or when it hears of a death.  Tokens are
known by their position, recipients by their name. -/
inductive DeathAction where
  | link (token : Nat) (recipient : String)
  | unlink (token : Nat) (link : Nat)
  /-- Give up a recipient: nothing but a running notification keeps it. -/
  | drop (recipient : String)
  /-- Say what a recipient does whenever it hears of a death. -/
  | onDeath (recipient : String) (reaction : List DeathAction)
  | die (token : Nat)
  | watch (token : Nat) (process : UInt32)
  | processAlive (process : UInt32)
  | look (token : Nat)
  /-- An action that nobody knows. -/
  | unknown

/-- What comes of an action. -/
inductive DeathAnswer where
  | linked (link : Nat)
  | unlinked
  | refused (error : TokenError)
  | known (isKnown : Bool)
  | notified (count : Nat)
  | watched (finding : WatchFinding)
  | processAlive (isAlive : Bool)
  | looked (process : Option UInt32) (alive : Bool) (linkedCount : Nat) (text : String)
  | noToken
  | unknown

/-- Something that happens in a cascade. -/
inductive DeathEvent where
  /-- A token has issued a link to a numbered recipient. -/
  | linked (token link recipient : Nat)
  /-- A link was removed before its token died. -/
  | unlinked (token link : Nat)
  /-- A token dies; its links are taken. -/
  | began (token : Nat)
  /-- A recipient hears of a token's death by one of its links. -/
  | told (token link recipient : Nat) (name : String)
  /-- The recipient of that name has done one of its actions. -/
  | reacted (name : String) (answer : DeathAnswer)
  /-- Everybody linked to the token has been told. -/
  | ended (token count : Nat)
  | logged (record : LogRecord)

/-- An entry in the full account of a cascade, which beside the events holds
what came to nothing and what came to its end. -/
inductive DeathRecord where
  | event (happened : DeathEvent)
  /-- A token has refused a link. -/
  | linkRefused (token : Nat) (error : TokenError)
  /-- A token has refused to remove a link. -/
  | unlinkRefused (token link : Nat) (error : TokenError)
  /-- A recipient was given up by its owner. -/
  | givenUp (recipient : Nat)
  /-- A death was declared that tells nobody, because the token is dead. -/
  | redeclared (token : Nat)
  /-- The turn of a link has come, but its recipient does not exist any more. -/
  | missed (token link recipient : Nat)
  /-- A recipient has done all it does about a death that it was told of. -/
  | settled (recipient : Nat)

namespace DeathRecord

def event? : DeathRecord → Option DeathEvent
  | event happened => some happened
  | _ => none

end DeathRecord

/-- Somebody who may be linked to tokens. -/
structure DeathRecipient where
  name : String
  /-- What the recipient does when it hears of a death. -/
  reaction : List DeathAction
  /-- Whether its owner has not given it up. -/
  held : Bool

/-- Tokens and recipients.  Recipients are numbered in the order in which they
were made; a name stands for the one recipient of that name that is held. -/
structure DeathRegistry where
  tokens : List (ClientToken Nat)
  recipients : List DeathRecipient
  /-- Numbers of those that are being told of a death, innermost first. -/
  beingTold : List Nat

/-- What a stretch of a cascade comes to. -/
structure DeathProgress (Answer : Type) where
  registry : DeathRegistry
  answer : Answer
  /-- The full account of the stretch. -/
  records : List DeathRecord

namespace DeathProgress

def events {Answer : Type} (progress : DeathProgress Answer) : List DeathEvent :=
  progress.records.filterMap DeathRecord.event?

end DeathProgress

namespace DeathRegistry

def fresh (processes : List (Option UInt32)) : DeathRegistry :=
  ⟨processes.map ClientToken.fresh, [], []⟩

def liveTokens (registry : DeathRegistry) : Nat :=
  registry.tokens.countP (·.alive)

/-- The number of the recipient that a name stands for. -/
def find? (registry : DeathRegistry) (name : String) : Option Nat :=
  registry.recipients.findIdx? fun recipient => recipient.held && recipient.name == name

/-- The recipient of a number, if it exists: while its owner holds it or while it
is being told. -/
def existing? (registry : DeathRegistry) (recipient : Nat) : Option DeathRecipient :=
  registry.recipients[recipient]?.filter fun details =>
    details.held || registry.beingTold.contains recipient

/-- The recipient that a name stands for, made if there is none. -/
def obtain (registry : DeathRegistry) (name : String) : Nat × DeathRegistry :=
  match registry.find? name with
  | some recipient => (recipient, registry)
  | none =>
      (registry.recipients.length,
        { registry with recipients := registry.recipients ++ [⟨name, [], true⟩] })

def setToken (registry : DeathRegistry) (position : Nat) (token : ClientToken Nat) :
    DeathRegistry :=
  { registry with tokens := registry.tokens.set position token }

/-- Change the recipient that a name stands for; the answer says whether there
is one.  The account is told its number. -/
def change (registry : DeathRegistry) (name : String)
    (update : DeathRecipient → DeathRecipient) (account : Nat → List DeathRecord) :
    DeathProgress DeathAnswer :=
  match registry.find? name with
  | some recipient =>
      ⟨{ registry with recipients := registry.recipients.modify recipient update },
        .known true, account recipient⟩
  | none => ⟨registry, .known false, []⟩

/-- Link the recipient of a name to a token. -/
def link (registry : DeathRegistry) (position : Nat) (token : ClientToken Nat)
    (name : String) : DeathProgress DeathAnswer :=
  let (recipient, registry) := registry.obtain name
  match token.link recipient with
  | .ok (number, token) =>
      ⟨registry.setToken position token, .linked number,
        [.event (.linked position number recipient)]⟩
  | .error error => ⟨registry, .refused error, [.linkRefused position error]⟩

def unlink (registry : DeathRegistry) (position : Nat) (token : ClientToken Nat)
    (number : Nat) : DeathProgress DeathAnswer :=
  match token.unlink number with
  | .ok token =>
      ⟨registry.setToken position token, .unlinked, [.event (.unlinked position number)]⟩
  | .error error => ⟨registry, .refused error, [.unlinkRefused position number error]⟩

/-- Way to declare a death: the answer counts those that were told. -/
abbrev Notification :=
  DeathRegistry → Nat → DeathProgress Nat

/-- Do one action, with the given way to declare deaths. -/
def performWith (processes : ProcessTable) (notify : Notification)
    (registry : DeathRegistry) : DeathAction → DeathProgress DeathAnswer
  | .link position name =>
      match registry.tokens[position]? with
      | some token => registry.link position token name
      | none => ⟨registry, .noToken, []⟩
  | .unlink position number =>
      match registry.tokens[position]? with
      | some token => registry.unlink position token number
      | none => ⟨registry, .noToken, []⟩
  | .drop name =>
      registry.change name (fun recipient => { recipient with held := false })
        fun recipient => [.givenUp recipient]
  | .onDeath name reaction =>
      registry.change name (fun recipient => { recipient with reaction }) fun _ => []
  | .die position =>
      match registry.tokens[position]? with
      | some _ =>
          let progress := notify registry position
          ⟨progress.registry, .notified progress.answer, progress.records⟩
      | none => ⟨registry, .noToken, []⟩
  | .watch position process =>
      match registry.tokens[position]? with
      | some token =>
          let finding := WatchFinding.of token.alive (processes.alive process)
          let report := (finding.report process).map fun record => .event (.logged record)
          match finding with
          | .processGone =>
              let progress := notify registry position
              ⟨progress.registry, .watched finding, report ++ progress.records⟩
          | .tokenDead | .running => ⟨registry, .watched finding, report⟩
      | none => ⟨registry, .noToken, []⟩
  | .processAlive process => ⟨registry, .processAlive (processes.alive process), []⟩
  | .look position =>
      match registry.tokens[position]? with
      | some token =>
          ⟨registry, .looked token.process token.alive token.linkedCount (inspect token), []⟩
      | none => ⟨registry, .noToken, []⟩
  | .unknown => ⟨registry, .unknown, []⟩

/-- Let the recipient of a name do its actions one after the other. -/
def reactWith (processes : ProcessTable) (notify : Notification) (name : String) :
    List DeathAction → DeathRegistry → DeathProgress Unit
  | [], registry => ⟨registry, (), []⟩
  | action :: actions, registry =>
      let first := registry.performWith processes notify action
      let rest := reactWith processes notify name actions first.registry
      ⟨rest.registry, (),
        first.records ++ .event (.reacted name first.answer) :: rest.records⟩

/-- Tell one recipient of a death and let it react.  It exists until it has
reacted, even if it is given up meanwhile. -/
def tellWith (processes : ProcessTable) (notify : Notification) (recipient : Nat)
    (details : DeathRecipient) (registry : DeathRegistry) : DeathProgress Unit :=
  let told := { registry with beingTold := recipient :: registry.beingTold }
  let progress := reactWith processes notify details.name details.reaction told
  ⟨{ progress.registry with beingTold := progress.registry.beingTold.erase recipient }, (),
    progress.records ++ [.settled recipient]⟩

/-- Tell everybody on a list of links that still exists at its turn; the answer
counts them. -/
def tellAllWith (processes : ProcessTable) (notify : Notification) (position : Nat) :
    List (DeathLink Nat) → DeathRegistry → DeathProgress Nat
  | [], registry => ⟨registry, 0, []⟩
  | link :: links, registry =>
      match registry.existing? link.recipient with
      | some details =>
          let first := tellWith processes notify link.recipient details registry
          let rest := tellAllWith processes notify position links first.registry
          ⟨rest.registry, rest.answer + 1,
            .event (.told position link.number link.recipient details.name) ::
              (first.records ++ rest.records)⟩
      | none =>
          let rest := tellAllWith processes notify position links registry
          { rest with
            records := .missed position link.number link.recipient :: rest.records }

/-- Declare a death, with at most `depth` further deaths nested in it that tell
somebody.  At depth zero no token is alive, so there is nobody to tell. -/
def notifyWithin (processes : ProcessTable) : Nat → Notification
  | 0, registry, position => ⟨registry, 0, [.redeclared position]⟩
  | depth + 1, registry, position =>
      match registry.tokens[position]?.bind ClientToken.die with
      | some (links, token) =>
          let progress :=
            tellAllWith processes (notifyWithin processes depth) position links
              (registry.setToken position token)
          { progress with
            records :=
              .event (.began position) ::
                (progress.records ++ [.event (.ended position progress.answer)]) }
      | none => ⟨registry, 0, [.redeclared position]⟩

/-- Declare a token dead and tell everybody linked to it. -/
def notify (processes : ProcessTable) : Notification :=
  fun registry position => notifyWithin processes registry.liveTokens registry position

def perform (processes : ProcessTable) (registry : DeathRegistry) (action : DeathAction) :
    DeathProgress DeathAnswer :=
  registry.performWith processes (notify processes) action

/-- For every token, whether it is alive and how many links it holds. -/
def summary (registry : DeathRegistry) : List (Bool × Nat) :=
  registry.tokens.map fun token => (token.alive, token.linkedCount)

end DeathRegistry

end BiometricSession
