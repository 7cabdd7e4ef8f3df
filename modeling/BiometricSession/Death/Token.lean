import BiometricSession.Inspect

/-!
# Client tokens

A client token stands for the process that asked for a session.  Whoever wants
to hear of the death of that process links itself to the token.  A link is
known by a number, so that it can be removed again; the death takes all links
at once, so that nobody hears of it twice.
-/

namespace BiometricSession

/-- Why a token refuses a change to its links. -/
inductive TokenError where
  /-- The process has died, so nothing can be linked any more. -/
  | alreadyDead
  /-- The link was removed before, or the death has taken it. -/
  | notLinked
  deriving DecidableEq, Repr

namespace TokenError

def message : TokenError → String
  | alreadyDead => "client process is already dead"
  | notLinked => "death recipient is not linked"

def name : TokenError → String
  | alreadyDead => "AlreadyDead"
  | notLinked => "NotLinked"

end TokenError

/-- One recipient's wish to hear of a death. -/
structure DeathLink (Recipient : Type) where
  number : Nat
  recipient : Recipient
  deriving DecidableEq, Repr

/-- Identity of a client process, with the links to its death. -/
structure ClientToken (Recipient : Type) where
  process : Option UInt32
  alive : Bool
  /-- Number of the next link.  It stands for an unsigned number of 64 bits that does not
  overflow: fewer than `2 ^ 64 - 1` links to one token are assumed. -/
  nextLink : Nat
  /-- Links in the order in which they were made. -/
  links : List (DeathLink Recipient)
  deriving DecidableEq, Repr

namespace ClientToken

variable {Recipient : Type}

/-- A live token without links.  Links count from one. -/
def fresh (process : Option UInt32) : ClientToken Recipient :=
  ⟨process, true, 1, []⟩

def linkedCount (token : ClientToken Recipient) : Nat :=
  token.links.length

/-- Link a recipient to the death.  The answer is the number of the link. -/
def link (token : ClientToken Recipient) (recipient : Recipient) :
    Except TokenError (Nat × ClientToken Recipient) :=
  if token.alive then
    .ok (token.nextLink,
      { token with
        nextLink := token.nextLink + 1
        links := token.links ++ [⟨token.nextLink, recipient⟩] })
  else
    .error .alreadyDead

def unlink (token : ClientToken Recipient) (number : Nat) :
    Except TokenError (ClientToken Recipient) :=
  if token.links.any (·.number == number) then
    .ok { token with links := token.links.filter (·.number != number) }
  else
    .error .notLinked

/-- Let the process die.  The death takes all links, in the order in which they
were made; a process that is dead already takes none. -/
def die (token : ClientToken Recipient) :
    Option (List (DeathLink Recipient) × ClientToken Recipient) :=
  if token.alive then
    some (token.links, { token with alive := false, links := [] })
  else
    none

instance : Inspect (ClientToken Recipient) where
  inspect token :=
    Inspect.openRecord "ClientToken"
      [Inspect.part "pid" (inspect token.process),
        Inspect.part "alive" (inspect token.alive)]

end ClientToken

end BiometricSession
