import BiometricSession.Session.Effect

/-!
# Calls

A call works through its effects in order and either returns a value or is
broken off by a collaborator.  What it has done before that stays done.  The
listener may answer a delivery in the light of those that came before, so a
call knows which deliveries it has attempted already.
-/

namespace BiometricSession

/-- How a call ends. -/
inductive Ending (Value : Type) where
  | returned (value : Value)
  | crashed (crash : Crash)
  deriving DecidableEq, Repr

namespace Ending

def map {First Second : Type} (convert : First → Second) : Ending First → Ending Second
  | returned value => returned (convert value)
  | crashed crash => crashed crash

end Ending

/-- The effects of a call in order, and how it ends. -/
structure Emission (Value : Type) where
  effects : List Effect
  ending : Ending Value
  deriving DecidableEq, Repr

/-- A call, given the deliveries that were attempted before it. -/
def Call (Value : Type) : Type :=
  List ListenerEvent → Emission Value

namespace Call

variable {Value First Second : Type}

protected def pure (value : Value) : Call Value :=
  fun _ => ⟨[], .returned value⟩

/-- Go on after a call unless it was broken off. -/
protected def bind (first : Call First) (next : First → Call Second) : Call Second :=
  fun earlier =>
    match first earlier with
    | ⟨effects, .returned value⟩ =>
        let rest := next value (earlier ++ Effect.attempts effects)
        ⟨effects ++ rest.effects, rest.ending⟩
    | ⟨effects, .crashed crash⟩ => ⟨effects, .crashed crash⟩

instance : Monad Call where
  pure := Call.pure
  bind := Call.bind

/-- Have some effects that nobody answers. -/
def emit (effects : List Effect) : Call Unit :=
  fun _ => ⟨effects, .returned ()⟩

def note (notice : Notice) : Call Unit :=
  emit [.notice notice]

/-- Make a call before which nothing was delivered. -/
def run (call : Call Value) : Emission Value :=
  call []

end Call

end BiometricSession
