import BiometricSession.Proofs.Session.Outcome

/-!
# The life of a session

A session goes through operations one after the other, each with some answers
of its collaborators.  What holds of a new session and is kept by every
operation holds of the session and its past at every moment of its life.
-/

namespace BiometricSession

/-- An operation that a session went through, what it did to the world, and how
it ended. -/
structure SessionDeed where
  operation : Operation
  effects : List Effect
  ending : Ending Reply

namespace SessionDeed

/-- The calls of collaborators during an operation, in order. -/
def calls (deed : SessionDeed) : List Effect :=
  deed.effects.filter (·.callsOut)

/-- What an operation on a session is remembered as. -/
def of {Action : Type} (operation : Operation) (step : Step Action Reply) : SessionDeed :=
  ⟨operation, step.effects, step.ending⟩

end SessionDeed

/-- A session goes through some operations, one after the other, each with some
answers of its collaborators. -/
inductive Course {Action : Type} [HardwareAction Action] (setting : Setting) :
    Session Action → List SessionDeed → Session Action → Prop
  | start (session : Session Action) : Course setting session [] session
  | perform {first middle : Session Action} {life : List SessionDeed}
      (course : Course setting first life middle) (answers : Answers)
      (operation : Operation) :
      Course setting first
        (life ++ [.of operation (middle.perform setting answers operation)])
        (middle.perform setting answers operation).session

theorem Course.trans {Action : Type} [HardwareAction Action] {setting : Setting}
    {first middle last : Session Action} {earlier later : List SessionDeed}
    (front : Course setting first earlier middle)
    (back : Course setting middle later last) :
    Course setting first (earlier ++ later) last := by
  induction back with
  | start => simpa using front
  | perform course answers operation ih =>
      rw [← List.append_assoc]
      exact ih.perform answers operation

/-- A property of a session and all that it went through which every new session
has and every operation keeps. -/
structure LifeInvariant {Action : Type} [HardwareAction Action]
    (Alive : Setting → Session Action → List SessionDeed → Prop) : Prop where
  made : ∀ setting action listening linked,
    Alive setting (Session.make action listening linked).1 []
  performed : ∀ setting answers session life operation,
    Alive setting session life →
      Alive setting (session.perform setting answers operation).session
        (life ++ [.of operation (session.perform setting answers operation)])

theorem LifeInvariant.course {Action : Type} [HardwareAction Action]
    {Alive : Setting → Session Action → List SessionDeed → Prop}
    (invariant : LifeInvariant Alive) {setting : Setting} {first last : Session Action}
    (earlier : List SessionDeed) {later : List SessionDeed}
    (course : Course setting first later last) (alive : Alive setting first earlier) :
    Alive setting last (earlier ++ later) := by
  induction course with
  | start => simpa using alive
  | perform course answers operation ih =>
      rw [← List.append_assoc]
      exact invariant.performed _ _ _ _ _ ih

end BiometricSession
