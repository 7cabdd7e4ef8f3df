import BiometricSession.Inspect

/-!
# Haptic feedback

Success and failure are confirmed by a vibration, unless the user has turned
it off.  Preferences are kept per user and per kind of feedback; the last one
set counts, and a default stands in until one is set.
-/

namespace BiometricSession

/-- Pattern of a vibration. -/
inductive HapticEffect where
  /-- Confirms success. -/
  | click
  /-- Confirms failure. -/
  | doubleClick
  deriving DecidableEq, Repr

namespace HapticEffect

instance : Inspect HapticEffect where
  inspect
    | click => "Click"
    | doubleClick => "DoubleClick"

end HapticEffect

/-- Purpose that every vibration is tagged with. -/
inductive HapticUsage where
  | assistanceSonification
  deriving DecidableEq, Repr

namespace HapticUsage

instance : Inspect HapticUsage where
  inspect
    | assistanceSonification => "AssistanceSonification"

end HapticUsage

/-- Setting that turns one kind of feedback on or off. -/
inductive PreferenceKey where
  | successHaptics
  | errorHaptics
  deriving DecidableEq, Repr

/-- What users have set so far, the latest setting first. -/
structure Preferences where
  settings : List ((PreferenceKey × Int32) × Bool)
  deriving DecidableEq, Repr

namespace Preferences

def empty : Preferences :=
  ⟨[]⟩

def set (preferences : Preferences) (key : PreferenceKey) (user : Int32) (value : Bool) :
    Preferences :=
  ⟨((key, user), value) :: preferences.settings⟩

/-- The latest setting of a user, or the default if there is none. -/
def get (preferences : Preferences) (key : PreferenceKey) (user : Int32) (default : Bool) :
    Bool :=
  (preferences.settings.lookup (key, user)).getD default

end Preferences

/-- How a session confirms its results. -/
structure HapticGate where
  hasVibrator : Bool
  /-- Stands in for a user's missing preference about success. -/
  successDefault : Bool
  /-- Stands in for a user's missing preference about failure. -/
  errorDefault : Bool
  deriving DecidableEq, Repr

namespace HapticGate

/-- A gate whose defaults let every vibration pass. -/
def standard (hasVibrator : Bool) : HapticGate :=
  ⟨hasVibrator, true, true⟩

/-- A gate without a vibrator, through which nothing passes. -/
def disabled : HapticGate :=
  standard false

def withDefaults (gate : HapticGate) (successDefault errorDefault : Bool) : HapticGate :=
  { gate with successDefault, errorDefault }

def success (gate : HapticGate) (preferences : Preferences) (user : Int32) :
    Option HapticEffect :=
  if gate.hasVibrator && preferences.get .successHaptics user gate.successDefault then
    some .click
  else
    none

def failure (gate : HapticGate) (preferences : Preferences) (user : Int32) :
    Option HapticEffect :=
  if gate.hasVibrator && preferences.get .errorHaptics user gate.errorDefault then
    some .doubleClick
  else
    none

instance : Inspect HapticGate where
  inspect gate :=
    Inspect.openRecord "HapticGate"
      [Inspect.part "has_vibrator" (inspect gate.hasVibrator),
        Inspect.part "success_default" (inspect gate.successDefault),
        Inspect.part "error_default" (inspect gate.errorDefault)]

end HapticGate

end BiometricSession
