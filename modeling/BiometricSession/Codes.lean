import BiometricSession.Inspect

/-!
# Codes shared with the biometric hardware

The numbers by which the hardware layer names acquisitions and errors, and
what differs between the kinds of hardware: the tag on every log line and the
acquisition code that says "look at the vendor code instead".
-/

namespace BiometricSession

/-- Driver status: the hardware process is probably gone. -/
def noSuchProcess : Int32 := 3

/-- Driver status: an operation is already in progress. -/
def alreadyInProgress : Int32 := 114

namespace AcquiredCode

def good : Int32 := 0

/-- Only part of the feature was seen. -/
def partialImage : Int32 := 1

def insufficient : Int32 := 2

def imagerDirty : Int32 := 3

def tooSlow : Int32 := 4

def tooFast : Int32 := 5

/-- All standard acquisition codes, in numeric order. -/
def all : List Int32 :=
  [good, partialImage, insufficient, imagerDirty, tooSlow, tooFast]

end AcquiredCode

namespace ErrorCode

def hardwareUnavailable : Int32 := 1

def unableToProcess : Int32 := 2

def timeout : Int32 := 3

def noSpace : Int32 := 4

def canceled : Int32 := 5

def unableToRemove : Int32 := 6

/-- Too many rejections: the user is locked out for a while. -/
def lockout : Int32 := 7

/-- The vendor code says what went wrong. -/
def vendor : Int32 := 8

/-- Too many lockouts: the user is locked out until unlocked otherwise. -/
def lockoutPermanent : Int32 := 9

def userCanceled : Int32 := 10

/-- All error codes, in numeric order. -/
def all : List Int32 :=
  [hardwareUnavailable, unableToProcess, timeout, noSpace, canceled,
    unableToRemove, lockout, vendor, lockoutPermanent, userCanceled]

end ErrorCode

/-- Kind of biometric hardware. -/
inductive Modality where
  | fingerprint
  | face
  deriving DecidableEq, Repr, Inhabited

namespace Modality

/-- The name by which configurations select a modality. -/
def name : Modality → String
  | fingerprint => "fingerprint"
  | face => "face"

/-- All modalities, in the order in which errors list them. -/
def all : List Modality :=
  [fingerprint, face]

/-- Tag that opens every log line of a session. -/
def logTag : Modality → String
  | fingerprint => "FingerprintService"
  | face => "FaceService"

/-- Acquisition code that refers to the vendor code. -/
def vendorCode : Modality → Int32
  | fingerprint => 6
  | face => 22

instance : Inspect Modality where
  inspect
    | fingerprint => "Fingerprint"
    | face => "Face"

/-- The constants of a modality, shown for inspection. -/
def inspectConstants (modality : Modality) : String :=
  Inspect.record "BiometricConstants" [Inspect.part "modality" (inspect modality)]

end Modality

end BiometricSession
