/-!
# Decimal digits

Natural numbers and their decimal digits, as lists of characters.  Reading the
digits of a number back gives the number.
-/

namespace BiometricSession.Decimal

def digitCharacter (digit : Nat) : Char :=
  Char.ofNat ('0'.toNat + digit)

def digitValue (character : Char) : Nat :=
  character.toNat - '0'.toNat

/-- The decimal digits of a number, without leading zeros. -/
def digits (number : Nat) : List Char :=
  if number < 10 then
    [digitCharacter number]
  else
    digits (number / 10) ++ [digitCharacter (number % 10)]
  termination_by number

/-- The digits of an integer, after a minus sign if it is negative. -/
def signedDigits : Int → List Char
  | .ofNat number => digits number
  | .negSucc number => '-' :: digits (number + 1)

def text (number : Int) : String :=
  String.ofList (signedDigits number)

/-- The number that a sequence of digits stands for in a base. -/
def valueIn (base : Nat) (value : Char → Nat) (characters : List Char) : Nat :=
  characters.foldl (fun number character => number * base + value character) 0

def value (characters : List Char) : Nat :=
  valueIn 10 digitValue characters

end BiometricSession.Decimal
