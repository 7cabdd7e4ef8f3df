/-!
# Character classes of TOML

Which characters may stand where in a TOML text.  Outside of ASCII every
character is allowed in strings and comments and none in bare keys.
-/

namespace BiometricSession.Toml

def isBlank (character : Char) : Bool :=
  character = ' ' || character = '\t'

def isDigit (character : Char) : Bool :=
  '0' ≤ character && character ≤ '9'

def isOctal (character : Char) : Bool :=
  '0' ≤ character && character ≤ '7'

def isBinary (character : Char) : Bool :=
  character = '0' || character = '1'

/-- A hexadecimal digit in either case. -/
def isHexadecimal (character : Char) : Bool :=
  isDigit character || ('a' ≤ character && character ≤ 'f') ||
    ('A' ≤ character && character ≤ 'F')

/-- The value of a digit in any base. -/
def digitValue (character : Char) : Nat :=
  if isDigit character then
    character.toNat - '0'.toNat
  else if 'a' ≤ character then
    character.toNat - 'a'.toNat + 10
  else
    character.toNat - 'A'.toNat + 10

/-- A letter, digit, underscore or hyphen. -/
def isBareKey (character : Char) : Bool :=
  isDigit character || ('a' ≤ character && character ≤ 'z') ||
    ('A' ≤ character && character ≤ 'Z') || character = '_' || character = '-'

/-- Any character but control characters other than the tab. -/
def isPrintable (character : Char) : Bool :=
  character = '\t' || (0x20 ≤ character.toNat && character.toNat ≠ 0x7f)

/-- A character that stands for itself between quotation marks. -/
def isBasic (character : Char) : Bool :=
  isPrintable character && character ≠ '"' && character ≠ '\\'

/-- A character that stands for itself between apostrophes. -/
def isLiteral (character : Char) : Bool :=
  isPrintable character && character ≠ '\''

end BiometricSession.Toml
