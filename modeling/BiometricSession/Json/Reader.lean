import BiometricSession.Data.Value
import BiometricSession.Text.Reader

/-!
# Reading JSON

A number without fraction and exponent is an integer if 64 bits can hold it,
with or without a sign.  Every other number is a binary floating-point number:
its leading digits as a whole number, times or over a power of ten.
-/

namespace BiometricSession.Json

/-- White space between the parts of a value. -/
def isBlank (character : Char) : Bool :=
  character = ' ' || character = '\n' || character = '\r' || character = '\t'

def isDigit (character : Char) : Bool :=
  '0' ≤ character && character ≤ '9'

def blanks : Reader Unit := do
  let _ ← Reader.takeWhile isBlank
  return ()

/-- The value of a hexadecimal digit, in either case of letters. -/
def hexadecimalValue (character : Char) : Nat :=
  if isDigit character then
    character.toNat - '0'.toNat
  else if 'a' ≤ character then
    character.toNat - 'a'.toNat + 10
  else
    character.toNat - 'A'.toNat + 10

/-- A hexadecimal digit, in either case of letters. -/
def isHexadecimal (character : Char) : Bool :=
  isDigit character || ('a' ≤ character && character ≤ 'f') ||
    ('A' ≤ character && character ≤ 'F')

/-- Four hexadecimal digits. -/
def codeUnit : Reader Nat := do
  let digits ← Reader.exactly isHexadecimal 4
  return Decimal.valueIn 16 hexadecimalValue digits

/-- A character written as one code unit or as a pair of them. -/
def escapedUnits : Reader Char := do
  let high ← codeUnit
  if 0xd800 ≤ high && high < 0xdc00 then
    Reader.literal ['\\', 'u']
    let low ← codeUnit
    if 0xdc00 ≤ low && low < 0xe000 then
      return Char.ofNat (0x10000 + (high - 0xd800) * 0x400 + (low - 0xdc00))
    else
      Reader.fail
  else if 0xdc00 ≤ high && high < 0xe000 then
    Reader.fail
  else
    return Char.ofNat high

/-- What follows a backslash. -/
def escaped : Reader Char := do
  let kind ← Reader.satisfy fun _ => true
  match kind with
  | '"' => return '"'
  | '\\' => return '\\'
  | '/' => return '/'
  | 'b' => return '\x08'
  | 'f' => return '\x0c'
  | 'n' => return '\n'
  | 'r' => return '\r'
  | 't' => return '\t'
  | 'u' => escapedUnits
  | _ => Reader.fail

def stringCharacter : Reader Char := do
  let character ← Reader.satisfy fun character => character ≠ '"' && 0x20 ≤ character.toNat
  if character = '\\' then escaped else return character

def string : Reader String := do
  Reader.character '"'
  let characters ← Reader.many stringCharacter
  Reader.character '"'
  return String.ofList characters

/-- The whole digits of a number: a single zero, or digits that do not start
with one. -/
def wholeDigits : Reader (List Char) :=
  Reader.orElse
    (do
      Reader.character '0'
      return ['0'])
    (do
      let first ← Reader.satisfy fun character => isDigit character && character ≠ '0'
      let others ← Reader.takeWhile isDigit
      return first :: others)

def fraction : Reader (List Char) := do
  Reader.character '.'
  Reader.takeWhile1 isDigit

/-- A sign in front of an exponent; the answer says whether it is a minus. -/
def exponentSign : Reader Bool := do
  let sign ← Reader.optional (Reader.satisfy fun character => character = '+' || character = '-')
  return sign == some '-'

def exponent : Reader Int := do
  let _ ← Reader.satisfy fun character => character = 'e' || character = 'E'
  let negative ← exponentSign
  let digits ← Reader.takeWhile1 isDigit
  let value : Int := Decimal.value digits
  return if negative then -value else value

/-- A number followed by as many digits as leave it below `2 ^ 64`, and how many
digits these are. -/
def appendDigits : Nat → List Char → Nat × Nat
  | number, [] => (number, 0)
  | number, digit :: digits =>
      let longer := number * 10 + Decimal.digitValue digit
      if longer < UInt64.size then
        let (longest, count) := appendDigits longer digits
        (longest, count + 1)
      else
        (number, 0)

/-- A number that is no integer.  Digits count while 64 bits hold the number
that they make up; the number is out of range if it is not finite. -/
def floatOfParts (negative : Bool) (whole decimals : List Char) (power : Int) : Reader Data :=
  let (leading, wholeCount) := appendDigits 0 whole
  let (digits, decimalCount) := appendDigits leading decimals
  let dropped : Int := whole.length - wholeCount
  match Binary64.scaled negative digits (dropped - decimalCount + power) with
  | some (.finite negative mantissa exponent) =>
      Reader.pure (.float (.finite negative mantissa exponent))
  | some (.infinite _) | some .notANumber | none => Reader.fail

/-- The value of a number without fraction and exponent, if it is an integer. -/
def integer? (negative : Bool) (number : Nat) : Option Int :=
  if negative then
    if number = 0 || -(number : Int) < Int64.minValue.toInt then none else some (-(number : Int))
  else if number < UInt64.size then
    some number
  else
    none

def number : Reader Data := do
  let minus ← Reader.optional (Reader.character '-')
  let whole ← wholeDigits
  let decimals ← Reader.optional fraction
  let power ← Reader.optional exponent
  match decimals, power, integer? minus.isSome (Decimal.value whole) with
  | none, none, some value => return .integer value
  | _, _, _ => floatOfParts minus.isSome whole (decimals.getD []) (power.getD 0)

def word (letters : String) (value : Data) : Reader Data := do
  Reader.literal letters.toList
  return value

def comma : Reader Unit := do
  blanks
  Reader.character ','
  blanks

def entry (value : Reader Data) : Reader (String × Data) := do
  let name ← string
  blanks
  Reader.character ':'
  blanks
  let content ← value
  return (name, content)

def list (value : Reader Data) : Reader Data := do
  Reader.character '['
  blanks
  let items ← Reader.separated value comma
  blanks
  Reader.character ']'
  return .list items

def table (value : Reader Data) : Reader Data := do
  Reader.character '\x7b'
  blanks
  let entries ← Reader.separated (entry value) comma
  blanks
  Reader.character '\x7d'
  return .table entries

/-- A value with at most the given number of lists and objects around any of its
parts. -/
def value : Nat → Reader Data
  | 0 => Reader.fail
  | depth + 1 =>
      Reader.orElse (word "null" .null) <|
      Reader.orElse (word "true" (.bool true)) <|
      Reader.orElse (word "false" (.bool false)) <|
      Reader.orElse (do let content ← string; return .text content) <|
      Reader.orElse number <|
      Reader.orElse (list (value depth)) (table (value depth))

/-- Read a text that holds one value.  No part of it stands deeper than the text
is long. -/
def read (text : String) : Option Data :=
  Reader.all (do
    blanks
    let content ← value (text.length + 1)
    blanks
    return content) text

end BiometricSession.Json
