import BiometricSession.Data.Value
import BiometricSession.Text.Reader
import BiometricSession.Toml.Character

/-!
# Scalars of TOML

Readers for blanks, comments, strings, numbers, truth values, dates and times.
-/

namespace BiometricSession.Toml

def blanks : Reader Unit := do
  let _ ← Reader.takeWhile isBlank
  return ()

def newline : Reader Unit :=
  Reader.orElse (Reader.character '\n') (Reader.literal ['\r', '\n'])

def lineEnd : Reader Unit :=
  Reader.orElse newline Reader.atEnd

def comment : Reader Unit := do
  Reader.character '#'
  let _ ← Reader.takeWhile isPrintable
  return ()

/-- What may stand between a statement and the end of its line. -/
def lineRest : Reader Unit := do
  blanks
  let _ ← Reader.optional comment
  lineEnd

/-- A blank, a line end, or a comment with its line end. -/
def gap : Reader Unit :=
  Reader.orElse (do let _ ← Reader.takeWhile1 isBlank; return ()) <|
  Reader.orElse newline (do comment; newline)

/-- Blanks, line ends and comments, which may stand between the items of a
list. -/
def gaps : Reader Unit := do
  let _ ← Reader.many gap
  return ()

/-! ## Strings -/

/-- A character given by its code point in so many hexadecimal digits. -/
def codePoint (digits : Nat) : Reader Char := do
  let characters ← Reader.exactly isHexadecimal digits
  let number := Decimal.valueIn 16 digitValue characters
  if number < 0xd800 || (0xe000 ≤ number && number < 0x110000) then
    return Char.ofNat number
  else
    Reader.fail

def escape : Reader Char := do
  Reader.character '\\'
  let kind ← Reader.satisfy fun _ => true
  match kind with
  | 'b' => return '\x08'
  | 't' => return '\t'
  | 'n' => return '\n'
  | 'f' => return '\x0c'
  | 'r' => return '\r'
  | '"' => return '"'
  | '\\' => return '\\'
  | 'u' => codePoint 4
  | 'U' => codePoint 8
  | _ => Reader.fail

/-- A string between quotation marks. -/
def basicString : Reader String := do
  Reader.character '"'
  let characters ← Reader.many (Reader.orElse (Reader.satisfy isBasic) escape)
  Reader.character '"'
  return String.ofList characters

/-- A string between apostrophes. -/
def literalString : Reader String := do
  Reader.character '\''
  let characters ← Reader.takeWhile isLiteral
  Reader.character '\''
  return String.ofList characters

/-- The end of a line in a string, which counts as a line feed however it is
written. -/
def lineFeed : Reader (List Char) := do
  newline
  return ['\n']

/-- A backslash at the end of a line, which hides all blanks and line ends up to
the next character. -/
def lineContinuation : Reader (List Char) := do
  Reader.character '\\'
  blanks
  newline
  let _ ← Reader.many
    (Reader.orElse newline (do let _ ← Reader.satisfy isBlank; return ()))
  return []

/-- One or two marks that do not belong to the three that end a string. -/
def innerMarks (mark : Char) : Reader (List Char) :=
  fun text =>
    match text.takeWhile (· = mark) with
    | [_] => some ([mark], text.drop 1)
    | [_, _] => some ([mark, mark], text.drop 2)
    | _ => none

/-- The three marks that end a string, and up to two of the same marks before
them, which belong to the string. -/
def closingMarks (mark : Char) : Reader (List Char) :=
  fun text =>
    match (text.takeWhile (· = mark)).length with
    | 0 | 1 | 2 => none
    | 3 => some ([], text.drop 3)
    | 4 => some ([mark], text.drop 4)
    | _ => some ([mark, mark], text.drop 5)

/-- A string of several lines between three of the same marks.  A line end
right after the opening marks does not count. -/
def multilineString (mark : Char) (content : Reader (List Char)) : Reader String := do
  Reader.literal [mark, mark, mark]
  let _ ← Reader.optional newline
  let parts ← Reader.many (Reader.orElse content (innerMarks mark))
  let last ← closingMarks mark
  return String.ofList (parts.flatten ++ last)

def part (reader : Reader Char) : Reader (List Char) := do
  let character ← reader
  return [character]

/-- A string of several lines in which backslashes count. -/
def multilineBasicString : Reader String :=
  multilineString '"' <|
    Reader.orElse (part (Reader.satisfy isBasic)) <|
    Reader.orElse lineContinuation <|
    Reader.orElse (part escape) lineFeed

/-- A string of several lines in which every character stands for itself. -/
def multilineLiteralString : Reader String :=
  multilineString '\'' <|
    Reader.orElse (part (Reader.satisfy isLiteral)) lineFeed

def string : Reader String :=
  Reader.orElse multilineBasicString <|
  Reader.orElse multilineLiteralString <|
  Reader.orElse basicString literalString

/-! ## Numbers -/

/-- Digits, with single underscores between any two of them. -/
def digits (isValid : Char → Bool) : Reader (List Char) := do
  let first ← Reader.takeWhile1 isValid
  let others ← Reader.many (do
    Reader.character '_'
    Reader.takeWhile1 isValid)
  return first ++ others.flatten

/-- A sign; the answer says whether it is a minus. -/
def sign : Reader Bool := do
  let mark ← Reader.optional (Reader.satisfy fun mark => mark = '+' || mark = '-')
  return mark == some '-'

/-- Digits that start with a zero only if they are just that zero. -/
def wholeDigits : Reader (List Char) :=
  fun text =>
    match text with
    | '0' :: rest => some (['0'], rest)
    | _ => digits isDigit text

/-- An integer, if 64 bits with a sign can hold it. -/
def integerInRange (value : Int) : Reader Data :=
  if Int64.minValue.toInt ≤ value && value ≤ Int64.maxValue.toInt then
    Reader.pure (.integer value)
  else
    Reader.fail

/-- An integer in a base that is announced by a letter. -/
def integerInBase (letter : Char) (base : Nat) (isValid : Char → Bool) : Reader Data := do
  Reader.literal ['0', letter]
  let characters ← digits isValid
  integerInRange (Decimal.valueIn base digitValue characters)

def fraction : Reader (List Char) := do
  Reader.character '.'
  digits isDigit

def exponent : Reader Int := do
  let _ ← Reader.satisfy fun character => character = 'e' || character = 'E'
  let negative ← sign
  let characters ← digits isDigit
  let value : Int := Decimal.value characters
  return if negative then -value else value

/-- A number with a fraction, an exponent or both.  It must not be too large,
though a negative one may. -/
def floatOfParts (negative : Bool) (whole decimals : List Char) (power : Int) : Reader Data :=
  match Binary64.ofDecimal negative (Decimal.value (whole ++ decimals))
      (power - decimals.length) with
  | .infinite false => Reader.fail
  | value => Reader.pure (.float value)

def decimalNumber : Reader Data := do
  let negative ← sign
  let whole ← wholeDigits
  let decimals ← Reader.optional fraction
  let power ← Reader.optional exponent
  match decimals, power with
  | none, none =>
      let magnitude : Int := Decimal.value whole
      integerInRange (if negative then -magnitude else magnitude)
  | _, _ => floatOfParts negative whole (decimals.getD []) (power.getD 0)

/-- A number that is written as a word. -/
def specialNumber : Reader Data := do
  let negative ← sign
  Reader.orElse
    (do Reader.literal ['i', 'n', 'f']; return .float (.infinite negative))
    (do Reader.literal ['n', 'a', 'n']; return .float .notANumber)

/-! ## Dates and times -/

/-- A number of two digits that is not greater than a limit. -/
def twoDigits (least greatest : Nat) : Reader Nat := do
  let characters ← Reader.exactly isDigit 2
  let number := Decimal.value characters
  if least ≤ number && number ≤ greatest then return number else Reader.fail

def daysInMonth (year month : Nat) : Nat :=
  if month = 2 then
    if year % 4 = 0 && (year % 100 ≠ 0 || year % 400 = 0) then 29 else 28
  else if month = 4 || month = 6 || month = 9 || month = 11 then
    30
  else
    31

def date : Reader Unit := do
  let year ← Reader.exactly isDigit 4
  Reader.character '-'
  let month ← twoDigits 1 12
  Reader.character '-'
  let _ ← twoDigits 1 (daysInMonth (Decimal.value year) month)
  return ()

def timeOfDay : Reader Unit := do
  let _ ← twoDigits 0 23
  Reader.character ':'
  let _ ← twoDigits 0 59
  Reader.character ':'
  let _ ← twoDigits 0 60
  let _ ← Reader.optional (do Reader.character '.'; Reader.takeWhile1 isDigit)
  return ()

/-- The distance of a time from universal time. -/
def timeOffset : Reader Unit :=
  Reader.orElse
    (do let _ ← Reader.satisfy fun mark => mark = 'Z' || mark = 'z'; return ())
    (do
      let _ ← Reader.satisfy fun mark => mark = '+' || mark = '-'
      let _ ← twoDigits 0 23
      Reader.character ':'
      let _ ← twoDigits 0 59
      return ())

/-- The time that may follow a date. -/
def timeAfterDate : Reader Unit := do
  let _ ← Reader.satisfy fun mark => mark = 'T' || mark = 't' || mark = ' '
  timeOfDay
  let _ ← Reader.optional timeOffset
  return ()

/-- A date, a time, or both. -/
def moment : Reader Data := do
  Reader.orElse
    (do
      date
      let _ ← Reader.optional timeAfterDate
      return ())
    timeOfDay
  return .moment

/-! ## Scalars -/

def word (letters : List Char) (value : Data) : Reader Data := do
  Reader.literal letters
  return value

/-- A number, truth value, date, time or string. -/
def scalar : Reader Data :=
  Reader.orElse (do let value ← string; return .text value) <|
  Reader.orElse moment <|
  Reader.orElse (integerInBase 'x' 16 isHexadecimal) <|
  Reader.orElse (integerInBase 'o' 8 isOctal) <|
  Reader.orElse (integerInBase 'b' 2 isBinary) <|
  Reader.orElse specialNumber <|
  Reader.orElse decimalNumber <|
  Reader.orElse (word ['t', 'r', 'u', 'e'] (.bool true))
    (word ['f', 'a', 'l', 's', 'e'] (.bool false))

end BiometricSession.Toml
