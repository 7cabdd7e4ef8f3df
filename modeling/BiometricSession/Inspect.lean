import BiometricSession.Text.Decimal
import BiometricSession.Text.Printable

/-!
# Inspection texts

A value is shown for inspection as its name followed by its named parts:
`Name { field: value, .. }`.  Lists stand in square brackets, strings in
quotation marks with their special characters escaped, and a record that hides
some of its parts ends in two dots.
-/

namespace BiometricSession

/-- Values that can be shown for inspection. -/
class Inspect (α : Type) where
  /-- The text that shows a value together with the names of its parts. -/
  inspect : α → String

export Inspect (inspect)

namespace Inspect

/-- Hexadecimal digits of a code point, without leading zeros. -/
def hexadecimal (codePoint : Nat) : String :=
  String.ofList (Nat.toDigits 16 codePoint)

/-- How one character stands between quotation marks. -/
def escapeCharacter (character : Char) : String :=
  match character with
  | '"' => "\\\""
  | '\\' => "\\\\"
  | '\n' => "\\n"
  | '\r' => "\\r"
  | '\t' => "\\t"
  | '\x00' => "\\0"
  | other =>
      if Printable.isPrintable other then
        other.toString
      else
        "\\u\x7b" ++ hexadecimal other.toNat ++ "\x7d"

def quoted (text : String) : String :=
  "\"" ++ String.join (text.toList.map escapeCharacter) ++ "\""

def part (name value : String) : String :=
  name ++ ": " ++ value

def record (name : String) : List String → String
  | [] => name
  | parts => name ++ " \x7b " ++ ", ".intercalate parts ++ " \x7d"

/-- A record that hides some of its parts. -/
def openRecord (name : String) (parts : List String) : String :=
  name ++ " \x7b " ++ String.join (parts.map (· ++ ", ")) ++ ".. \x7d"

instance : Inspect Bool where
  inspect
    | true => "true"
    | false => "false"

instance : Inspect Nat where
  inspect number := Decimal.text number

instance : Inspect Int32 where
  inspect number := Decimal.text number.toInt

instance : Inspect UInt8 where
  inspect number := Decimal.text number.toNat

instance : Inspect UInt32 where
  inspect number := Decimal.text number.toNat

instance : Inspect UInt64 where
  inspect number := Decimal.text number.toNat

instance : Inspect String where
  inspect := quoted

instance {α : Type} [Inspect α] : Inspect (List α) where
  inspect values := "[" ++ ", ".intercalate (values.map inspect) ++ "]"

instance {α : Type} [Inspect α] : Inspect (Option α) where
  inspect
    | none => "None"
    | some value => "Some(" ++ inspect value ++ ")"

end Inspect

end BiometricSession
