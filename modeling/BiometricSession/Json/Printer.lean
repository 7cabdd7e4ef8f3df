import BiometricSession.Data.Value

/-!
# Printing JSON

Data values in compact JSON: no blanks, names and values in the order of the
value.
-/

namespace BiometricSession.Json

def hexadecimalDigit (digit : Nat) : Char :=
  if digit < 10 then Char.ofNat ('0'.toNat + digit) else Char.ofNat ('a'.toNat + digit - 10)

/-- How one character stands in a string. -/
def escapeCharacter (character : Char) : List Char :=
  match character with
  | '"' => ['\\', '"']
  | '\\' => ['\\', '\\']
  | '\x08' => ['\\', 'b']
  | '\x0c' => ['\\', 'f']
  | '\n' => ['\\', 'n']
  | '\r' => ['\\', 'r']
  | '\t' => ['\\', 't']
  | other =>
      if other.toNat < 0x20 then
        ['\\', 'u', '0', '0', hexadecimalDigit (other.toNat / 16),
          hexadecimalDigit (other.toNat % 16)]
      else
        [other]

def quoted (text : String) : List Char :=
  '"' :: text.toList.flatMap escapeCharacter ++ ['"']

mutual

def characters : Data → List Char
  | .null | .moment => ['n', 'u', 'l', 'l']
  | .bool true => ['t', 'r', 'u', 'e']
  | .bool false => ['f', 'a', 'l', 's', 'e']
  | .integer value => Decimal.signedDigits value
  | .float value => value.text .scientific
  | .text value => quoted value
  | .list items | .tables items => '[' :: itemCharacters items ++ [']']
  | .table entries => '\x7b' :: entryCharacters entries ++ ['\x7d']

def itemCharacters : List Data → List Char
  | [] => []
  | [item] => characters item
  | item :: items => characters item ++ ',' :: itemCharacters items

def entryCharacters : List (String × Data) → List Char
  | [] => []
  | [(name, value)] => quoted name ++ ':' :: characters value
  | (name, value) :: entries =>
      quoted name ++ ':' :: characters value ++ ',' :: entryCharacters entries

end

/-- A value in compact JSON. -/
def print (value : Data) : String :=
  String.ofList (characters value)

end BiometricSession.Json
