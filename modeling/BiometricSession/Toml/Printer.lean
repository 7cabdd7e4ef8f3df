import BiometricSession.Text.Decimal

/-!
# Printing TOML

Entries and headers of a TOML text, as lists of characters.  A list of more
than one item goes over several lines, one line an item.
-/

namespace BiometricSession.Toml

def printBool : Bool → List Char
  | true => ['t', 'r', 'u', 'e']
  | false => ['f', 'a', 'l', 's', 'e']

/-- A string of characters that need no backslash. -/
def printPlain (text : String) : List Char :=
  '"' :: text.toList ++ ['"']

/-- An item of a list on a line of its own. -/
def printItem (value : Int) : List Char :=
  [' ', ' ', ' ', ' '] ++ Decimal.signedDigits value ++ [',', '\n']

def printIntegers : List Int → List Char
  | [] => ['[', ']']
  | [value] => '[' :: Decimal.signedDigits value ++ [']']
  | values => '[' :: '\n' :: values.flatMap printItem ++ [']']

def printEntry (name : String) (value : List Char) : List Char :=
  name.toList ++ [' ', '=', ' '] ++ value ++ ['\n']

/-- A header after an empty line. -/
def printHeader (name : String) : List Char :=
  ['\n', '['] ++ name.toList ++ [']', '\n']

end BiometricSession.Toml
