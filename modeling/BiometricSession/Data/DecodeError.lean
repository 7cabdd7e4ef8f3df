import BiometricSession.Data.Value
import BiometricSession.Inspect

/-!
# Decoding errors

Why a data value is not of the wanted shape.  Causes and wording are kept
apart: a few things are called differently in the two notations, so the wording
depends on the notation that the value was written in.
-/

namespace BiometricSession

/-- Notation that a data value was written in. -/
inductive Notation where
  | json
  | toml
  deriving DecidableEq, Repr

/-- What stood where something else was wanted. -/
inductive Found where
  | null
  | bool (value : Bool)
  | integer (value : Int)
  | float (value : Binary64)
  | text (value : String)
  | sequence
  | map
  deriving DecidableEq, Repr

namespace Found

/-- What a data value is found to be.  Dates and times count as maps. -/
def ofData : Data → Found
  | .null => null
  | .bool value => bool value
  | .integer value => integer value
  | .float value => float value
  | .text value => text value
  | .list _ | .tables _ => sequence
  | .moment | .table _ => map

/-- How numbers with a fraction are written in error messages. -/
def floatStyle : Notation → Binary64.Style
  | .json => .scientific
  | .toml => .positional

def describe (source : Notation) : Found → String
  | null => "null"
  | bool value => "boolean `" ++ inspect value ++ "`"
  | integer value => "integer `" ++ Decimal.text value ++ "`"
  | float value => "floating point `" ++ String.ofList (value.text (floatStyle source)) ++ "`"
  | text value => "string " ++ inspect value
  | sequence => "sequence"
  | map => "map"

end Found

/-- Why a data value cannot be decoded. -/
inductive DecodeError where
  | missingField (name : String)
  | unknownVariant (given : String) (known : List String)
  | invalidType (found : Found) (expected : String)
  | invalidValue (found : Found) (expected : String)
  | invalidLength (length : Nat) (expected : String)
  /-- A choice was given as something that is neither a string nor a table. -/
  | stringOrTableWanted
  /-- A choice was given as a table that does not name exactly one. -/
  | oneEntryWanted (count : Nat)
  /-- A choice without parts was given some. -/
  | emptyTableWanted
  /-- A choice without parts was given tables under headers. -/
  | emptyListWanted
  /-- A choice without parts was given a value instead. -/
  | tableWanted (found : String)
  deriving DecidableEq, Repr

namespace DecodeError

def quoted (name : String) : String :=
  "`" ++ name ++ "`"

/-- The names that would have been known. -/
def knownText : List String → String
  | [] => "there are no variants"
  | [only] => "expected " ++ quoted only
  | [first, second] => "expected " ++ quoted first ++ " or " ++ quoted second
  | names => "expected one of " ++ ", ".intercalate (names.map quoted)

def message (source : Notation) : DecodeError → String
  | missingField name => "missing field " ++ quoted name
  | unknownVariant given known =>
      "unknown variant " ++ quoted given ++ ", " ++ knownText known
  | invalidType found expected =>
      "invalid type: " ++ found.describe source ++ ", expected " ++ expected
  | invalidValue found expected =>
      "invalid value: " ++ found.describe source ++ ", expected " ++ expected
  | invalidLength length expected =>
      "invalid length " ++ inspect length ++ ", expected " ++ expected
  | stringOrTableWanted => "wanted string or table"
  | oneEntryWanted 0 => "wanted exactly 1 element, found 0 elements"
  | oneEntryWanted _ => "wanted exactly 1 element, more than 1 element"
  | emptyTableWanted => "expected empty table"
  | emptyListWanted => "expected empty array"
  | tableWanted found => "expected table, found " ++ found

end DecodeError

end BiometricSession
