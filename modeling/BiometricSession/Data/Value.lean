import BiometricSession.Data.Binary64

/-!
# Data values

What a data format can hold, whatever its notation: the values from which
configurations, scripts and descriptors are decoded.
-/

namespace BiometricSession

/-- A value of a data format. -/
inductive Data where
  | null
  | bool (value : Bool)
  | integer (value : Int)
  | float (value : Binary64)
  | text (value : String)
  /-- A date, a time, or both. -/
  | moment
  | list (items : List Data)
  /-- A list of tables, each of which was written under a header of its own. -/
  | tables (items : List Data)
  /-- Named values, in the order in which they were written. -/
  | table (entries : List (String × Data))

namespace Data

/-- The value under a name, if the value is a table with an entry of that
name. -/
def get? (name : String) : Data → Option Data
  | table entries => entries.lookup name
  | _ => none

def int32 (value : Int32) : Data :=
  .integer value.toInt

def uint8 (value : UInt8) : Data :=
  .integer value.toNat

def uint32 (value : UInt32) : Data :=
  .integer value.toNat

def uint64 (value : UInt64) : Data :=
  .integer value.toNat

end Data

end BiometricSession
