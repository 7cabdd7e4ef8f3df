import BiometricSession.Data.DecodeError

/-!
# Decoding data values

Decoders for numbers of a limited range, strings, lists, choices and records.

The fields of a record are looked at in the order in which they were written:
the first bad value is the error, fields of other names are skipped, and only
then a missing field is noticed.  So which values are accepted, and what they
mean, depends on their names alone.  A record may also be written as a list of
its fields in the order of their declaration.
-/

namespace BiometricSession

/-- Makes a value of a data value in one of the notations. -/
def Decoder (α : Type) : Type :=
  Notation → Data → Except DecodeError α

namespace Decoder

variable {α β : Type}

def map (convert : α → β) (decoder : Decoder α) : Decoder β :=
  fun source data => (decoder source data).map convert

def integer (least greatest : Int) (expected : String) : Decoder Int :=
  fun _ data =>
    match data with
    | .integer value =>
        if least ≤ value && value ≤ greatest then
          .ok value
        else
          .error (.invalidValue (.integer value) expected)
    | other => .error (.invalidType (.ofData other) expected)

def int32 : Decoder Int32 :=
  map Int32.ofInt (integer Int32.minValue.toInt Int32.maxValue.toInt "i32")

def uint8 : Decoder UInt8 :=
  map (fun value => UInt8.ofNat value.toNat) (integer 0 (UInt8.size - 1) "u8")

def uint32 : Decoder UInt32 :=
  map (fun value => UInt32.ofNat value.toNat) (integer 0 (UInt32.size - 1) "u32")

def uint64 : Decoder UInt64 :=
  map (fun value => UInt64.ofNat value.toNat) (integer 0 (UInt64.size - 1) "u64")

/-- A number of things that memory can hold. -/
def count : Decoder Nat :=
  map Int.toNat (integer 0 (UInt64.size - 1) "usize")

def bool : Decoder Bool :=
  fun _ data =>
    match data with
    | .bool value => .ok value
    | other => .error (.invalidType (.ofData other) "a boolean")

def text : Decoder String :=
  fun _ data =>
    match data with
    | .text value => .ok value
    | other => .error (.invalidType (.ofData other) "a string")

/-- A list of values of one kind. -/
def list (decoder : Decoder α) : Decoder (List α) :=
  fun source data =>
    match data with
    | .list items | .tables items => items.mapM (decoder source)
    | other => .error (.invalidType (.ofData other) "a sequence")

/-- A value that may be given as nothing. -/
def nullable (decoder : Decoder α) : Decoder (Option α) :=
  fun source data =>
    match data with
    | .null => .ok none
    | other => (decoder source other).map some

/-- The choice of a name. -/
def named (options : List (String × α)) (name : String) : Except DecodeError α :=
  match options.lookup name with
  | some value => .ok value
  | none => .error (.unknownVariant name (options.map Prod.fst))

/-- What is wrong with the value in a table that names a choice, since choices
have no parts. -/
def payloadFault (source : Notation) (payload : Data) : Option DecodeError :=
  match source, payload with
  | .json, .null => none
  | .json, other => some (.invalidType (.ofData other) "unit")
  | .toml, .table [] | .toml, .list [] | .toml, .tables [] => none
  | .toml, .table _ | .toml, .list _ => some .emptyTableWanted
  | .toml, .tables _ => some .emptyListWanted
  | .toml, .bool _ => some (.tableWanted "boolean")
  | .toml, .integer _ => some (.tableWanted "integer")
  | .toml, .float _ => some (.tableWanted "float")
  | .toml, .text _ => some (.tableWanted "string")
  | .toml, .moment | .toml, .null => some (.tableWanted "datetime")

/-- One of several names.  The name may also be the only one of a table. -/
def choice (options : List (String × α)) : Decoder α :=
  fun source data =>
    match data with
    | .text name => named options name
    | .table [(name, payload)] => do
        let value ← named options name
        match payloadFault source payload with
        | none => return value
        | some fault => throw fault
    | .table entries =>
        match source with
        | .json => .error (.invalidValue .map "map with a single key")
        | .toml => .error (.oneEntryWanted entries.length)
    | other =>
        match source with
        | .json => .error (.invalidType (.ofData other) "string or map")
        | .toml => .error .stringOrTableWanted

end Decoder

/-- The fields of a record, wherever they came from. -/
structure Fields where
  /-- Names and values, in the order in which they were written. -/
  entries : List (String × Data)
  /-- Whether the values were given by position. -/
  positional : Bool
  /-- What is wrong if a field without default is missing. -/
  missing : String → DecodeError

/-- Decodes the fields of a record: the declared fields with a test of their
values, and how to make the record once all values have passed. -/
structure RecordDecoder (α : Type) where
  declared : List (String × (Notation → Data → Except DecodeError Unit))
  build : Notation → Fields → Except DecodeError α

namespace RecordDecoder

variable {α β : Type}

protected def pure (value : α) : RecordDecoder α :=
  ⟨[], fun _ _ => .ok value⟩

/-- A record with the fields of both parts. -/
protected def seq (first : RecordDecoder (α → β)) (second : Unit → RecordDecoder α) :
    RecordDecoder β :=
  let second := second ()
  ⟨first.declared ++ second.declared, fun source fields => do
    let convert ← first.build source fields
    let value ← second.build source fields
    return convert value⟩

instance : Applicative RecordDecoder where
  pure := RecordDecoder.pure
  seq := RecordDecoder.seq

def required (name : String) (decoder : Decoder α) : RecordDecoder α :=
  ⟨[(name, fun source data => (decoder source data).map fun _ => ())], fun source fields =>
    match fields.entries.lookup name with
    | some data => decoder source data
    | none => .error (fields.missing name)⟩

def withDefault (name : String) (decoder : Decoder α) (value : α) : RecordDecoder α :=
  ⟨[(name, fun source data => (decoder source data).map fun _ => ())], fun source fields =>
    match fields.entries.lookup name with
    | some data => decoder source data
    | none => .ok value⟩

/-- A field that may be left out by name, but not by position. -/
def optional (name : String) (decoder : Decoder α) : RecordDecoder (Option α) :=
  ⟨[(name, fun source data => (decoder.nullable source data).map fun _ => ())],
    fun source fields =>
      match fields.entries.lookup name with
      | some data => decoder.nullable source data
      | none => if fields.positional then .error (fields.missing name) else .ok none⟩

def names (record : RecordDecoder α) : List String :=
  record.declared.map Prod.fst

/-- Test all declared fields in the order in which they were written. -/
def test (record : RecordDecoder α) (source : Notation) :
    List (String × Data) → Except DecodeError Unit
  | [] => .ok ()
  | (name, data) :: entries =>
      match record.declared.lookup name with
      | some passes => do
          passes source data
          record.test source entries
      | none => record.test source entries

/-- Decode the fields of a record. -/
def ofFields (record : RecordDecoder α) (source : Notation) (fields : Fields) :
    Except DecodeError α := do
  record.test source fields.entries
  record.build source fields

def elements (count : Nat) : String :=
  inspect count ++ (if count = 1 then " element" else " elements")

/-- The fields of a record that was written as a list. -/
def positionalFields (record : RecordDecoder α) (title : String) (items : List Data) : Fields where
  entries := record.names.zip items
  positional := true
  missing name :=
    .invalidLength (record.names.idxOf name)
      (title ++ " with " ++ elements record.declared.length)

/-- The fields of a record that was written with names. -/
def namedFields (entries : List (String × Data)) : Fields :=
  ⟨entries, false, .missingField⟩

/-- Decode a record that was written as a list, where `excess` says what is
wrong with more items than fields. -/
def ofItems (record : RecordDecoder α) (source : Notation) (title : String)
    (excess : Option DecodeError) (items : List Data) : Except DecodeError α := do
  let value ← record.ofFields source (record.positionalFields title items)
  match excess with
  | some error => if record.declared.length < items.length then throw error else return value
  | none => return value

def decoder (record : RecordDecoder α) (title : String) : Decoder α :=
  fun source data =>
    match data with
    | .table entries => record.ofFields source (namedFields entries)
    | .moment => record.ofFields source (namedFields [])
    | .list items | .tables items =>
        let excess :=
          match source with
          | .json => some (.invalidLength items.length "fewer elements in array")
          | .toml => none
        record.ofItems source title excess items
    | other => .error (.invalidType (.ofData other) title)

/-- The tag that says which of several records a value is. -/
def tag (variants : List (String × α)) : Data → Except DecodeError α
  | .text name => Decoder.named variants name
  | other => .error (.invalidType (.ofData other) "variant identifier")

/-- Decode one of several records, told apart by the field of the given name,
which may stand anywhere among the others.  In a list it comes first. -/
def tagged (title tagName : String) (variants : List (String × String × RecordDecoder α)) :
    Decoder α :=
  fun source data =>
    match data with
    | .table entries =>
        match entries.lookup tagName with
        | some name => do
            let (_, record) ← tag variants name
            record.ofFields source (namedFields (entries.filter (·.1 != tagName)))
        | none => .error (.missingField tagName)
    | .list [] | .tables [] | .moment => .error (.missingField tagName)
    | .list (name :: items) | .tables (name :: items) => do
        let (variantTitle, record) ← tag variants name
        let excess :=
          DecodeError.invalidLength items.length
            (elements record.declared.length ++ " in sequence")
        record.ofItems source variantTitle (some excess) items
    | other => .error (.invalidType (.ofData other) title)

end RecordDecoder

end BiometricSession
