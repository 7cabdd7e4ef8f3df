import BiometricSession.Toml.Scalar

/-!
# Statements of TOML

A TOML text is a sequence of statements: entries, and headers that say which
table the entries after them belong to.  Here a text becomes its statements;
what they mean together is decided afterwards.

Lists and inline tables stand in one another at most 79 deep, and a dotted key
has at most 79 parts.
-/

namespace BiometricSession.Toml

/-- A key, as the names that lead to an entry and the name of the entry. -/
structure Key where
  path : List String
  name : String
  deriving DecidableEq, Repr

/-- The value of an entry before it is known whether all of its names are
distinct. -/
inductive Value where
  | scalar (data : Data)
  | list (items : List Value)
  | table (entries : List (Key × Value))

/-- One statement of a text. -/
inductive Statement where
  | entry (key : Key) (value : Value)
  /-- The entries that follow belong to a table. -/
  | header (key : Key)
  /-- The entries that follow belong to a new table at the end of a list. -/
  | itemHeader (key : Key)

/-- Most lists and inline tables around any value. -/
def deepestNesting : Nat := 79

/-- Most parts of a key. -/
def longestKey : Nat := 79

def simpleKey : Reader String :=
  Reader.orElse basicString <|
  Reader.orElse literalString
    (do let characters ← Reader.takeWhile1 isBareKey; return String.ofList characters)

def keyOfNames : List String → Option Key
  | [] => none
  | [name] => some ⟨[], name⟩
  | name :: names => (keyOfNames names).map fun key => { key with path := name :: key.path }

/-- A dotted key, with blanks around its parts. -/
def key : Reader Key := do
  let names ← Reader.separated1 (do blanks; let name ← simpleKey; blanks; return name)
    (Reader.character '.')
  if longestKey < names.length then
    Reader.fail
  else
    match keyOfNames names with
    | some key => return key
    | none => Reader.fail

/-- A comma after an item of a list and the gaps around it. -/
def listComma : Reader Unit := do
  gaps
  Reader.character ','
  gaps

def list (value : Reader Value) : Reader Value := do
  Reader.character '['
  gaps
  let items ← Reader.separated value listComma
  gaps
  if !items.isEmpty then
    let _ ← Reader.optional (Reader.character ',')
    gaps
  Reader.character ']'
  return .list items

/-- A key and its value with an equals sign between them. -/
def entry (value : Reader Value) : Reader (Key × Value) := do
  let name ← key
  Reader.character '='
  blanks
  let content ← value
  blanks
  return (name, content)

/-- An inline table, which ends on the line where it began unless a value in it
goes over several lines. -/
def inlineTable (value : Reader Value) : Reader Value := do
  Reader.character '\x7b'
  let entries ← Reader.separated (entry value) (Reader.character ',')
  blanks
  Reader.character '\x7d'
  return .table entries

/-- A value with at most the given number of lists and inline tables around any
of its parts. -/
def value : Nat → Reader Value
  | 0 => do let data ← scalar; return .scalar data
  | depth + 1 =>
      Reader.orElse (do let data ← scalar; return .scalar data) <|
      Reader.orElse (list (value depth)) (inlineTable (value depth))

def header : Reader Statement := do
  Reader.character '['
  let name ← key
  Reader.character ']'
  lineRest
  return .header name

/-- The header of a new table at the end of a list. -/
def itemHeader : Reader Statement := do
  Reader.literal ['[', '[']
  let name ← key
  Reader.literal [']', ']']
  lineRest
  return .itemHeader name

def entryStatement : Reader Statement := do
  let (name, content) ← entry (value deepestNesting)
  lineRest
  return .entry name content

/-- A statement, or a line without one. -/
def line : Reader (Option Statement) := do
  blanks
  Reader.orElse (do newline; return none) <|
    Reader.orElse (do comment; lineEnd; return none) <|
    Reader.orElse (do let statement ← itemHeader; return some statement) <|
    Reader.orElse (do let statement ← header; return some statement)
      (do let statement ← entryStatement; return some statement)

/-- All statements of a text, which may open with a byte order mark. -/
def statements (text : String) : Option (List Statement) :=
  Reader.all (do
    let _ ← Reader.optional (Reader.character '\ufeff')
    let lines ← Reader.many line
    blanks
    return lines.filterMap id) text

end BiometricSession.Toml
