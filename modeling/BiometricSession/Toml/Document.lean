import BiometricSession.Toml.Statement

/-!
# Documents of TOML

The statements of a text build up one table.  Every name is given a value only
once: a table that was stated by a header is not stated again, a table that
came about by dotted keys grows by dotted keys alone, and values are closed.
-/

namespace BiometricSession.Toml

/-- How a table came about. -/
inductive Origin where
  /-- By a header of its own, or as an inline table. -/
  | stated
  /-- As a step on the way to a header. -/
  | implied
  /-- As a step of a dotted key. -/
  | dotted
  deriving DecidableEq, Repr

/-- What a name stands for while a document is being built. -/
inductive Node where
  | closed (data : Data)
  | table (origin : Origin) (entries : List (String × Node))
  /-- A list of tables, each with its entries, the latest first. -/
  | tables (latest : List (String × Node)) (others : List (List (String × Node)))

/-- The entries of a table. -/
abbrev Entries :=
  List (String × Node)

namespace Entries

/-- Change what a name stands for, keeping its place; a new name goes to the
end. -/
def update (name : String) (change : Option Node → Option Node) : Entries → Option Entries
  | [] => (change none).map fun node => [(name, node)]
  | (found, node) :: entries =>
      if found = name then
        (change (some node)).map fun node => (found, node) :: entries
      else
        (update name change entries).map ((found, node) :: ·)

/-- Give a new name its meaning; a name that has one already is refused. -/
def define (name : String) (node : Node) (entries : Entries) : Option Entries :=
  entries.update name fun
    | none => some node
    | some _ => none

/-- Change the entries of the table that a dotted key leads to.  The steps on
the way come about as needed, but stated tables are not entered, and the last
step must be a table that came about by dotted keys. -/
def alongKey (change : Entries → Option Entries) : List String → Entries → Option Entries
  | [], entries => change entries
  | [name], entries =>
      entries.update name fun
        | none => (change []).map (.table .dotted)
        | some (.table .dotted inner) => (change inner).map (.table .dotted)
        | some _ => none
  | name :: next :: path, entries =>
      entries.update name fun
        | none => (alongKey change (next :: path) []).map (.table .dotted)
        | some (.table .stated _) => none
        | some (.table origin inner) =>
            (alongKey change (next :: path) inner).map (.table origin)
        | some (.tables latest others) =>
            (alongKey change (next :: path) latest).map (.tables · others)
        | some (.closed _) => none

/-- Change the entries of the table that a header leads to.  The steps on the
way come about as needed; in a list of tables the latest is meant. -/
def alongHeader (change : Entries → Option Entries) : List String → Entries → Option Entries
  | [], entries => change entries
  | name :: path, entries =>
      entries.update name fun
        | none => (alongHeader change path []).map (.table .implied)
        | some (.table origin inner) => (alongHeader change path inner).map (.table origin)
        | some (.tables latest others) =>
            (alongHeader change path latest).map (.tables · others)
        | some (.closed _) => none

/-- Give the entry of a dotted key its value. -/
def insert (key : Key) (node : Node) (entries : Entries) : Option Entries :=
  entries.alongKey (define key.name node) key.path

/-- State the table of a header.  A table that was only implied by other headers
keeps its entries and moves to the end. -/
def openTable (name : String) (entries : Entries) : Option Entries :=
  match entries.lookup name with
  | none => some (entries ++ [(name, .table .stated [])])
  | some (.table .implied inner) =>
      some (entries.filter (·.1 != name) ++ [(name, .table .stated inner)])
  | some _ => none

/-- Open a new table at the end of the list of a header. -/
def openItem (name : String) (entries : Entries) : Option Entries :=
  entries.update name fun
    | none => some (.tables [] [])
    | some (.tables latest others) => some (.tables [] (latest :: others))
    | some _ => none

end Entries

/-- A document that is being built, and the table that the next entries belong
to. -/
structure Document where
  root : Entries
  current : List String

mutual

def Node.data : Node → Data
  | .closed data => data
  | .table _ entries => .table (entriesData entries)
  | .tables latest others => .tables (itemsData others [.table (entriesData latest)])

def entriesData : List (String × Node) → List (String × Data)
  | [] => []
  | (name, node) :: entries => (name, node.data) :: entriesData entries

/-- The data of tables, the latest first, in front of the data of later ones. -/
def itemsData : List (List (String × Node)) → List Data → List Data
  | [], later => later
  | entries :: others, later => itemsData others (.table (entriesData entries) :: later)

end

mutual

def Value.data : Value → Option Data
  | .scalar data => some data
  | .list items => (itemsOfValues items).map .list
  | .table entries => (entriesOfValues entries []).map fun entries => .table (entriesData entries)

def itemsOfValues : List Value → Option (List Data)
  | [] => some []
  | value :: values => do
      let data ← value.data
      let others ← itemsOfValues values
      return data :: others

/-- Give the entries of an inline table their values, one after the other. -/
def entriesOfValues : List (Key × Value) → Entries → Option Entries
  | [], entries => some entries
  | (key, value) :: others, entries => do
      let data ← value.data
      let entries ← entries.insert key (.closed data)
      entriesOfValues others entries

end

namespace Document

def empty : Document :=
  ⟨[], []⟩

def extend (document : Document) : Statement → Option Document
  | .entry key value => do
      let data ← value.data
      let root ← document.root.alongHeader (Entries.insert key (.closed data)) document.current
      return { document with root }
  | .header key => do
      let root ← document.root.alongHeader (Entries.openTable key.name) key.path
      return ⟨root, key.path ++ [key.name]⟩
  | .itemHeader key => do
      let root ← document.root.alongHeader (Entries.openItem key.name) key.path
      return ⟨root, key.path ++ [key.name]⟩

def ofStatements (statements : List Statement) : Option Document :=
  statements.foldlM extend empty

def data (document : Document) : Data :=
  .table (entriesData document.root)

end Document

/-- Read a text: its data, unless the text is malformed or gives a name twice. -/
def read (text : String) : Option Data := do
  let statements ← statements text
  let document ← Document.ofStatements statements
  return document.data

end BiometricSession.Toml
