import BiometricSession.Proofs.Toml.Statement
import BiometricSession.Toml.Document
import Mathlib.Data.List.Nodup

/-!
# Printed documents are read back

A plain document is printed as entries and then as tables of entries, each table
under a header of its own.  If no name is given twice at the same place, reading
the text gives the data that the document stands for.  The entries of the text
are added to the document one after the other, always at its end.
-/

namespace BiometricSession.Toml

open Reader

/-- An entry of a printed text: its name, the text of its value, what the text is
read as, and the data that it stands for. -/
structure PlainEntry where
  name : String
  text : List Char
  content : Value
  data : Data
  bare : IsBareName name
  denotes : Denotes text content
  stands : content.data = some data

/-- A table of a printed text. -/
structure PlainTable where
  name : String
  entries : List PlainEntry
  bare : IsBareName name

/-- A printed text: entries, and tables after them. -/
structure PlainDocument where
  entries : List PlainEntry
  tables : List PlainTable

/-! ## Texts and their statements -/

namespace PlainEntry

def printed (entry : PlainEntry) : List Char :=
  printEntry entry.name entry.text

def statement (entry : PlainEntry) : Statement :=
  .entry ⟨[], entry.name⟩ entry.content

def node (entry : PlainEntry) : String × Node :=
  (entry.name, .closed entry.data)

def named (entry : PlainEntry) : String × Data :=
  (entry.name, entry.data)

end PlainEntry

namespace PlainTable

def printed (table : PlainTable) : List Char :=
  printHeader table.name ++ table.entries.flatMap (·.printed)

def lines (table : PlainTable) : List (Option Statement) :=
  none :: some (.header ⟨[], table.name⟩) :: table.entries.map fun entry => some entry.statement

def statements (table : PlainTable) : List Statement :=
  .header ⟨[], table.name⟩ :: table.entries.map (·.statement)

def node (table : PlainTable) : String × Node :=
  (table.name, .table .stated (table.entries.map (·.node)))

def named (table : PlainTable) : String × Data :=
  (table.name, .table (table.entries.map (·.named)))

end PlainTable

namespace PlainDocument

def printed (document : PlainDocument) : List Char :=
  document.entries.flatMap (·.printed) ++ document.tables.flatMap (·.printed)

def lines (document : PlainDocument) : List (Option Statement) :=
  document.entries.map (fun entry => some entry.statement) ++ document.tables.flatMap (·.lines)

def statements (document : PlainDocument) : List Statement :=
  document.entries.map (·.statement) ++ document.tables.flatMap (·.statements)

def data (document : PlainDocument) : Data :=
  .table (document.entries.map (·.named) ++ document.tables.map (·.named))

/-- No name is given twice at the same place. -/
structure IsDistinct (document : PlainDocument) : Prop where
  names : (document.entries.map (·.name) ++ document.tables.map (·.name)).Nodup
  tableNames : ∀ table ∈ document.tables, (table.entries.map (·.name)).Nodup

end PlainDocument

theorem readsLines_entries (entries : List PlainEntry) :
    ReadsLines (entries.flatMap (·.printed)) (entries.map fun entry => some entry.statement) := by
  induction entries with
  | nil =>
      intro rest values last repeats
      exact repeats
  | cons entry entries ih =>
      rw [List.flatMap_cons, List.map_cons]
      exact (readsLines_printEntry entry.bare entry.denotes).append ih

theorem PlainTable.readsLines (table : PlainTable) : ReadsLines table.printed table.lines :=
  (readsLines_printHeader table.bare).append (readsLines_entries table.entries)

theorem readsLines_tables (tables : List PlainTable) :
    ReadsLines (tables.flatMap (·.printed)) (tables.flatMap (·.lines)) := by
  induction tables with
  | nil =>
      intro rest values last repeats
      exact repeats
  | cons table tables ih =>
      rw [List.flatMap_cons, List.flatMap_cons]
      exact table.readsLines.append ih

theorem PlainTable.filterMap_lines (table : PlainTable) :
    table.lines.filterMap id = table.statements := by
  simp [lines, statements, List.filterMap_map]

namespace PlainDocument

variable (document : PlainDocument)

theorem readsLines : ReadsLines document.printed document.lines :=
  (readsLines_entries document.entries).append (readsLines_tables document.tables)

theorem filterMap_lines : document.lines.filterMap id = document.statements := by
  simp only [lines, statements, List.filterMap_append, List.filterMap_flatMap,
    PlainTable.filterMap_lines]
  simp [List.filterMap_map]

/-- No printed text opens with a byte order mark. -/
theorem character_refuses_mark (rest : List Char)
    (noMark : character '\ufeff' rest = none) :
    character '\ufeff' (document.printed ++ rest) = none := by
  rcases entriesShape : document.entries with _ | ⟨entry, entries⟩
  · rcases tablesShape : document.tables with _ | ⟨table, tables⟩
    · simpa [printed, entriesShape, tablesShape] using noMark
    · simp [printed, entriesShape, tablesShape, PlainTable.printed, printHeader]
  · obtain ⟨first, others, split, isBare⟩ := entry.bare.split
    have noMark : first ≠ '\ufeff' := ne_of_bareKey isBare rfl
    simp [printed, entriesShape, PlainEntry.printed, printEntry, split, noMark]

end PlainDocument

/-! ## Statements and their data -/

namespace Entries

variable {name : String} {entries : Entries}

theorem update_new {change : Option Node → Option Node} {node : Node}
    (new : name ∉ entries.map Prod.fst) (made : change none = some node) :
    entries.update name change = some (entries ++ [(name, node)]) := by
  induction entries with
  | nil => simp [update, made]
  | cons entry entries ih =>
      rw [List.map_cons, List.mem_cons, not_or] at new
      simp [update, Ne.symm new.1, ih new.2]

theorem update_last {change : Option Node → Option Node} {node changed : Node}
    (new : name ∉ entries.map Prod.fst) (made : change (some node) = some changed) :
    (entries ++ [(name, node)]).update name change = some (entries ++ [(name, changed)]) := by
  induction entries with
  | nil => simp [update, made]
  | cons entry entries ih =>
      rw [List.map_cons, List.mem_cons, not_or] at new
      simp [update, Ne.symm new.1, ih new.2]

theorem insert_new (new : name ∉ entries.map Prod.fst) (node : Node) :
    entries.insert ⟨[], name⟩ node = some (entries ++ [(name, node)]) :=
  update_new new rfl

theorem openTable_new (new : name ∉ entries.map Prod.fst) :
    entries.openTable name = some (entries ++ [(name, .table .stated [])]) := by
  have absent : entries.lookup name = none := by
    rw [List.lookup_eq_none_iff]
    intro entry isMember
    rw [bne_iff_ne]
    rintro rfl
    exact new (List.mem_map_of_mem isMember)
  unfold openTable
  rw [absent]

end Entries

theorem extend_atRoot {root : Entries} {entry : PlainEntry}
    (new : entry.name ∉ root.map Prod.fst) :
    Document.extend ⟨root, []⟩ entry.statement = some ⟨root ++ [entry.node], []⟩ := by
  simp [Document.extend, PlainEntry.statement, entry.stands, Entries.alongHeader,
    Entries.insert_new new, PlainEntry.node]

theorem extend_inTable {root inner : Entries} {name : String} {entry : PlainEntry}
    (newTable : name ∉ root.map Prod.fst) (new : entry.name ∉ inner.map Prod.fst) :
    Document.extend ⟨root ++ [(name, .table .stated inner)], [name]⟩ entry.statement =
      some ⟨root ++ [(name, .table .stated (inner ++ [entry.node]))], [name]⟩ := by
  have inserted := Entries.insert_new new (.closed entry.data)
  simp [Document.extend, PlainEntry.statement, entry.stands, Entries.alongHeader,
    Entries.update_last newTable, inserted, PlainEntry.node]

theorem extend_header {root : Entries} {current : List String} {name : String}
    (new : name ∉ root.map Prod.fst) :
    Document.extend ⟨root, current⟩ (.header ⟨[], name⟩) =
      some ⟨root ++ [(name, .table .stated [])], [name]⟩ := by
  simp [Document.extend, Entries.alongHeader, Entries.openTable_new new]

theorem foldlM_atRoot {root : Entries} {entries : List PlainEntry}
    (distinct : (root.map Prod.fst ++ entries.map (·.name)).Nodup) :
    (entries.map (·.statement)).foldlM Document.extend ⟨root, []⟩ =
      some ⟨root ++ entries.map (·.node), []⟩ := by
  induction entries generalizing root with
  | nil => simp
  | cons entry entries ih =>
      have new : entry.name ∉ root.map Prod.fst := by
        intro isOld
        exact (List.nodup_append.mp distinct).2.2 _ isOld _ (by simp) rfl
      have others : ((root ++ [entry.node]).map Prod.fst ++ entries.map (·.name)).Nodup := by
        simpa [PlainEntry.node] using distinct
      simp [extend_atRoot new, ih others]

theorem foldlM_inTable {root inner : Entries} {name : String} {entries : List PlainEntry}
    (newTable : name ∉ root.map Prod.fst)
    (distinct : (inner.map Prod.fst ++ entries.map (·.name)).Nodup) :
    (entries.map (·.statement)).foldlM Document.extend
        ⟨root ++ [(name, .table .stated inner)], [name]⟩ =
      some ⟨root ++ [(name, .table .stated (inner ++ entries.map (·.node)))], [name]⟩ := by
  induction entries generalizing inner with
  | nil => simp
  | cons entry entries ih =>
      have new : entry.name ∉ inner.map Prod.fst := by
        intro isOld
        exact (List.nodup_append.mp distinct).2.2 _ isOld _ (by simp) rfl
      have others : ((inner ++ [entry.node]).map Prod.fst ++ entries.map (·.name)).Nodup := by
        simpa [PlainEntry.node] using distinct
      simp [extend_inTable newTable new, ih others]

theorem PlainTable.foldlM_statements (table : PlainTable) {root : Entries}
    {current : List String} (new : table.name ∉ root.map Prod.fst)
    (distinct : (table.entries.map (·.name)).Nodup) :
    table.statements.foldlM Document.extend ⟨root, current⟩ =
      some ⟨root ++ [table.node], [table.name]⟩ := by
  rw [statements, List.foldlM_cons, extend_header new]
  exact foldlM_inTable new (by simpa using distinct)

theorem foldlM_tables {root : Entries} (current : List String) {tables : List PlainTable}
    (distinct : (root.map Prod.fst ++ tables.map (·.name)).Nodup)
    (tableNames : ∀ table ∈ tables, (table.entries.map (·.name)).Nodup) :
    ∃ last, (tables.flatMap (·.statements)).foldlM Document.extend ⟨root, current⟩ =
      some ⟨root ++ tables.map (·.node), last⟩ := by
  induction tables generalizing root current with
  | nil => exact ⟨current, by simp⟩
  | cons table tables ih =>
      rw [List.forall_mem_cons] at tableNames
      have new : table.name ∉ root.map Prod.fst := by
        intro isOld
        exact (List.nodup_append.mp distinct).2.2 _ isOld _ (by simp) rfl
      have others : ((root ++ [table.node]).map Prod.fst ++ tables.map (·.name)).Nodup := by
        simpa [PlainTable.node] using distinct
      obtain ⟨last, read⟩ := ih [table.name] others tableNames.2
      exact ⟨last, by simp [table.foldlM_statements new tableNames.1, read]⟩

theorem entriesData_append (front back : Entries) :
    entriesData (front ++ back) = entriesData front ++ entriesData back := by
  induction front with
  | nil => rfl
  | cons entry front ih => simp [entriesData, ih]

theorem entriesData_entries (entries : List PlainEntry) :
    entriesData (entries.map (·.node)) = entries.map (·.named) := by
  induction entries with
  | nil => rfl
  | cons entry entries ih =>
      rw [List.map_cons, List.map_cons, ← ih]
      rfl

theorem entriesData_tables (tables : List PlainTable) :
    entriesData (tables.map (·.node)) = tables.map (·.named) := by
  induction tables with
  | nil => rfl
  | cons table tables ih =>
      rw [List.map_cons, List.map_cons, ← ih, PlainTable.named, ← entriesData_entries]
      rfl

namespace PlainDocument

variable {document : PlainDocument}

/-- The statements of a document without repeated names come to its data. -/
theorem ofStatements_statements (distinct : document.IsDistinct) :
    (Document.ofStatements document.statements).map Document.data = some document.data := by
  have atRoot : (document.entries.map (·.statement)).foldlM Document.extend ⟨[], []⟩ =
      some ⟨document.entries.map (·.node), []⟩ :=
    foldlM_atRoot (by simpa using distinct.names.of_append_left)
  have names : (document.entries.map (·.node)).map Prod.fst = document.entries.map (·.name) := by
    simp [PlainEntry.node]
  have allNames : ((document.entries.map (·.node)).map Prod.fst ++
      document.tables.map (·.name)).Nodup := by
    rw [names]
    exact distinct.names
  obtain ⟨last, inTables⟩ := foldlM_tables [] allNames distinct.tableNames
  simp [Document.ofStatements, Document.empty, statements, List.foldlM_append, atRoot, inTables,
    Document.data, entriesData_append, entriesData_entries, entriesData_tables, data]

theorem read_of_readsLines {text : List Char} {lines : List (Option Statement)}
    (reads : ReadsLines text lines) (noMark : character '\ufeff' text = none)
    (same : lines.filterMap id = document.statements) (distinct : document.IsDistinct) :
    read (String.ofList text) = some document.data := by
  obtain ⟨whole, built, isData⟩ := Option.map_eq_some_iff.mp (ofStatements_statements distinct)
  rw [read, statements_of_readsLines reads noMark, same]
  simp [built, isData]

/-- The text of a document is read back as its data. -/
theorem read_printed (distinct : document.IsDistinct) :
    read (String.ofList document.printed) = some document.data := by
  have noMark := document.character_refuses_mark [] rfl
  rw [List.append_nil] at noMark
  exact read_of_readsLines document.readsLines noMark document.filterMap_lines distinct

/-- An empty line after the text changes nothing. -/
theorem read_printed_newline (distinct : document.IsDistinct) :
    read (String.ofList (document.printed ++ ['\n'])) = some document.data := by
  have noMark := document.character_refuses_mark ['\n'] rfl
  refine read_of_readsLines (document.readsLines.append readsLines_newline) noMark ?_ distinct
  rw [List.filterMap_append, document.filterMap_lines]
  exact List.append_nil _

end PlainDocument

end BiometricSession.Toml
