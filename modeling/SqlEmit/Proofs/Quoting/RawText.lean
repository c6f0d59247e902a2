import SqlEmit.Context
import SqlEmit.Emit.Call
import SqlEmit.Proofs.Nodes
import SqlEmit.Proofs.Quoting.Scan

/-! The raw texts of a query and of the context it is written in. Contents of string literals may be
any text; they are quoted, except where a call takes a string literal for the name of something. -/
namespace SqlEmit

/-- A text of a query, by how it gets into SQL. -/
inductive RawText where
  | verbatim (text : String)
  /-- The contents of a string literal. -/
  | content (text : String)
  /-- A string literal that names a sequence. -/
  | sequence (text : String)
  /-- A string literal that names the entity whose type code is asked for. -/
  | entity (text : String)
  deriving DecidableEq

/-- What the text has to be for the SQL to nest. Names may be anything that nests in the place where
they are written. -/
def RawText.Harmless (dialect : Dialect) : RawText → Prop
  | .verbatim text => Text.Clean text
  | .content _ => True
  | .sequence text => Text.Nests (dialect.nextValue text)
  | .entity text => Text.Nests (Call.typeParameter text)

instance (dialect : Dialect) : DecidablePred (RawText.Harmless dialect)
  | .verbatim text => inferInstanceAs (Decidable (Text.Clean text))
  | .content _ => inferInstanceAs (Decidable True)
  | .sequence text => inferInstanceAs (Decidable (Text.Nests (dialect.nextValue text)))
  | .entity text => inferInstanceAs (Decidable (Text.Nests (Call.typeParameter text)))

def TableRef.texts (table : TableRef) : List RawText :=
  .verbatim table.identifier :: table.asName.toList.map .verbatim

/-- The text of the first argument, which a call may take for a name. Among the texts of the query it is a text of
its own only where it is the contents of a string literal. -/
def Call.nameTexts (call : Call) : List RawText :=
  match call.args with
  | .literal ⟨.string, text⟩ :: _ =>
    if call.upperName = "VECTOR" then [.sequence text]
    else if call.upperName = "TYPEOF" then [.entity text]
    else []
  | .literal ⟨_, text⟩ :: _ => [.verbatim text]
  | .column ref :: _ => [.verbatim ref.identifier]
  | .variableRef ref :: _ => [.verbatim ref.identifier]
  | _ => []

/-- The texts of an expression outside its parts. -/
def Expr.texts : Expr → List RawText
  | .column ref => [.verbatim ref.identifier]
  | .literal ⟨.string, text⟩ => [.content text]
  | .literal ⟨_, text⟩ => [.verbatim text]
  | .variableRef ref => [.verbatim ref.identifier]
  | .memberRef ref => [.verbatim ref.object, .verbatim ref.member]
  | .call made => .verbatim made.name :: made.nameTexts
  | _ => []

def Node.texts : Node → List RawText
  | .expr e => e.texts
  | .source table | .target table => table.texts
  | .name text => [.verbatim text]
  | .join _ => []

def Query.texts (q : Query) : List RawText :=
  q.nodes.flatMap Node.texts

def PhysicalColumn.texts (column : PhysicalColumn) : List String :=
  column.name :: column.asName.toList

def Binding.texts : Binding → List String
  | .entity table => [table.tableName]
  | .userDefinedType tableName => [tableName]
  | _ => []

namespace Context

/-- The recorded physical names that a query can be written with. -/
def texts (cx : Context) : List String :=
  (cx.overrides.entries ++ cx.bindings.mappings.entries).flatMap
      (fun entry => entry.2.flatMap PhysicalColumn.texts) ++
    cx.bindings.bindings.entries.flatMap (fun entry => entry.2.texts)

/-- Physical names are clean, those that the metadata answers with too, locking hints nest, and no function is
registered but the standard one. -/
structure Harmless (cx : Context) : Prop where
  registry : cx.registry = Registry.standard
  names : ∀ text ∈ cx.texts, Text.Clean text
  resolved : ∀ identifier binding, cx.metadata.resolve identifier = some binding →
    ∀ text ∈ binding.texts, Text.Clean text
  hints : ∀ hint ∈ cx.hints.entries.map (·.2), Text.Nests hint

end Context

theorem Dict.mem_of_find? [DecidableEq κ] {d : Dict κ α} {key : κ} {value : α}
    (found : d.find? key = some value) : ∃ entry ∈ d.entries, entry.2 = value := by
  obtain ⟨entry, is, rfl⟩ := Option.map_eq_some_iff.mp found
  exact ⟨entry, List.mem_of_find?_eq_some is, rfl⟩

namespace Context.Harmless

variable {cx : Context} (harmless : cx.Harmless)
include harmless

theorem column {id : NodeId} {mapping : List PhysicalColumn} (mapped : cx.mapping? id = some mapping)
    {column : PhysicalColumn} (mem : column ∈ mapping) : ∀ text ∈ column.texts, Text.Clean text := by
  intro text named
  have entry : ∃ entry ∈ cx.overrides.entries ++ cx.bindings.mappings.entries, entry.2 = mapping := by
    rcases Option.or_eq_some_iff.mp mapped with changed | ⟨-, recorded⟩
    · obtain ⟨entry, present, is⟩ := Dict.mem_of_find? changed
      exact ⟨entry, List.mem_append_left _ present, is⟩
    · obtain ⟨entry, present, is⟩ := Dict.mem_of_find? recorded
      exact ⟨entry, List.mem_append_right _ present, is⟩
  obtain ⟨entry, present, rfl⟩ := entry
  refine harmless.names text (List.mem_append_left _ ?_)
  exact List.mem_flatMap.mpr ⟨entry, present, List.mem_flatMap.mpr ⟨column, mem, named⟩⟩

theorem table {table : TableRef} {binding : Binding} (bound : cx.tableBinding? table = some binding) :
    ∀ text ∈ binding.texts, Text.Clean text := by
  intro text named
  rcases Option.or_eq_some_iff.mp bound with recorded | ⟨-, resolved⟩
  · obtain ⟨entry, present, rfl⟩ := Dict.mem_of_find? recorded
    exact harmless.names text (List.mem_append_right _ (List.mem_flatMap.mpr ⟨entry, present, named⟩))
  · exact harmless.resolved table.identifier binding resolved text named

theorem hint {id : NodeId} {hint : String} (set : cx.hint? id = some hint) : Text.Nests hint := by
  obtain ⟨entry, present, rfl⟩ := Dict.mem_of_find? set
  exact harmless.hints _ (List.mem_map_of_mem present)

end Context.Harmless

end SqlEmit
