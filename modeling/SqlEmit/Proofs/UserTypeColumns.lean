import Mathlib.Data.List.Nodup
import SqlEmit.Proofs.GluedNames
import SqlEmit.Proofs.Query

/-! CREATE TYPE declares no physical column twice. The name of a physical column tells the declared column and
the part of it that it belongs to, so declared columns with different names have no physical name in common. -/
namespace SqlEmit.CreateType

/-- A declared column is written as these physical columns, one for each suffix of its kind. -/
structure Declares (cx : Context) (column : TypeColumn) (own : List ColumnDefinition) : Prop where
  present : own ≠ []
  named : ∃ kind, column.dataType.columnKind cx = .ok kind ∧
    own.map (·.name) = kind.suffixes.map (physicalName cx.dialect column.name)

section

variable {cx : Context}

theorem declares_of_ok {column : TypeColumn} {own : List ColumnDefinition}
    (ok : columnDefinitions cx column = .ok own) : Declares cx column own := by
  obtain ⟨kind, known, rest⟩ := Except.bind_ok.mp ok
  obtain ⟨parts, found, rest⟩ := Except.bind_ok.mp rest
  obtain rfl := Except.pure_ok.mp rest
  obtain ⟨present, suffixes⟩ := TypeName.parts_ok found
  refine ⟨by simpa using present, kind, known, ?_⟩
  rw [← suffixes, List.map_map, List.map_map]
  rfl

/-- Where a physical name comes from. -/
theorem Declares.origin {column : TypeColumn} {own : List ColumnDefinition} (declares : Declares cx column own)
    {name : String} (mem : name ∈ own.map (·.name)) :
    ∃ kind : TypeColumnKind, ∃ suffix ∈ kind.suffixes, physicalName cx.dialect column.name suffix = name := by
  obtain ⟨kind, -, named⟩ := declares.named
  rw [named] at mem
  obtain ⟨suffix, known, rfl⟩ := List.mem_map.mp mem
  exact ⟨kind, suffix, known, rfl⟩

/-- The parts of one column go by different suffixes. -/
theorem Declares.nodup {column : TypeColumn} {own : List ColumnDefinition} (declares : Declares cx column own) :
    (own.map (·.name)).Nodup := by
  obtain ⟨kind, -, named⟩ := declares.named
  rw [named]
  refine List.Nodup.map_on ?_ kind.suffixes_nodup
  intro suffix mem suffix' mem' same
  exact (physicalName_inj mem mem' same).2

theorem origin_of_mem {columns : List TypeColumn} {parts : List (List ColumnDefinition)}
    (each : List.Forall₂ (Declares cx) columns parts) {name : String} (mem : name ∈ parts.flatten.map (·.name)) :
    ∃ column ∈ columns, ∃ kind : TypeColumnKind, ∃ suffix ∈ kind.suffixes,
      physicalName cx.dialect column.name suffix = name := by
  obtain ⟨definition, inside, rfl⟩ := List.mem_map.mp mem
  obtain ⟨own, part, member⟩ := List.mem_flatten.mp inside
  obtain ⟨column, declared, declares⟩ := forall₂_mem each.flip part
  exact ⟨column, declared, declares.origin (List.mem_map_of_mem member)⟩

theorem nodup_of_declared {columns : List TypeColumn} {parts : List (List ColumnDefinition)}
    (each : List.Forall₂ (Declares cx) columns parts) (declared : (columns.map (·.name)).Nodup) :
    (parts.flatten.map (·.name)).Nodup := by
  induction each with
  | nil => exact List.nodup_nil
  | @cons column own columns parts declares rest ih =>
    obtain ⟨fresh, others⟩ := List.nodup_cons.mp declared
    rw [List.flatten_cons, List.map_append, List.nodup_append]
    refine ⟨declares.nodup, ih others, fun name first name' later same => ?_⟩
    -- a name in both parts would be that of two declared columns
    subst same
    obtain ⟨kind, suffix, mem, is⟩ := declares.origin first
    obtain ⟨other, among, kind', suffix', mem', is'⟩ := origin_of_mem rest later
    have names : column.name = other.name := (physicalName_inj mem mem' (is.trans is'.symm)).1
    exact fresh (List.mem_map.mpr ⟨other, among, names.symm⟩)

end

/-- A type whose columns are declared under different names is written with a physical column for each part of
each of them, and no two physical columns have one name. -/
theorem physical_names_distinct {cx : Context} {s : CreateType} {sql : Sql}
    (declared : (s.columns.map (·.name)).Nodup) (ok : s.emit cx = .ok sql) :
    ∃ parts, s.definitions cx = .ok parts.flatten ∧ List.Forall₂ (Declares cx) s.columns parts ∧
      (parts.flatten.map (·.name)).Nodup ∧
      sql.text = "CREATE TYPE " ++ cx.dialect.pick ("[" ++ s.name ++ "] AS TABLE") ("\"" ++ s.name ++ "\" AS") ++
        "\n(\n" ++ ",\n".intercalate (parts.flatten.map (definitionText cx.dialect)) ++ "\n);" := by
  obtain ⟨definitions, defined, rest⟩ := Except.bind_ok.mp ok
  obtain ⟨parts, found, flat⟩ := Except.bind_ok.mp defined
  obtain rfl := Except.pure_ok.mp flat
  obtain rfl := Except.pure_ok.mp rest
  have each : List.Forall₂ (Declares cx) s.columns parts :=
    (Except.mapM_ok.mp found).imp fun _ _ => declares_of_ok
  refine ⟨parts, defined, each, nodup_of_declared each declared, ?_⟩
  rw [Sql.text_code]

namespace Endings

def column (id : NodeId) (name type : String) : TypeColumn :=
  ⟨name, ⟨id, type, 0, 0⟩⟩

/-- Columns whose names end as those of the physical columns do. -/
def type : CreateType :=
  ⟨⟨1⟩, "owners", [column ⟨2⟩ "Owner" "entity", column ⟨3⟩ "Owner_R" "Owners", column ⟨4⟩ "Owner_R_R" "uuid",
    column ⟨5⟩ "Owner_R_-7" "string", column ⟨6⟩ "owner" "entity", column ⟨7⟩ "" "Owners"]⟩

/-- Two columns refer to entities of the type -7. -/
def bindings : Bindings :=
  Bindings.empty |>.bind ⟨3⟩ (.entityType (-7)) |>.bind ⟨7⟩ (.entityType (-7))

def context (dialect : Dialect) : Context :=
  .ofStatements dialect bindings Catalog.empty Registry.standard 0 (fun _ => default) [.createType type]

end Endings

/-- On PostgreSQL the suffixes are in lower case. -/
theorem physical_names_distinct_of_endings :
    (Endings.type.columns.map (·.name)).Nodup ∧
    ∃ sql definitions, Endings.type.emit (Endings.context .postgres) = .ok sql ∧
      Endings.type.definitions (Endings.context .postgres) = .ok definitions ∧
      definitions.map (·.name) = ["_Owner_c", "_Owner_r", "_Owner_R_r_-7", "_Owner_R_R_u", "_Owner_R_-7_s",
        "_owner_c", "_owner_r", "__r_-7"] ∧
      (definitions.map (·.name)).Nodup := by
  have declared : (Endings.type.columns.map (·.name)).Nodup := by decide
  obtain ⟨sql, ok, -⟩ : ∃ sql, Endings.type.emit (Endings.context .postgres) = .ok sql ∧ True :=
    Except.exists_ok (by decide +kernel)
  obtain ⟨definitions, defined, names⟩ : ∃ definitions,
      Endings.type.definitions (Endings.context .postgres) = .ok definitions ∧
      definitions.map (·.name) = ["_Owner_c", "_Owner_r", "_Owner_R_r_-7", "_Owner_R_R_u", "_Owner_R_-7_s",
        "_owner_c", "_owner_r", "__r_-7"] := Except.exists_ok (by decide +kernel)
  obtain ⟨parts, same, -, nodup, -⟩ := physical_names_distinct declared ok
  obtain rfl := Except.ok.inj (defined.symm.trans same)
  exact ⟨declared, sql, parts.flatten, ok, defined, names, nodup⟩

end SqlEmit.CreateType
