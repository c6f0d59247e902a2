import SqlEmit.Proofs.Query
import SqlEmit.Statement

/-! The column and value lists of an INSERT. Each property that the source projects contributes its
columns and one value for each of them, except that a column which draws from a sequence contributes a
single value however many columns the property has. -/
namespace SqlEmit

theorem Projected.isVector_of_sequence? {column : Projected} {drawn : Option String}
    (ok : column.sequence? = .ok drawn) : column.isVector = drawn.isSome := by
  unfold sequence? at ok
  unfold isVector
  cases expr : column.expr with
  | call call =>
    simp only [expr] at ok ⊢
    by_cases vector : call.isVector = true
    · simp only [vector, if_true, Except.bind_ok, Except.pure_ok] at ok
      obtain ⟨sequence, -, rfl⟩ := ok
      exact vector
    · simp only [vector, Bool.false_eq_true, if_false] at ok
      obtain rfl := Except.ok.inj ok
      simpa using vector
  | _ =>
    simp only [expr] at ok ⊢
    obtain rfl := Except.ok.inj ok
    rfl

/-- The bytes of an entity reference that a column of a tag stores. -/
def TypeTag.entityHex (code : Int32) (identity : Uuid) : TypeTag → Option String
  | .tag => some "08"
  | .typeCode => some (Literal.typeCodeHex code)
  | .entity => some identity.storedHex
  | _ => none

/-- The value of an entity reference in a column, by the tag of the column. -/
def PhysicalColumn.Stores (dialect : Dialect) (code : Int32) (identity : Uuid) (column : PhysicalColumn)
    (value : Sql) : Prop :=
  ∃ stored hex, column.tag = some stored ∧ stored.entityHex code identity = some hex ∧
    value = Sql.code (dialect.bytesLiteral hex)

theorem entityPart_ok {dialect : Dialect} {code : Int32} {identity : Uuid} {column : PhysicalColumn}
    {value : Sql} :
    entityPart dialect code identity column = .ok value ↔ column.Stores dialect code identity value := by
  unfold entityPart PhysicalColumn.Stores
  cases tagged : column.tag with
  | none => simp
  | some stored =>
    cases stored <;> simp [TypeTag.entityHex, Dialect.uuidLiteral, eq_comm]

/-- How a value fills the columns of a target. A single column takes the text of the value. Several take
the columns of a reference one by one, NULL each, or the parts of an entity reference. -/
inductive Assigned (cx : Context) (columns : List PhysicalColumn) : Expr → List Sql → Prop
  | single {value : Expr} {sql : Sql} (one : columns.length = 1) (written : (value.emit cx).result = .ok sql) :
    Assigned cx columns value [sql]
  | paired {ref : ColumnRef} {mapping : List PhysicalColumn} (several : 1 < columns.length)
    (mapped : cx.mapping? ref.id = some mapping) (same : mapping.length = columns.length) :
    Assigned cx columns (.column ref) (mapping.map fun column => Sql.code column.name)
  | null {text : String} (several : 1 < columns.length) :
    Assigned cx columns (.literal ⟨.null, text⟩) (columns.map fun _ => Sql.code "NULL")
  | entity {text : String} {code : Int32} {identity : Uuid} {values : List Sql} (several : 1 < columns.length)
    (read : Literal.readEntity text = .ok (code, identity))
    (parts : List.Forall₂ (PhysicalColumn.Stores cx.dialect code identity) columns values) :
    Assigned cx columns (.literal ⟨.entity, text⟩) values

section

variable {cx : Context} {columns : List PhysicalColumn} {value : Expr} {values : List Sql}

theorem Assigned.length_eq (assigned : Assigned cx columns value values) :
    values.length = columns.length := by
  cases assigned with
  | single one written => exact one.symm
  | paired several mapped same => simpa using same
  | null several => simp
  | entity several read parts => exact parts.length_eq.symm

theorem spreadValue_ok {dialect : Dialect} {first : PhysicalColumn} {literal : Literal}
    (ok : spreadValue dialect first columns (.literal literal) = .ok values) :
    (∃ text, literal = ⟨.null, text⟩ ∧ values = columns.map fun _ => Sql.code "NULL") ∨
      ∃ text code identity, literal = ⟨.entity, text⟩ ∧ Literal.readEntity text = .ok (code, identity) ∧
        List.Forall₂ (PhysicalColumn.Stores dialect code identity) columns values := by
  obtain ⟨kind, text⟩ := literal
  cases kind with
  | null => exact .inl ⟨text, rfl, (Except.ok.inj ok).symm⟩
  | entity =>
    obtain ⟨⟨code, identity⟩, read, each⟩ := Except.bind_ok.mp ok
    exact .inr ⟨text, code, identity, rfl, read, (Except.mapM_ok.mp each).imp fun _ _ => entityPart_ok.mp⟩
  | _ => simp [spreadValue] at ok

theorem assigned_of_emit (ok : (emitValues cx columns value).result = .ok values) :
    Assigned cx columns value values := by
  rcases columns with _ | ⟨first, _ | ⟨second, others⟩⟩
  · simp [emitValues] at ok
  · simp only [emitValues, Emit.bind_ok, Emit.pure_ok] at ok
    obtain ⟨sql, written, rfl⟩ := ok
    exact .single rfl written
  · have several : 1 < (first :: second :: others).length := by simp
    unfold emitValues at ok
    dsimp only at ok
    split at ok
    next mapping found =>
      obtain ⟨mapped, count⟩ := Option.filter_eq_some_iff.mp found
      obtain rfl := Emit.pure_ok.mp ok
      cases value with
      | column ref => exact .paired several mapped (by simpa using count)
      | _ => cases mapped
    next =>
      cases value with
      | literal literal =>
        rcases spreadValue_ok ok with ⟨text, rfl, rfl⟩ | ⟨text, code, identity, rfl, read, parts⟩
        · exact .null several
        · exact .entity several read parts
      | _ => cases ok

end

namespace Insert

/-- The projected column that fills a property: the one of its name, unless nothing of the property is
inserted. -/
def supplier? (projection : List Projected) (property : Property) : Option Projected :=
  if property.isGenerated ∨ propertyTargets property = [] then none else matching projection property

/-- The value that a projected column gives the target column at a place of a property. -/
inductive Chosen (cx : Context) (source : String) (column : Projected) (targets : List PhysicalColumn)
    (place : Nat) : InsertValue → Prop where
  | drawn {sequence : String} (draws : column.sequence? = .ok (some sequence)) :
    Chosen cx source column targets place (.next sequence)
  | literal {value : Literal} {sql : Sql} (is : column.expr = .literal value) (single : targets.length = 1)
    (written : cx.literalSql value = .ok sql) : Chosen cx source column targets place (.written sql)
  | null {text : String} (is : column.expr = .literal ⟨.null, text⟩) (several : 1 < targets.length) :
    Chosen cx source column targets place (.written (Sql.code "NULL"))
  | entity {text : String} {code : Int32} {identity : Uuid} {target : PhysicalColumn} {sql : Sql}
    (is : column.expr = .literal ⟨.entity, text⟩) (several : 1 < targets.length)
    (read : Literal.readEntity text = .ok (code, identity)) (stands : targets[place]? = some target)
    (part : entityPart cx.dialect code identity target = .ok sql) :
    Chosen cx source column targets place (.written sql)
  | placed {output : PhysicalColumn} (plain : column.sequence? = .ok none)
    (computed : ∀ value, column.expr ≠ .literal value)
    (same : (column.outputs cx).length = targets.length)
    (stands : (column.outputs cx)[place]? = some output) :
    Chosen cx source column targets place (.copied source output.name)
  | tagged {target output : PhysicalColumn} (plain : column.sequence? = .ok none)
    (computed : ∀ value, column.expr ≠ .literal value)
    (differs : (column.outputs cx).length ≠ targets.length) (stands : targets[place]? = some target)
    (found : (column.outputs cx).find? (fun output => output.tag.isSome && output.tag = target.tag) =
      some output) : Chosen cx source column targets place (.copied source output.name)

/-- The values of one property: one for each of its columns, or the single one that is drawn. -/
structure Supplies (cx : Context) (source : String) (column : Projected) (targets : List PhysicalColumn)
    (values : List InsertValue) : Prop where
  length : values.length = if column.isVector then 1 else targets.length
  chosen : ∀ place value, values[place]? = some value → Chosen cx source column targets place value

section

variable {cx : Context} {source : String} {column : Projected} {targets : List PhysicalColumn}

theorem supplies_literal {value : Literal} {sqls : List Sql} (is : column.expr = .literal value)
    (ok : (emitValues cx targets column.expr).result = .ok sqls) :
    Supplies cx source column targets (sqls.map .written) := by
  have plain : column.isVector = false := by simp [Projected.isVector, is]
  have assigned := assigned_of_emit ok
  have length : (sqls.map InsertValue.written).length = if column.isVector then 1 else targets.length := by
    simp [plain, assigned.length_eq]
  refine ⟨length, fun place value stands => ?_⟩
  rw [List.getElem?_map, Option.map_eq_some_iff] at stands
  obtain ⟨sql, stands, rfl⟩ := stands
  rw [is] at assigned
  cases assigned with
  | single one written =>
    obtain rfl := List.mem_singleton.mp (List.mem_of_getElem? stands)
    rw [Expr.emit] at written
    exact .literal is one written
  | null several =>
    obtain ⟨target, -, rfl⟩ := List.mem_map.mp (List.mem_of_getElem? stands)
    exact .null is several
  | entity several read parts =>
    obtain ⟨target, there, stores⟩ := forall₂_getElem? parts.flip stands
    exact .entity is several read there (entityPart_ok.mpr stores)

theorem taggedOutput_ok {outputs : List PhysicalColumn} {target : PhysicalColumn} {value : InsertValue}
    (ok : taggedOutput source column outputs target = .ok value) :
    ∃ output, outputs.find? (fun output => output.tag.isSome && output.tag = target.tag) = some output ∧
      value = .copied source output.name := by
  unfold taggedOutput at ok
  split at ok
  next output found => exact ⟨output, found, (Except.ok.inj ok).symm⟩
  next => contradiction

theorem supplies_outputs {values : List InsertValue} (plain : column.sequence? = .ok none)
    (computed : ∀ value, column.expr ≠ .literal value)
    (ok : (if (column.outputs cx).length = targets.length then
        pure ((column.outputs cx).map fun output => .copied source output.name)
      else Emit.ofExcept (targets.mapM (taggedOutput source column (column.outputs cx)))).result =
        .ok values) :
    Supplies cx source column targets values := by
  have scalar : column.isVector = false := Projected.isVector_of_sequence? plain
  by_cases same : (column.outputs cx).length = targets.length
  · rw [if_pos same, Emit.pure_ok] at ok
    subst ok
    refine ⟨by simp [scalar, same], fun place value stands => ?_⟩
    rw [List.getElem?_map, Option.map_eq_some_iff] at stands
    obtain ⟨output, stands, rfl⟩ := stands
    exact .placed plain computed same stands
  · rw [if_neg same, Emit.result_ofExcept, Except.mapM_ok] at ok
    refine ⟨by simp [scalar, ok.length_eq], fun place value stands => ?_⟩
    obtain ⟨target, there, chosen⟩ := forall₂_getElem? ok.flip stands
    obtain ⟨output, found, rfl⟩ := taggedOutput_ok chosen
    exact .tagged plain computed same there found

theorem supplies_of_ok {values : List InsertValue}
    (ok : (propertyValues cx source column targets).result = .ok values) :
    Supplies cx source column targets values := by
  obtain ⟨drawn, draws, rest⟩ := Emit.bind_ok.mp ok
  rw [Emit.result_lift] at draws
  cases drawn with
  | some sequence =>
    obtain rfl := Emit.pure_ok.mp rest
    have vector : column.isVector = true := Projected.isVector_of_sequence? draws
    refine ⟨by simp [vector], fun place value stands => ?_⟩
    have mem := List.mem_of_getElem? stands
    obtain rfl : value = .next sequence := by simpa using mem
    exact .drawn draws
  | none =>
    cases expr : column.expr with
    | literal value =>
      simp only [expr, Emit.bind_ok, Emit.pure_ok] at rest
      obtain ⟨sqls, emitted, rfl⟩ := rest
      exact supplies_literal expr (expr ▸ emitted)
    | _ =>
      simp only [expr] at rest
      exact supplies_outputs draws (by simp [expr]) rest

end

/-- What one property of an entity contributes to the lists. -/
inductive Fills (cx : Context) (source : String) (projection : List Projected) (property : Property) :
    InsertLists → Prop where
  | skipped (none : supplier? projection property = none) : Fills cx source projection property .empty
  | filled {column : Projected} {values : List InsertValue}
    (supplier : supplier? projection property = some column)
    (supplies : Supplies cx source column (propertyTargets property) values) :
    Fills cx source projection property ⟨(propertyTargets property).map (·.name), values⟩

/-- What one projected column contributes to the lists of a table without properties. -/
inductive Passes (cx : Context) (source : String) (column : Projected) : InsertLists → Prop where
  | drawn {sequence : String} (draws : column.sequence? = .ok (some sequence)) :
    Passes cx source column ⟨[column.name.getD ""], [.next sequence]⟩
  | copied (plain : column.sequence? = .ok none) :
    Passes cx source column ⟨(column.outputs cx).map (·.name),
      ((column.outputs cx).map (·.name)).map (.copied source)⟩

/-- The contributions that the lists of a target are made of. -/
inductive Parts (cx : Context) (target : TableRef) (source : String) (projection : List Projected) :
    List InsertLists → Prop where
  | entity {entity : Entity} {parts : List InsertLists}
    (bound : cx.tableBinding? target = some (.entity entity))
    (each : List.Forall₂ (Fills cx source projection) entity.properties parts) :
    Parts cx target source projection parts
  | table {parts : List InsertLists} (unbound : ∀ entity, cx.tableBinding? target ≠ some (.entity entity))
    (each : List.Forall₂ (Passes cx source) projection parts) : Parts cx target source projection parts

end Insert

namespace InsertLists

def joined (parts : List InsertLists) : InsertLists :=
  ⟨parts.flatMap (·.columns), parts.flatMap (·.values)⟩

theorem foldl_append (parts : List InsertLists) (first : InsertLists) :
    parts.foldl append first = first.append (joined parts) := by
  induction parts generalizing first with
  | nil => simp [append, joined]
  | cons part parts ih => simp [ih, append, joined]

/-- There is one value for each column. -/
def Aligned (lists : InsertLists) : Prop :=
  lists.values.length = lists.columns.length

instance : DecidablePred Aligned :=
  fun _ => inferInstanceAs (Decidable (_ = _))

theorem length_joined_le {parts : List InsertLists}
    (short : ∀ part ∈ parts, part.values.length ≤ part.columns.length) :
    (joined parts).values.length ≤ (joined parts).columns.length := by
  induction parts with
  | nil => exact Nat.le_refl 0
  | cons part parts ih =>
    obtain ⟨first, others⟩ := List.forall_mem_cons.mp short
    have rest := ih others
    simp only [joined, List.flatMap_cons, List.length_append] at rest ⊢
    omega

/-- Where no part has too many values, a missing one is not made up for by another part. -/
theorem aligned_joined_iff {parts : List InsertLists}
    (short : ∀ part ∈ parts, part.values.length ≤ part.columns.length) :
    (joined parts).Aligned ↔ ∀ part ∈ parts, part.Aligned := by
  induction parts with
  | nil => simp [Aligned, joined]
  | cons part parts ih =>
    obtain ⟨first, others⟩ := List.forall_mem_cons.mp short
    have rest := length_joined_le others
    rw [List.forall_mem_cons, ← ih others]
    simp only [Aligned, joined, List.flatMap_cons, List.length_append] at rest ⊢
    omega

theorem zip_joined {parts : List InsertLists} (aligned : ∀ part ∈ parts, part.Aligned) :
    (joined parts).columns.zip (joined parts).values =
      parts.flatMap fun part => part.columns.zip part.values := by
  induction parts with
  | nil => rfl
  | cons part parts ih =>
    obtain ⟨first, others⟩ := List.forall_mem_cons.mp aligned
    have rest := ih others
    simp only [joined, List.flatMap_cons] at rest ⊢
    rw [List.zip_append first.symm, rest]

end InsertLists

namespace Insert

section

variable {cx : Context} {source : String} {projection : List Projected} {property : Property}
  {column : Projected} {part : InsertLists} {target : TableRef}

theorem supplier?_some (supplier : supplier? projection property = some column) :
    property.isGenerated = false ∧ propertyTargets property ≠ [] ∧
      matching projection property = some column := by
  unfold supplier? at supplier
  by_cases skipped : property.isGenerated ∨ propertyTargets property = []
  · simp [skipped] at supplier
  · rw [if_neg skipped] at supplier
    rw [not_or] at skipped
    exact ⟨by simpa using skipped.1, skipped.2, supplier⟩

theorem mem_of_supplier? (supplier : supplier? projection property = some column) :
    column ∈ projection :=
  List.mem_of_find?_eq_some (supplier?_some supplier).2.2

theorem fills_of_ok (ok : (propertyLists cx source projection property).result = .ok part) :
    Fills cx source projection property part := by
  unfold propertyLists at ok
  by_cases generated : property.isGenerated = true
  · rw [if_pos generated, Emit.pure_ok] at ok
    subst ok
    exact .skipped (by simp [supplier?, generated])
  rw [if_neg generated] at ok
  cases found : matching projection property with
  | none =>
    simp only [found, Emit.pure_ok] at ok
    subst ok
    exact .skipped (by simp [supplier?, found])
  | some column =>
    cases targets : propertyTargets property with
    | nil =>
      simp only [found, targets, Emit.pure_ok] at ok
      subst ok
      exact .skipped (by simp [supplier?, targets])
    | cons first others =>
      simp only [found, targets, Emit.bind_ok, Emit.pure_ok] at ok
      obtain ⟨values, emitted, rfl⟩ := ok
      rw [← targets] at emitted ⊢
      exact .filled (by simp [supplier?, generated, targets, found]) (supplies_of_ok emitted)

theorem passes_of_ok (ok : (columnLists cx source column).result = .ok part) :
    Passes cx source column part := by
  obtain ⟨drawn, draws, rest⟩ := Emit.bind_ok.mp ok
  rw [Emit.result_lift] at draws
  cases drawn with
  | some sequence =>
    obtain rfl := Emit.pure_ok.mp rest
    exact .drawn draws
  | none =>
    obtain rfl := Emit.pure_ok.mp rest
    exact .copied draws

theorem joined_of_ok {parts : List InsertLists} {lists : InsertLists}
    (ok : (if (parts.foldl InsertLists.append .empty).columns.isEmpty then
        Emit.fail (.insertWithoutMatch target.id target.identifier)
      else pure (parts.foldl InsertLists.append .empty) : Emit InsertLists).result = .ok lists) :
    lists = .joined parts := by
  rw [InsertLists.foldl_append] at ok
  split at ok
  · simp at ok
  · exact (Emit.pure_ok.mp ok).symm

theorem parts_of_ok {lists : InsertLists}
    (ok : (Insert.lists cx target source projection).result = .ok lists) :
    ∃ parts, Parts cx target source projection parts ∧ lists = .joined parts := by
  unfold Insert.lists at ok
  split at ok
  next entity bound =>
    obtain ⟨parts, each, rest⟩ := Emit.bind_ok.mp ok
    rw [Emit.all_ok, List.forall₂_map_left_iff] at each
    exact ⟨parts, .entity bound (each.imp fun _ _ => fills_of_ok), joined_of_ok rest⟩
  next unbound =>
    obtain ⟨parts, each, rest⟩ := Emit.bind_ok.mp ok
    rw [Emit.all_ok, List.forall₂_map_left_iff] at each
    exact ⟨parts, .table unbound (each.imp fun _ _ => passes_of_ok), joined_of_ok rest⟩

theorem Fills.length_le (fills : Fills cx source projection property part) :
    part.values.length ≤ part.columns.length := by
  cases fills with
  | skipped none => exact Nat.le_refl 0
  | @filled column values supplier supplies =>
    have present := List.length_pos_iff.mpr (supplier?_some supplier).2.1
    have length := supplies.length
    simp only [List.length_map]
    split at length <;> omega

theorem Fills.aligned_iff (fills : Fills cx source projection property part) :
    part.Aligned ↔ ∀ column ∈ supplier? projection property, column.isVector = true →
      (propertyTargets property).length = 1 := by
  cases fills with
  | skipped none => simp [none, InsertLists.Aligned, InsertLists.empty]
  | @filled column values supplier supplies =>
    have length := supplies.length
    simp only [supplier, Option.mem_def, Option.some.injEq, forall_eq', InsertLists.Aligned,
      List.length_map]
    by_cases vector : column.isVector = true
    · simp only [vector, if_true, forall_const] at length ⊢
      omega
    · simp only [vector, Bool.false_eq_true, if_false, false_implies, iff_true] at length ⊢
      exact length

theorem Passes.aligned (passes : Passes cx source column part) : part.Aligned := by
  cases passes with
  | drawn draws => rfl
  | copied plain => simp [InsertLists.Aligned]

/-- No property of several columns is filled from a sequence. -/
def DrawsFit (cx : Context) (target : TableRef) (projection : List Projected) : Prop :=
  ∀ entity, cx.tableBinding? target = some (.entity entity) → ∀ property ∈ entity.properties,
    ∀ column ∈ supplier? projection property, column.isVector = true →
      (propertyTargets property).length = 1

theorem drawsFit_iff {entity : Entity} (bound : cx.tableBinding? target = some (.entity entity)) :
    DrawsFit cx target projection ↔ ∀ property ∈ entity.properties,
      ∀ column ∈ supplier? projection property, column.isVector = true →
        (propertyTargets property).length = 1 := by
  simp [DrawsFit, bound]

theorem Parts.length_le {parts : List InsertLists} (made : Parts cx target source projection parts) :
    ∀ part ∈ parts, part.values.length ≤ part.columns.length := by
  intro part mem
  cases made with
  | entity bound each =>
    obtain ⟨property, _, fills⟩ := forall₂_mem each.flip mem
    exact fills.length_le
  | table unbound each =>
    obtain ⟨column, _, passes⟩ := forall₂_mem each.flip mem
    exact Nat.le_of_eq passes.aligned

theorem Parts.aligned_iff {parts : List InsertLists} (made : Parts cx target source projection parts) :
    (∀ part ∈ parts, part.Aligned) ↔ DrawsFit cx target projection := by
  cases made with
  | entity bound each =>
    rw [drawsFit_iff bound]
    constructor
    · intro aligned property mem
      obtain ⟨part, there, fills⟩ := forall₂_mem each mem
      exact fills.aligned_iff.mp (aligned part there)
    · intro fit part mem
      obtain ⟨property, there, fills⟩ := forall₂_mem each.flip mem
      exact fills.aligned_iff.mpr (fit property there)
  | table unbound each =>
    refine ⟨fun _ entity bound => absurd bound (unbound entity), fun _ part mem => ?_⟩
    obtain ⟨column, _, passes⟩ := forall₂_mem each.flip mem
    exact passes.aligned

end

end Insert

structure InsertSql where
  ctes : Sql
  table : String
  lists : InsertLists
  source : Sql

def InsertSql.sql (dialect : Dialect) (s : InsertSql) : Sql :=
  s.ctes ++ Sql.code ("INSERT INTO " ++ s.table ++ " (" ++ ", ".intercalate s.lists.columns ++
    ")\nSELECT\n") ++ Sql.join ",\n" (s.lists.values.map (InsertValue.sql dialect)) ++
    Sql.code "\nFROM " ++ s.source

/-- Each part of `written` is what the same part of the statement is written as. -/
structure Insert.Written (cx : Context) (s : Insert) (projection : List Projected) (written : InsertSql) :
    Prop where
  table : cx.targetName s.target "INSERT" = .ok written.table
  projects : s.source.projection cx = .ok projection
  lists : (Insert.lists cx s.target s.source.name projection).result = .ok written.lists
  ctes : (emitWith cx s.ctes "\n").result = .ok written.ctes
  source : (s.source.emit cx).result = .ok written.source

theorem Insert.written_of_emitBody {cx : Context} {s : Insert} {body : Sql}
    (ok : (s.emitBody cx).result = .ok body) :
    ∃ projection written, s.Written cx projection written ∧ body = written.sql cx.dialect := by
  simp only [Insert.emitBody, Emit.bind_ok, Emit.pure_ok, Emit.result_lift] at ok
  obtain ⟨table, named, projection, projects, lists, made, ctes, common, source, rows, rfl⟩ := ok
  exact ⟨projection, ⟨ctes, table, lists, source⟩, ⟨named, projects, made, common, rows⟩, rfl⟩

theorem Insert.written_of_emit {cx : Context} {s : Insert} {sql : Sql} (ok : (s.emit cx).result = .ok sql) :
    ∃ projection written, s.Written cx projection written ∧
      sql = written.sql cx.dialect ++ Sql.code ";" := by
  obtain ⟨body, emitted, rest⟩ := Emit.bind_ok.mp ok
  obtain rfl := Emit.pure_ok.mp rest
  obtain ⟨projection, written, made, rfl⟩ := written_of_emitBody emitted
  exact ⟨projection, written, made, rfl⟩

/-- The INSERT in a statement, with the context in which it is written. -/
def Statement.insertHalf? (cx : Context) : Statement → Option (Context × Insert)
  | .insert s => some (cx, s)
  | .upsert s => s.insertSource.toOption.map fun source =>
    (s.disambiguated cx source.name, s.toInsert source)
  | _ => none

/-- An UPSERT is its INSERT behind a guard, and behind its UPDATE where it updates. -/
theorem Upsert.emit_ok {cx : Context} {s : Upsert} {sql : Sql} (ok : (s.emit cx).result = .ok sql) :
    ∃ table source update body predicate,
      cx.targetName s.target "UPSERT" = .ok table ∧ s.insertSource = .ok source ∧
      (s.ignoreUpdate = false → ∃ changed,
        ((s.toUpdate (s.disambiguated cx source.name)).emit (s.disambiguated cx source.name)).result =
          .ok changed ∧ update = changed ++ Sql.code "\n") ∧
      ((s.toInsert source).emitBody (s.disambiguated cx source.name)).result = .ok body ∧
      (emitOption (s.disambiguated cx source.name) s.predicate).result = .ok predicate ∧
      sql = update ++ body ++ guardSql table s.target.asName predicate ++ Sql.code ";" := by
  obtain ⟨table, named, ok⟩ := Emit.bind_ok.mp ok
  by_cases unset : s.assignments.isEmpty = true
  · rw [if_pos unset] at ok
    obtain ⟨_, failed, -⟩ := Emit.bind_ok.mp ok
    simp at failed
  simp only [unset, Bool.false_eq_true, if_false, Emit.bind_ok, Emit.result_lift] at ok
  obtain ⟨source, inserts, ok⟩ := ok
  by_cases ignored : s.ignoreUpdate = true
  · simp only [ignored, if_true, Emit.bind_ok, Emit.pure_ok] at ok
    obtain ⟨update, -, body, inserted, predicate, written, rfl⟩ := ok
    exact ⟨table, source, update, body, predicate, named, inserts, by simp [ignored], inserted, written, rfl⟩
  · simp only [ignored, Bool.false_eq_true, if_false, Emit.bind_ok, Emit.pure_ok] at ok
    obtain ⟨changed, updated, update, same, body, inserted, predicate, written, rfl⟩ := ok
    exact ⟨table, source, update, body, predicate, named, inserts, fun _ => ⟨changed, updated, same.symm⟩,
      inserted, written, rfl⟩

theorem Statement.insertHalf_written {cx cx' : Context} {statement : Statement} {s : Insert} {sql : Sql}
    (half : statement.insertHalf? cx = some (cx', s)) (ok : (statement.emit cx).result = .ok sql) :
    ∃ before after projection written, sql = before ++ written.sql cx'.dialect ++ after ∧
      s.Written cx' projection written := by
  cases statement with
  | insert statement =>
    obtain ⟨rfl, rfl⟩ : cx = cx' ∧ statement = s := by simpa [insertHalf?] using half
    obtain ⟨projection, written, made, rfl⟩ := Insert.written_of_emit ok
    exact ⟨Sql.empty, Sql.code ";", projection, written, rfl, made⟩
  | upsert statement =>
    cases inserts : statement.insertSource with
    | error e => simp [insertHalf?, inserts, Except.toOption] at half
    | ok source =>
      obtain ⟨rfl, rfl⟩ : statement.disambiguated cx source.name = cx' ∧
          statement.toInsert source = s := by
        simpa [insertHalf?, inserts, Except.toOption] using half
      obtain ⟨table, source', update, body, predicate, -, same, -, emitted, -, rfl⟩ := Upsert.emit_ok ok
      obtain rfl : source = source' := Except.ok.inj (inserts.symm.trans same)
      obtain ⟨projection, written, made, rfl⟩ := Insert.written_of_emitBody emitted
      exact ⟨update, _, projection, written, Sql.append_assoc _ _ _, made⟩
  | _ => simp [insertHalf?] at half

/-- The lists of an INSERT, or of the INSERT in an UPSERT, never have more values than columns. They have
one value for each column, each standing at the place of its column, exactly where no property of
several columns is filled from a sequence. -/
theorem Statement.insert_lists_aligned_iff {cx cx' : Context} {statement : Statement} {s : Insert}
    {sql : Sql} (half : statement.insertHalf? cx = some (cx', s))
    (ok : (statement.emit cx).result = .ok sql) :
    ∃ before after projection written parts,
      sql = before ++ written.sql cx'.dialect ++ after ∧ s.Written cx' projection written ∧
      Insert.Parts cx' s.target s.source.name projection parts ∧ written.lists = .joined parts ∧
      written.lists.values.length ≤ written.lists.columns.length ∧
      (written.lists.Aligned ↔ Insert.DrawsFit cx' s.target projection) ∧
      (written.lists.Aligned → written.lists.columns.zip written.lists.values =
        parts.flatMap fun part => part.columns.zip part.values) := by
  obtain ⟨before, after, projection, written, text, made⟩ := insertHalf_written half ok
  obtain ⟨parts, are, lists⟩ := Insert.parts_of_ok made.lists
  have each := InsertLists.aligned_joined_iff are.length_le
  refine ⟨before, after, projection, written, parts, text, made, are, lists, ?_, ?_, ?_⟩
  · rw [lists]
    exact InsertLists.length_joined_le are.length_le
  · rw [lists]
    exact each.trans are.aligned_iff
  · rw [lists]
    intro aligned
    exact InsertLists.zip_joined (each.mp aligned)

namespace Documents

/-- A property that refers to entities of any type. -/
def reference (name : String) : Property :=
  ⟨name, [⟨"_" ++ name ++ "RRef", "binary", .identity, 16, 0, 0, false⟩,
    ⟨"_" ++ name ++ "TRef", "binary", .typeCode, 4, 0, 0, false⟩]⟩

def code : Property :=
  ⟨"Code", [⟨"_Code", "numeric", .default, 0, 9, 0, false⟩,
    ⟨"_Stamp", "timestamp", .default, 0, 0, 0, true⟩]⟩

def entity : Entity := ⟨"Document", "_Document7", 7, [reference "Owner", reference "Parent",
  reference "Basis", code]⟩

def bindings : Bindings where
  bindings := Dict.ofList [(⟨1⟩, .entity entity), (⟨2⟩, .temporaryTable)]
  mappings := Dict.ofList [(⟨3⟩, [⟨"t._BasisTYPE", some "Basis_TYPE", some .tag, none⟩,
    ⟨"t._BasisTRef", some "Basis_TRef", some .typeCode, none⟩,
    ⟨"t._BasisRRef", some "Basis_RRef", some .entity, none⟩])]

def context : Context :=
  .ofStatements .sqlServer bindings Catalog.empty Registry.standard 0 (fun _ => default) []

def vector (id : NodeId) : Expr :=
  .call ⟨id, "VECTOR", [.literal ⟨.string, "Numbers"⟩], false, none⟩

def owner : Expr := .literal ⟨.entity, "\x7b7:11223344-5566-7788-99aa-bbccddeeff00\x7d"⟩

def nobody : Expr := .literal ⟨.null, ""⟩

def columns (owner : Expr) : List Projected :=
  [⟨⟨4⟩, owner, some "OWNER"⟩, ⟨⟨5⟩, nobody, some "Parent"⟩,
    ⟨⟨6⟩, .column ⟨⟨3⟩, "t.Basis"⟩, none⟩, ⟨⟨7⟩, vector ⟨8⟩, some "Code"⟩]

def target : TableRef := ⟨⟨1⟩, "Document", none⟩

def rows (owner : Expr) : Query :=
  .select ⟨⟨10⟩, false, none, columns owner, none, some (.table ⟨⟨2⟩, "draft", some "t"⟩), none, [],
    none, none⟩

def insert (owner : Expr) : Insert := ⟨⟨9⟩, [], target, .query (rows owner)⟩

def emit (owner : Expr) : Except Error Sql :=
  ((Statement.insert (insert owner)).emit context).result

def text : String :=
  "INSERT INTO _Document7 (_OwnerTRef, _OwnerRRef, _ParentTRef, _ParentRRef, _BasisTRef, " ++
  "_BasisRRef, _Code)\nSELECT\n0x00000007,\n0x99AABBCCDDEEFF007788556611223344,\nNULL,\nNULL,\n" ++
  "source.Basis_TRef,\nsource.Basis_RRef,\nNEXT VALUE FOR Numbers\nFROM (SELECT\n" ++
  "0x99AABBCCDDEEFF007788556611223344 AS OWNER,\nNULL AS Parent,\nt._BasisTYPE AS Basis_TYPE, " ++
  "t._BasisTRef AS Basis_TRef, t._BasisRRef AS Basis_RRef\nFROM #draft AS t) AS source;"

end Documents

/-- An entity literal and NULL go into two columns each, a reference of three columns into two by their
tags, a drawn number into the one column that the database does not maintain. A number drawn for two
columns leaves one of them without a value. -/
theorem Statement.insert_lists_of_documents :
    (∃ sql before after projection written,
      Documents.emit Documents.owner = .ok sql ∧ sql.text = Documents.text ∧
      sql = before ++ written.sql .sqlServer ++ after ∧
      (Documents.insert Documents.owner).Written Documents.context projection written ∧
      written.lists.Aligned) ∧
    ∃ sql before after projection written,
      Documents.emit (Documents.vector ⟨11⟩) = .ok sql ∧ sql = before ++ written.sql .sqlServer ++ after ∧
      (Documents.insert (Documents.vector ⟨11⟩)).Written Documents.context projection written ∧
      ¬written.lists.Aligned := by
  have bound : Documents.context.tableBinding? Documents.target = some (.entity Documents.entity) := by
    decide +kernel
  constructor
  · obtain ⟨sql, ok, text⟩ : ∃ sql, Documents.emit Documents.owner = .ok sql ∧ sql.text = Documents.text :=
      Except.exists_ok (by decide +kernel)
    obtain ⟨before, after, projection, written, _, split, made, _, _, _, aligned, _⟩ :=
      insert_lists_aligned_iff rfl ok
    obtain rfl : Documents.columns Documents.owner = projection := Except.ok.inj made.projects
    refine ⟨sql, before, after, _, written, ok, text, split, made, aligned.mpr ?_⟩
    apply (Insert.drawsFit_iff bound).mpr
    decide +kernel
  · obtain ⟨sql, ok, -⟩ : ∃ sql, Documents.emit (Documents.vector ⟨11⟩) = .ok sql ∧ True :=
      Except.exists_ok (by decide +kernel)
    obtain ⟨before, after, projection, written, _, split, made, _, _, _, aligned, _⟩ :=
      insert_lists_aligned_iff rfl ok
    obtain rfl : Documents.columns (Documents.vector ⟨11⟩) = projection := Except.ok.inj made.projects
    refine ⟨sql, before, after, _, written, ok, split, made, fun fits => ?_⟩
    have fit := (Insert.drawsFit_iff bound).mp (aligned.mp fits)
    revert fit
    decide +kernel

end SqlEmit
