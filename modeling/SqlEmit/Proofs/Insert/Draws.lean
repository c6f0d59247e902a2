import SqlEmit.Proofs.Composition
import SqlEmit.Proofs.Insert.Rows

/-! How often an INSERT draws from a sequence. The outer select draws once for each property that a
drawn column fills, and every written query that still shows the column draws once more: of all
sources only a single SELECT is written without it. -/
namespace SqlEmit

namespace Text

theorem asciiUpper_asciiLower {c : Char} (ascii : c.toNat < 128) :
    asciiUpper (asciiLower c) = asciiUpper c := by
  have each : ∀ n < 128, asciiUpper (asciiLower (Char.ofNat n)) = asciiUpper (Char.ofNat n) := by
    decide +kernel
  simpa using each c.toNat ascii

theorem asciiLower_lt_iff (c : Char) : (asciiLower c).toNat < 128 ↔ c.toNat < 128 := by
  have each : ∀ n < 128, (asciiLower (Char.ofNat n)).toNat < 128 := by decide +kernel
  constructor
  · intro ascii
    unfold asciiLower at ascii
    split at ascii
    next range =>
      have last : c.toNat ≤ 'Z'.toNat := range.2
      exact Nat.lt_of_le_of_lt last (by decide)
    next => exact ascii
  · intro ascii
    simpa using each c.toNat ascii

theorem upperChar_of_asciiLower {c d : Char} (ascii : d.toNat < 128) (same : asciiLower c = asciiLower d) :
    upperChar c = upperChar d := by
  have ascii' : c.toNat < 128 := by
    rw [← asciiLower_lt_iff, same, asciiLower_lt_iff]
    exact ascii
  simp only [upperChar, ascii, ascii', if_true]
  rw [← asciiUpper_asciiLower ascii', same, asciiUpper_asciiLower ascii]

/-- Names that differ in the case of ASCII letters only have one upper case, if one of them is ASCII. -/
theorem upper_of_sameName {a b : String} (ascii : ∀ c ∈ b.toList, c.toNat < 128)
    (same : sameName a b = true) : upper a = upper b := by
  rw [sameName_iff] at same
  unfold upper
  congr 1
  generalize b.toList = ds at ascii same
  generalize a.toList = cs at same
  induction ds generalizing cs with
  | nil =>
    obtain rfl : cs = [] := by simpa using same
    rfl
  | cons d ds ih =>
    cases cs with
    | nil => simp at same
    | cons c cs =>
      simp only [List.map_cons, List.cons.injEq] at same
      rw [List.flatMap_cons, List.flatMap_cons, upperChar_of_asciiLower (ascii d (by simp)) same.1,
        ih (fun e mem => ascii e (List.mem_cons_of_mem d mem)) cs same.2]

end Text

theorem upper_vector : Text.upper "VECTOR" = "VECTOR" := by
  decide +kernel

theorem Call.upperName_of_isVector {call : Call} (vector : call.isVector = true) :
    call.upperName = "VECTOR" := by
  have ascii : "VECTOR".toList.all (·.toNat < 128) = true := by decide
  have each : ∀ c ∈ "VECTOR".toList, c.toNat < 128 :=
    fun c mem => of_decide_eq_true (List.all_eq_true.mp ascii c mem)
  rw [upperName, Text.upper_of_sameName each vector, upper_vector]

/-- Whether a piece is the next value of a sequence. -/
def Piece.draws (sequence : String) : Piece → Bool
  | .nextValue _ drawn => drawn = sequence
  | _ => false

namespace Sql

/-- How often a text draws from a sequence. -/
def draws (sequence : String) (sql : Sql) : Nat :=
  sql.pieces.countP (Piece.draws sequence)

variable {sequence : String}

@[simp] theorem draws_append (a b : Sql) : (a ++ b).draws sequence = a.draws sequence + b.draws sequence := by
  simp [draws]

@[simp] theorem draws_empty : empty.draws sequence = 0 := rfl

@[simp] theorem draws_code (text : String) : (code text).draws sequence = 0 := rfl

@[simp] theorem draws_nextValue (dialect : Dialect) (drawn : String) :
    (ofPiece (.nextValue dialect drawn)).draws sequence = if drawn = sequence then 1 else 0 := by
  simp [draws, ofPiece, Piece.draws, List.countP_singleton]

@[simp] theorem draws_parens (inner : Sql) : inner.parens.draws sequence = inner.draws sequence := by
  simp [parens]

@[simp] theorem draws_cast (inner : Sql) (typeName : String) :
    (inner.cast typeName).draws sequence = inner.draws sequence := by
  simp [cast]

def drawsAll (sequence : String) (parts : List Sql) : Nat :=
  (parts.flatMap (·.pieces)).countP (Piece.draws sequence)

@[simp] theorem drawsAll_nil : drawsAll sequence [] = 0 := rfl

@[simp] theorem drawsAll_cons (part : Sql) (parts : List Sql) :
    drawsAll sequence (part :: parts) = part.draws sequence + drawsAll sequence parts := by
  simp [drawsAll, draws]

@[simp] theorem drawsAll_append (before after : List Sql) :
    drawsAll sequence (before ++ after) = drawsAll sequence before + drawsAll sequence after := by
  simp [drawsAll]

theorem drawsAll_eq_zero {parts : List Sql} (silent : ∀ part ∈ parts, part.draws sequence = 0) :
    drawsAll sequence parts = 0 := by
  induction parts with
  | nil => rfl
  | cons part parts ih =>
    obtain ⟨first, others⟩ := List.forall_mem_cons.mp silent
    rw [drawsAll_cons, first, ih others]

@[simp] theorem draws_join (separator : String) (parts : List Sql) :
    (join separator parts).draws sequence = drawsAll sequence parts := by
  induction parts with
  | nil => rfl
  | cons part parts ih =>
    cases parts with
    | nil => simp [join]
    | cons next rest => simp [join, ih]

end Sql

namespace Sql

theorem Plain.draws {sql : Sql} (plain : sql.Plain) (sequence : String) : sql.draws sequence = 0 := by
  refine List.countP_eq_zero.mpr fun piece mem draws => ?_
  have is := List.all_eq_true.mp plain piece mem
  cases piece <;> simp [Piece.isPlain, Piece.draws] at is draws

theorem composes_undrawn : Composes (fun _ => True) fun sql _ => ∀ sequence, sql.draws sequence = 0 where
  keyword := fun _ => trivial
  glued := fun _ _ => trivial
  code := fun _ _ => rfl
  empty := fun _ => rfl
  append := fun first second sequence => by rw [draws_append, first, second]
  parens := fun inner sequence => by rw [draws_parens, inner]
  cast := fun inner _ _ sequence => by rw [draws_cast, inner]
  perm := fun _ first => first

end Sql

/-- Where VECTOR is the name of a registered function, no expression draws from a sequence. -/
theorem Context.carries_undrawn {cx : Context} (registered : cx.registry.contains "VECTOR" = true) :
    cx.Carries (fun _ => True) (fun _ => True) fun sql _ => ∀ sequence, sql.draws sequence = 0 := by
  refine carries_of_plain Sql.composes_undrawn (fun _ plain => plain.draws) (fun table sql _ ok => ?_) ?_
    fun _ _ _ _ _ => rfl
  · obtain ⟨name, -, rest⟩ := Except.bind_ok.mp ok
    obtain rfl := Except.ok.inj rest
    exact fun _ => rfl
  · intro call sequence _ free vector
    rw [Registry.contains, Registry.find?, upper_vector, ← vector, Call.upperName, ← Registry.find?,
      free] at registered
    cases registered

def Projected.drawsFrom (sequence : String) (column : Projected) : Bool :=
  column.sequence?.toOption = some (some sequence)

theorem Projected.drawsFrom_of_plain {column : Projected} (plain : column.isVector = false)
    (sequence : String) : column.drawsFrom sequence = false := by
  unfold drawsFrom sequence?
  unfold isVector at plain
  cases expr : column.expr with
  | call call =>
    simp only [expr] at plain
    simp [plain, Except.toOption]
  | _ => simp [Except.toOption]

/-- How often a select list of these columns draws from a sequence: not at all where the name of the
function is registered for another one. -/
def Context.listDraws (cx : Context) (sequence : String) (columns : List Projected) : Nat :=
  if cx.registry.contains "VECTOR" then 0 else columns.countP (·.drawsFrom sequence)

section

variable {cx : Context} {sequence : String}

theorem Context.listDraws_append (before after : List Projected) :
    cx.listDraws sequence (before ++ after) =
      cx.listDraws sequence before + cx.listDraws sequence after := by
  unfold listDraws
  split
  · rfl
  · rw [List.countP_append]

theorem Context.listDraws_cons (column : Projected) (columns : List Projected) :
    cx.listDraws sequence (column :: columns) =
      cx.listDraws sequence [column] + cx.listDraws sequence columns :=
  listDraws_append [column] columns

theorem Context.listDraws_plain {columns : List Projected}
    (plain : ∀ column ∈ columns, column.isVector = false) : cx.listDraws sequence columns = 0 := by
  unfold listDraws
  split
  · rfl
  · rw [List.countP_eq_zero]
    intro column mem
    simp [Projected.drawsFrom_of_plain (plain column mem)]

theorem Context.builtinForm_of_isVector {call : Call} (vector : call.isVector = true) :
    cx.builtinForm call = cx.sequenceForm call := by
  have upper := Call.upperName_of_isVector vector
  unfold builtinForm
  cases cx.dialect <;> simp [upper]

theorem Context.writeCall_of_isVector {call : Call} {args : List (Emit Sql)} {window : Option (Emit Sql)}
    {sql : Sql} (vector : call.isVector = true) (free : ¬cx.registry.contains "VECTOR" = true)
    (ok : (cx.writeCall call args window).result = .ok sql) :
    ∃ drawn, call.sequenceName = .ok drawn ∧ sql = .ofPiece (.nextValue cx.dialect drawn) := by
  have unregistered : cx.registry.find? call.name = none := by
    have upper := Call.upperName_of_isVector vector
    rw [Registry.contains, Bool.not_eq_true, Option.isSome_eq_false_iff, Option.isNone_iff_eq_none] at free
    rw [Call.upperName] at upper
    rw [Registry.find?, upper, ← upper_vector, ← Registry.find?, free]
  obtain ⟨form, formOk, rest⟩ := Emit.bind_ok.mp ok
  unfold callForm at formOk
  simp only [unregistered] at formOk
  by_cases known : isBuiltin call.name = true
  · rw [if_pos known, Emit.result_lift, builtinForm_of_isVector vector] at formOk
    obtain ⟨drawn, is, same⟩ := Except.bind_ok.mp formOk
    obtain rfl := Except.ok.inj same
    obtain rfl := Emit.pure_ok.mp rest
    exact ⟨drawn, is, rfl⟩
  · rw [if_neg known] at formOk
    simp at formOk

@[simp] theorem Item.draws_aliasText (asName : Option String) :
    (Item.aliasText asName).draws sequence = 0 := by
  cases asName <;> rfl

theorem Projected.draws_items {column : Projected} {line : List Item} (vector : column.isVector = true)
    (ok : (column.items cx).result = .ok line) (sequence : String) :
    (Item.lineSql line).draws sequence = cx.listDraws sequence [column] := by
  obtain ⟨id, expr, asName⟩ := column
  cases expr with
  | call call =>
    obtain ⟨callId, name, args, distinct, window⟩ := call
    simp only [Projected.items, Context.referenceMapping?, Expr.emit, Emit.bind_ok, Emit.pure_ok] at ok
    obtain ⟨sql, written, rfl⟩ := ok
    have line : (Item.lineSql [.computed sql asName]).draws sequence = sql.draws sequence := by
      simp [Item.lineSql, Item.sql]
    rw [line, Context.listDraws]
    by_cases registered : cx.registry.contains "VECTOR" = true
    · rw [if_pos registered]
      have undrawn := Expr.leaves (Context.carries_undrawn registered)
        (.call ⟨callId, name, args, distinct, window⟩) fun _ _ => trivial
      rw [Expr.emit] at undrawn
      exact undrawn sql written sequence
    · obtain ⟨drawn, is, rfl⟩ := Context.writeCall_of_isVector vector registered written
      have asks : Projected.sequence? ⟨id, .call ⟨callId, name, args, distinct, window⟩, asName⟩ =
          .ok (some drawn) := by
        simp only [Projected.isVector] at vector
        simp only [Projected.sequence?, vector, if_true, is]
        rfl
      rw [if_neg registered, Sql.draws_nextValue, List.countP_singleton]
      simp [Projected.drawsFrom, asks, Except.toOption]
  | _ => simp [Projected.isVector] at vector

/-- A select list without the columns that draw is the written list without their lines. -/
theorem draws_lines {columns : List Projected} {lines : List (List Item)}
    (each : List.Forall₂ (fun column line => (column.items cx).result = .ok line) columns lines) :
    ∃ kept, List.Forall₂ (fun column line => (column.items cx).result = .ok line)
        (columns.filter fun column => !column.isVector) kept ∧
      ∀ sequence, (Item.listSql lines).draws sequence =
        (Item.listSql kept).draws sequence + cx.listDraws sequence columns := by
  simp only [Item.listSql, Sql.draws_join]
  induction each with
  | nil => exact ⟨[], .nil, fun sequence => by simp [Context.listDraws]⟩
  | @cons column line columns lines head _ ih =>
    obtain ⟨kept, written, draws⟩ := ih
    by_cases vector : column.isVector = true
    · refine ⟨kept, by simpa [vector] using written, fun sequence => ?_⟩
      have first := column.draws_items vector head sequence
      rw [Context.listDraws_cons, List.map_cons, Sql.drawsAll_cons, draws sequence, first]
      omega
    · refine ⟨line :: kept, by simpa [vector] using ⟨head, written⟩, fun sequence => ?_⟩
      have plain : cx.listDraws sequence [column] = 0 :=
        Context.listDraws_plain (by simpa using vector)
      rw [Context.listDraws_cons, plain]
      simp only [List.map_cons, Sql.drawsAll_cons, draws sequence]
      omega

end

/-- Two selects that differ in their lists differ in the draws of the lists. -/
theorem SelectSql.draws_withColumns (dialect : Dialect) (s : SelectSql) (columns : List (List Item))
    (sequence : String) :
    (s.sql dialect).draws sequence + (Item.listSql columns).draws sequence =
      (SelectSql.sql dialect { s with columns }).draws sequence + (Item.listSql s.columns).draws sequence := by
  simp only [SelectSql.sql, Sql.draws_append]
  omega

/-- A query without the columns of its first select that draw from a sequence. -/
def Query.withoutFirstDraws : Query → Query
  | .select s => .select { s with columns := s.columns.filter fun column => !column.isVector }
  | .union all left right order => .union all left.withoutFirstDraws right order

theorem Query.draws_of_emit {cx : Context} {q : Query} {rows : QuerySql}
    (ok : (q.emit cx).result = .ok rows) :
    ∃ rest, (q.withoutFirstDraws.emit cx).result = .ok rest ∧ ∀ sequence,
      (rows.sql cx.dialect).draws sequence =
        (rest.sql cx.dialect).draws sequence + cx.listDraws sequence q.firstSelect.columns := by
  induction q using Query.firstSelect.induct generalizing rows with
  | case1 s =>
    simp only [Query.emit, Emit.bind_ok, Emit.pure_ok] at ok
    obtain ⟨written, emitted, rfl⟩ := ok
    have w := Select.written_of_emit emitted
    have each := w.columns
    rw [emitProjection_eq_map, Emit.all_ok, List.forall₂_map_left_iff] at each
    obtain ⟨kept, list, draws⟩ := draws_lines each
    refine ⟨.select { written with columns := kept }, ?_, fun sequence => ?_⟩
    · simp only [Query.withoutFirstDraws, Query.emit, Emit.bind_ok, Emit.pure_ok]
      refine ⟨{ written with columns := kept }, Select.emit_of_written ?_, rfl⟩
      refine ⟨w.distinct, w.top, ?_, w.intoTable, w.source, w.predicate, w.grouping, w.having, w.order,
        w.limit, w.lock⟩
      rw [emitProjection_eq_map, Emit.all_ok, List.forall₂_map_left_iff]
      exact list
    · have change := SelectSql.draws_withColumns cx.dialect written kept sequence
      have lines := draws sequence
      simp only [QuerySql.sql, Query.firstSelect]
      omega
  | case2 all left right order ih =>
    simp only [Query.emit, Emit.bind_ok, Emit.pure_ok] at ok
    obtain ⟨first, leftOk, second, rightOk, sort, orderOk, rfl⟩ := ok
    obtain ⟨rest, restOk, draws⟩ := ih leftOk
    -- only the leftmost select loses columns: what the right operand draws counts among the rest
    refine ⟨.union all rest second sort, ?_, fun sequence => ?_⟩
    · simp only [Query.withoutFirstDraws, Query.emit, Emit.bind_ok, Emit.pure_ok]
      exact ⟨rest, restOk, second, rightOk, sort, orderOk, rfl⟩
    · have left := draws sequence
      simp only [QuerySql.sql, Query.firstSelect, Sql.draws_append]
      omega

def QuerySql.totalDraws (dialect : Dialect) (sequence : String) (rows : List QuerySql) : Nat :=
  Sql.drawsAll sequence (rows.map (QuerySql.sql dialect))

theorem emitWith_rows {cx : Context} {ctes : List Cte} {ending : String} {sql : Sql}
    (ok : (emitWith cx ctes ending).result = .ok sql) :
    ∃ rows, List.Forall₂ (fun query rows => (query.emit cx).result = .ok rows) (ctes.map (·.query)) rows ∧
      ∀ sequence, sql.draws sequence = QuerySql.totalDraws cx.dialect sequence rows := by
  unfold emitWith at ok
  by_cases none : ctes.isEmpty = true
  · rw [if_pos none, Emit.pure_ok] at ok
    subst ok
    obtain rfl : ctes = [] := by simpa using none
    exact ⟨[], .nil, fun _ => rfl⟩
  rw [if_neg none] at ok
  obtain ⟨written, each, rest⟩ := Emit.bind_ok.mp ok
  obtain rfl := Emit.pure_ok.mp rest
  rw [Emit.all_ok, List.forall₂_map_left_iff] at each
  simp only [withSql, Sql.draws_append, Sql.draws_code, Sql.draws_join, List.forall₂_map_left_iff]
  clear none ok rest
  induction each with
  | nil => exact ⟨[], .nil, fun _ => rfl⟩
  | cons head _ ih =>
    obtain ⟨query, emitted, same⟩ := Emit.bind_ok.mp head
    obtain rfl := Emit.pure_ok.mp same
    obtain ⟨rows, others, draws⟩ := ih
    refine ⟨query :: rows, .cons emitted others, fun sequence => ?_⟩
    have rest := draws sequence
    simp only [QuerySql.totalDraws, List.map_cons, Sql.drawsAll_cons, Sql.draws_append, Sql.draws_code,
      Sql.draws_parens] at rest ⊢
    omega

/-- The draws of written queries are those of their first lists and those of the rest. -/
theorem totalDraws_of_emit {cx : Context} {queries : List Query} {rows : List QuerySql}
    (each : List.Forall₂ (fun query rows => (query.emit cx).result = .ok rows) queries rows) :
    ∃ rests, List.Forall₂ (fun query rest => (query.withoutFirstDraws.emit cx).result = .ok rest) queries rests ∧
      ∀ sequence, QuerySql.totalDraws cx.dialect sequence rows =
        QuerySql.totalDraws cx.dialect sequence rests +
          cx.listDraws sequence (queries.flatMap (·.firstSelect.columns)) := by
  induction each with
  | nil => exact ⟨[], .nil, fun sequence => by simp [QuerySql.totalDraws, Context.listDraws]⟩
  | cons head _ ih =>
    obtain ⟨rest, restOk, first⟩ := Query.draws_of_emit head
    obtain ⟨rests, others, draws⟩ := ih
    refine ⟨rest :: rests, .cons restOk others, fun sequence => ?_⟩
    have now := first sequence
    have later := draws sequence
    rw [List.flatMap_cons, Context.listDraws_append]
    simp only [QuerySql.totalDraws, List.map_cons, Sql.drawsAll_cons] at later ⊢
    omega

theorem InsertSource.emit_rows {cx : Context} {source : InsertSource} {sql : Sql}
    (ok : (source.emit cx).result = .ok sql) :
    ∃ rows, List.Forall₂ (fun query rows => (query.emit cx).result = .ok rows)
        source.writtenQuery?.toList rows ∧
      ∀ sequence, sql.draws sequence = QuerySql.totalDraws cx.dialect sequence rows := by
  rcases emit_cases ok with ⟨none, _, _, _, rfl⟩ | ⟨query, rows, writes, emitted, rfl⟩
  · rw [none]
    exact ⟨[], .nil, fun _ => rfl⟩
  · rw [writes]
    refine ⟨[rows], .cons emitted .nil, fun sequence => ?_⟩
    unfold derivedSql
    split <;> simp [QuerySql.totalDraws]

namespace Insert

/-- The projected columns that the outer select takes, one for each property that it fills. -/
def taken (cx : Context) (target : TableRef) (projection : List Projected) : List Projected :=
  match cx.tableBinding? target with
  | some (.entity entity) => entity.properties.filterMap (supplier? projection)
  | _ => projection

def writtenQueries (s : Insert) : List Query :=
  s.ctes.map (·.query) ++ s.source.writtenQuery?.toList

/-- The columns that the written queries show again: those of the common tables, of a derived table and
of a union, but not those that draw in a single SELECT. -/
def shown (s : Insert) : List Projected :=
  s.ctes.flatMap (·.query.firstSelect.columns) ++
    match s.source with
    | .derived d => d.query.firstSelect.columns
    | .query (.union all left right order) => (Query.union all left right order).firstSelect.columns
    | _ => []

section

variable {cx : Context} {source : String} {projection : List Projected} {column : Projected}
  {targets : List PhysicalColumn} {values : List InsertValue}

def valueDraws (dialect : Dialect) (sequence : String) (values : List InsertValue) : Nat :=
  Sql.drawsAll sequence (values.map (InsertValue.sql dialect))

theorem valueDraws_append (dialect : Dialect) (sequence : String) (before after : List InsertValue) :
    valueDraws dialect sequence (before ++ after) =
      valueDraws dialect sequence before + valueDraws dialect sequence after := by
  simp [valueDraws]

theorem Chosen.draws {place : Nat} {value : InsertValue} (chosen : Chosen cx source column targets place value)
    (sequence : String) : (value.sql cx.dialect).draws sequence = if column.drawsFrom sequence then 1 else 0 := by
  have plain (is : ∀ call, column.expr ≠ .call call) : column.drawsFrom sequence = false := by
    apply Projected.drawsFrom_of_plain
    unfold Projected.isVector
    split
    next call expr => exact absurd expr (is call)
    next => rfl
  cases chosen with
  | drawn asks => simp [InsertValue.sql, Projected.drawsFrom, asks, Except.toOption]
  | literal is single written =>
    simp [InsertValue.sql, (Context.plain_literalSql written).draws, plain (by simp [is])]
  | null is several => simp [InsertValue.sql, plain (by simp [is])]
  | entity is several read stands part =>
    obtain ⟨_, _, -, -, rfl⟩ := entityPart_ok.mp part
    simp [InsertValue.sql, plain (by simp [is])]
  | placed asks computed same stands => simp [InsertValue.sql, Projected.drawsFrom, asks, Except.toOption]
  | tagged asks computed differs stands found =>
    simp [InsertValue.sql, Projected.drawsFrom, asks, Except.toOption]

/-- A column that draws gives a single value, so a property draws at most once. -/
theorem Supplies.draws (supplies : Supplies cx source column targets values) (sequence : String) :
    valueDraws cx.dialect sequence values = if column.drawsFrom sequence then 1 else 0 := by
  have length := supplies.length
  by_cases vector : column.isVector = true
  · rw [if_pos vector, List.length_eq_one_iff] at length
    obtain ⟨value, rfl⟩ := length
    have draws := (supplies.chosen 0 value rfl).draws sequence
    simpa [valueDraws] using draws
  · have plain := Projected.drawsFrom_of_plain (by simpa using vector) sequence
    rw [plain, if_neg Bool.false_ne_true]
    apply Sql.drawsAll_eq_zero
    intro part counted
    obtain ⟨value, mem, rfl⟩ := List.mem_map.mp counted
    obtain ⟨place, stands⟩ := List.mem_iff_getElem?.mp mem
    have draws := (supplies.chosen place value stands).draws sequence
    simpa [plain] using draws

theorem Fills.draws {property : Property} {part : InsertLists}
    (fills : Fills cx source projection property part) (sequence : String) :
    valueDraws cx.dialect sequence part.values =
      (supplier? projection property).toList.countP (·.drawsFrom sequence) := by
  cases fills with
  | skipped none =>
    rw [none]
    rfl
  | filled supplier supplies =>
    rw [supplier, supplies.draws sequence, Option.toList_some, List.countP_singleton]

theorem Passes.draws {part : InsertLists} (passes : Passes cx source column part) (sequence : String) :
    valueDraws cx.dialect sequence part.values = [column].countP (·.drawsFrom sequence) := by
  rw [List.countP_singleton]
  cases passes with
  | drawn asks => simp [valueDraws, InsertValue.sql, Projected.drawsFrom, asks, Except.toOption]
  | copied plain =>
    have asks : column.drawsFrom sequence = false := by
      simp [Projected.drawsFrom, plain, Except.toOption]
    rw [asks, if_neg Bool.false_ne_true]
    apply Sql.drawsAll_eq_zero
    intro part counted
    simp only [List.map_map, List.mem_map, Function.comp_apply] at counted
    obtain ⟨output, -, rfl⟩ := counted
    rfl

theorem draws_of_fills {properties : List Property} {parts : List InsertLists}
    (each : List.Forall₂ (Fills cx source projection) properties parts) (sequence : String) :
    valueDraws cx.dialect sequence (parts.flatMap (·.values)) =
      (properties.filterMap (supplier? projection)).countP (·.drawsFrom sequence) := by
  induction each with
  | nil => rfl
  | @cons property _ _ _ head _ ih =>
    rw [List.flatMap_cons, valueDraws_append, ih, head.draws sequence, List.filterMap_cons]
    cases supplier? projection property with
    | none => simp
    | some column => rw [Option.toList_some, List.countP_singleton, List.countP_cons, Nat.add_comm]

theorem draws_of_passes {columns : List Projected} {parts : List InsertLists}
    (each : List.Forall₂ (Passes cx source) columns parts) (sequence : String) :
    valueDraws cx.dialect sequence (parts.flatMap (·.values)) =
      columns.countP (·.drawsFrom sequence) := by
  induction each with
  | nil => rfl
  | cons head _ ih =>
    rw [List.flatMap_cons, valueDraws_append, ih, head.draws sequence, List.countP_singleton,
      List.countP_cons, Nat.add_comm]

theorem Parts.draws {target : TableRef} {parts : List InsertLists}
    (made : Parts cx target source projection parts) (sequence : String) :
    valueDraws cx.dialect sequence (parts.flatMap (·.values)) =
      (taken cx target projection).countP (·.drawsFrom sequence) := by
  cases made with
  | entity bound each =>
    simp only [taken, bound]
    exact draws_of_fills each sequence
  | table unbound each =>
    unfold taken
    split
    next entity bound => exact absurd bound (unbound entity)
    next => exact draws_of_passes each sequence

/-- A single SELECT is written without the columns that draw. -/
theorem listDraws_writtenQueries (cx : Context) (s : Insert) (sequence : String) :
    cx.listDraws sequence (s.writtenQueries.flatMap (·.firstSelect.columns)) =
      cx.listDraws sequence s.shown := by
  unfold writtenQueries shown
  rw [List.flatMap_append, Context.listDraws_append, Context.listDraws_append, List.flatMap_map]
  congr 1
  cases s.source with
  | table t => rfl
  | derived d => simp [InsertSource.writtenQuery?]
  | query q =>
    cases q with
    | union all left right order => simp [InsertSource.writtenQuery?, InsertSource.withoutVectors]
    | select select =>
      have none : cx.listDraws sequence [] = 0 := Context.listDraws_plain (by simp)
      simp only [InsertSource.writtenQuery?, Option.toList_some, List.flatMap_cons, List.flatMap_nil,
        List.append_nil, none]
      apply Context.listDraws_plain
      intro column mem
      simpa using (List.mem_filter.mp mem).2

end

/-- An INSERT draws from a sequence once for each column of that sequence that the outer select takes and
once for each that the written queries show again, besides what stands inside them elsewhere. Where
nothing else draws, it draws at most once exactly if one column does, in one of the two places. -/
theorem vector_draws {cx : Context} {s : Insert} {sql : Sql} (ok : (s.emit cx).result = .ok sql) :
    ∃ projection rests, s.source.projection cx = .ok projection ∧
      List.Forall₂ (fun query rest => (query.withoutFirstDraws.emit cx).result = .ok rest) s.writtenQueries
        rests ∧
      ∀ sequence,
        sql.draws sequence = QuerySql.totalDraws cx.dialect sequence rests +
          (taken cx s.target projection).countP (·.drawsFrom sequence) + cx.listDraws sequence s.shown ∧
        (QuerySql.totalDraws cx.dialect sequence rests = 0 →
          (sql.draws sequence ≤ 1 ↔
            (taken cx s.target projection).countP (·.drawsFrom sequence) ≤ 1 ∧
              cx.listDraws sequence s.shown ≤ 1 ∧
              ((taken cx s.target projection).countP (·.drawsFrom sequence) = 0 ∨
                cx.listDraws sequence s.shown = 0))) := by
  obtain ⟨projection, written, made, rfl⟩ := written_of_emit ok
  obtain ⟨common, commonOk, commonDraws⟩ := emitWith_rows made.ctes
  obtain ⟨rows, rowsOk, rowsDraws⟩ := InsertSource.emit_rows made.source
  obtain ⟨parts, are, lists⟩ := parts_of_ok made.lists
  obtain ⟨rests, restsOk, draws⟩ := totalDraws_of_emit (List.rel_append commonOk rowsOk)
  refine ⟨projection, rests, made.projects, restsOk, fun sequence => ?_⟩
  have total : (written.sql cx.dialect ++ Sql.code ";").draws sequence =
      QuerySql.totalDraws cx.dialect sequence (common ++ rows) +
        valueDraws cx.dialect sequence written.lists.values := by
    simp only [InsertSql.sql, Sql.draws_append, Sql.draws_code, Sql.draws_join, commonDraws, rowsDraws,
      QuerySql.totalDraws, valueDraws, List.map_append, Sql.drawsAll_append]
    omega
  have values : valueDraws cx.dialect sequence written.lists.values =
      (taken cx s.target projection).countP (·.drawsFrom sequence) := by
    rw [lists]
    exact are.draws sequence
  have shows : cx.listDraws sequence ((s.ctes.map (·.query) ++ s.source.writtenQuery?.toList).flatMap
      (·.firstSelect.columns)) = cx.listDraws sequence s.shown :=
    listDraws_writtenQueries cx s sequence
  rw [draws sequence, shows, values] at total
  omega

end Insert

namespace Documents

/-- Fills a document from a derived table that numbers it. -/
def renumbered : Insert := ⟨⟨9⟩, [], target, .derived ⟨⟨13⟩, rows nobody, "d"⟩⟩

def renumberedText : String :=
  "INSERT INTO _Document7 (_OwnerTRef, _OwnerRRef, _ParentTRef, _ParentRRef, _BasisTRef, " ++
  "_BasisRRef, _Code)\nSELECT\nNULL,\nNULL,\nNULL,\nNULL,\nd.Basis_TRef,\nd.Basis_RRef,\n" ++
  "NEXT VALUE FOR Numbers\nFROM (SELECT\nNULL AS OWNER,\nNULL AS Parent,\n" ++
  "t._BasisTYPE AS Basis_TYPE, t._BasisTRef AS Basis_TRef, t._BasisRRef AS Basis_RRef,\n" ++
  "NEXT VALUE FOR Numbers AS Code\nFROM #draft AS t) AS d;"

end Documents

/-- A single SELECT leaves the number to the outer select; a derived table draws it again. -/
theorem Insert.vector_draws_of_documents :
    (∃ sql, ((Documents.insert Documents.nobody).emit Documents.context).result = .ok sql ∧
      sql.draws "Numbers" = 1) ∧
    ∃ sql, (Documents.renumbered.emit Documents.context).result = .ok sql ∧ sql.text = Documents.renumberedText ∧
      sql.draws "Numbers" = 2 := by
  have only {q : Query} {rests : List QuerySql}
      (silent : ∃ rest, (q.withoutFirstDraws.emit Documents.context).result = .ok rest ∧
        (rest.sql .sqlServer).draws "Numbers" = 0)
      (each : List.Forall₂ (fun query rest => (query.withoutFirstDraws.emit Documents.context).result = .ok rest)
        [q] rests) : QuerySql.totalDraws .sqlServer "Numbers" rests = 0 := by
    obtain ⟨rest, emitted, zero⟩ := silent
    obtain ⟨other, _, again, last, rfl⟩ := List.forall₂_cons_left_iff.mp each
    obtain rfl := List.forall₂_nil_left_iff.mp last
    obtain rfl : rest = other := Except.ok.inj (emitted.symm.trans again)
    simpa [QuerySql.totalDraws] using zero
  constructor
  · obtain ⟨sql, ok, -⟩ : ∃ sql, ((Documents.insert Documents.nobody).emit Documents.context).result =
        .ok sql ∧ True :=
      Except.exists_ok (by decide +kernel)
    obtain ⟨projection, rests, projects, each, draws⟩ := vector_draws ok
    obtain rfl : Documents.columns Documents.nobody = projection := Except.ok.inj projects
    have silent := only (Except.exists_ok (by decide +kernel)) each
    refine ⟨sql, ok, (draws "Numbers").1.trans ?_⟩
    rw [show Documents.context.dialect = .sqlServer from rfl, silent]
    decide +kernel
  · obtain ⟨sql, ok, text⟩ : ∃ sql, (Documents.renumbered.emit Documents.context).result = .ok sql ∧
        sql.text = Documents.renumberedText :=
      Except.exists_ok (by decide +kernel)
    obtain ⟨projection, rests, projects, each, draws⟩ := vector_draws ok
    obtain rfl : Documents.columns Documents.nobody = projection := Except.ok.inj projects
    have silent := only (Except.exists_ok (by decide +kernel)) each
    refine ⟨sql, ok, text, (draws "Numbers").1.trans ?_⟩
    rw [show Documents.context.dialect = .sqlServer from rfl, silent]
    decide +kernel

end SqlEmit
