import SqlEmit.Proofs.Isolation
import SqlEmit.Proofs.Query

/-! The rows of a SELECT and how they are read. The select list and the row mapper are made by
different functions; both take the names of columns from what is recorded for them. -/
namespace SqlEmit

theorem Query.firstSelect_written {cx : Context} {q : Query} {written : QuerySql}
    (emitted : (q.emit cx).result = .ok written) : q.firstSelect.Written cx written.firstSelect := by
  induction q using Query.firstSelect.induct generalizing written with
  | case1 s =>
    simp only [Query.emit, Emit.bind_ok, Emit.pure_ok] at emitted
    obtain ⟨select, emitted, rfl⟩ := emitted
    exact Select.written_of_emit emitted
  | case2 all left right order ih =>
    simp only [Query.emit, Emit.bind_ok, Emit.pure_ok] at emitted
    obtain ⟨first, emitted, _, _, _, _, rfl⟩ := emitted
    have leftmost := ih emitted
    exact leftmost

def SelectSql.headSql (s : SelectSql) : Sql :=
  Sql.code (if s.distinct then "SELECT DISTINCT" else "SELECT") ++ topSql s.top ++ Sql.code "\n"

theorem SelectSql.sql_eq (dialect : Dialect) (s : SelectSql) :
    ∃ rest, s.sql dialect = s.headSql ++ Item.listSql s.columns ++ rest := by
  unfold SelectSql.sql SelectSql.headSql
  simp only [Sql.append_assoc]
  exact ⟨_, rfl⟩

theorem QuerySql.sql_eq (dialect : Dialect) (q : QuerySql) :
    ∃ rest, q.sql dialect =
      q.firstSelect.headSql ++ Item.listSql q.firstSelect.columns ++ rest := by
  induction q with
  | select s => exact s.sql_eq dialect
  | union all left right order ih _ =>
    obtain ⟨rest, starts⟩ := ih
    simp only [QuerySql.sql, QuerySql.firstSelect, starts, Sql.append_assoc]
    exact ⟨_, rfl⟩

/-- A reference with recorded columns, or a column with an alias. -/
def Context.Names (cx : Context) (column : Projected) : Prop :=
  (∀ mapping ∈ cx.referenceMapping? column.expr, mapping ≠ []) ∧
    (cx.referenceMapping? column.expr = none → ∃ name ∈ column.asName, name ≠ "")

instance (cx : Context) : DecidablePred cx.Names :=
  fun _ => inferInstanceAs (Decidable (_ ∧ _))

theorem Context.Names.readable {cx : Context} {column : Projected} (names : cx.Names column) :
    cx.Readable column := by
  refine ⟨names.1, fun computed => ?_⟩
  obtain ⟨name, given, -⟩ := names.2 computed
  exact Option.isSome_of_mem given

/-- The first select list of a SELECT that returns rows has the columns by which its mapper reads
them. -/
theorem select_list_matches_mapper {script : Script} {settings : Settings} {metadata : Metadata}
    {registry : Registry} {fresh : NodeId → Uuid} {emitted : Emitted}
    (ok : script.emit settings metadata registry fresh = .ok emitted)
    {s : SelectStatement} {written : EmittedStatement}
    (stands : (.select s, written) ∈ script.statements.zip emitted.statements)
    (returned : s.query.firstSelect.intoTable = none)
    (names : ∀ column ∈ s.query.firstSelect.columns,
      (script.context settings metadata registry fresh).Names column) :
    ∃ ctes query rest,
      let sql := ctes ++ (query.firstSelect.headSql ++ Item.listSql query.firstSelect.columns ++ rest)
      (s.query.emit (script.context settings metadata registry fresh)).result = .ok query ∧
      written.text = (if settings.terminated then sql.text else unterminated sql.text) ∧
      query.firstSelect.columns.flatten.map Item.name = written.mapper.columns.map (·.name) := by
  have settled := script.settled_context settings metadata registry fresh
  have alone := (List.forall₂_iff_zip.mp (Script.emit_ok.mp ok)).2 stands
  obtain ⟨sql, emits, rfl⟩ := Statement.alone_ok.mp alone
  simp only [Statement.emit, SelectStatement.emit, Emit.bind_ok, Emit.pure_ok] at emits
  obtain ⟨ctes, -, query, emits, rfl⟩ := emits
  obtain ⟨rest, starts⟩ := query.sql_eq (script.context settings metadata registry fresh).dialect
  refine ⟨ctes, query, rest ++ Sql.code ";", emits, ?_, ?_⟩
  · rw [starts]
    simp only [Statement.emitted, Sql.append_assoc]
  · have list := (Query.firstSelect_written emits).names
    have mapper := PropertyMapper.names_ofProjection settled fun column mem => (names column mem).readable
    rw [SelectSql.names] at list
    rw [list, ← mapper]
    simp [Statement.emitted, RowMapper.ofStatement, returned, RowMapper.columns]

namespace Members

def bindings : Bindings where
  bindings := Dict.ofList [(⟨1⟩, .commonTable)]
  mappings := Dict.ofList [
    (⟨2⟩, [⟨"m._Code", some "_Code", none, some "numeric(9,0)"⟩]),
    (⟨3⟩, [⟨"m._Name", none, none, some "char(9)"⟩]),
    (⟨4⟩, [⟨"m._OwnerTRef", some "Owner_TRef", none, none⟩,
      ⟨"m._OwnerRRef", some "Owner_RRef", none, none⟩])]

def columns : List Projected :=
  [⟨⟨5⟩, .column ⟨⟨2⟩, "m.Code"⟩, none⟩, ⟨⟨6⟩, .column ⟨⟨3⟩, "m.Name"⟩, none⟩,
    ⟨⟨7⟩, .column ⟨⟨4⟩, "m.Owner"⟩, none⟩, ⟨⟨8⟩, .literal ⟨.number, "1"⟩, some "Rank"⟩]

def select : Query :=
  .select ⟨⟨9⟩, true, none, columns, none, some (.table ⟨⟨1⟩, "members", some "m"⟩), none, [], none,
    none⟩

def statement : SelectStatement := ⟨⟨10⟩, [], .union true select select none⟩

def script : Script := ⟨[.select statement], bindings⟩

def settings : Settings := ⟨.postgres, 0, false⟩

def catalog : Catalog := ⟨0, [], Dict.empty⟩

def context : Context := script.context settings catalog Registry.standard fun _ => default

def emit : Except Error Emitted := script.emit settings catalog Registry.standard fun _ => default

end Members

/-- A union with an alias that repeats its column, a cast, a reference of two columns and a computed
column. -/
theorem select_list_of_union :
    ∃ emitted written query, Members.emit = .ok emitted ∧ emitted.statements = [written] ∧
      (Members.statement.query.emit Members.context).result = .ok query ∧
      (Item.listSql query.firstSelect.columns).text = "m._Code,\nCAST(m._Name AS mvarchar),\n" ++
        "m._OwnerTRef AS Owner_TRef, m._OwnerRRef AS Owner_RRef,\n1 AS Rank" ∧
      query.firstSelect.columns.flatten.map Item.name = written.mapper.columns.map (·.name) ∧
      written.mapper.columns.map (·.name) = ["_Code", "_Name", "Owner_TRef", "Owner_RRef", "Rank"] := by
  obtain ⟨emitted, ok, one⟩ : ∃ emitted, Members.emit = .ok emitted ∧
      emitted.statements.map (fun written => written.mapper.columns.map (·.name)) =
        [["_Code", "_Name", "Owner_TRef", "Owner_RRef", "Rank"]] :=
    Except.exists_ok (by decide +kernel)
  obtain ⟨query, emits, list⟩ : ∃ query, (Members.statement.query.emit Members.context).result = .ok query ∧
      (Item.listSql query.firstSelect.columns).text = "m._Code,\nCAST(m._Name AS mvarchar),\n" ++
        "m._OwnerTRef AS Owner_TRef, m._OwnerRRef AS Owner_RRef,\n1 AS Rank" :=
    Except.exists_ok (by decide +kernel)
  obtain ⟨written, single, names⟩ := List.map_eq_singleton_iff.mp one
  have stands : (.select Members.statement, written) ∈
      Members.script.statements.zip emitted.statements := by
    simp [single, Members.script]
  have named : ∀ column ∈ Members.statement.query.firstSelect.columns, Members.context.Names column := by
    decide +kernel
  obtain ⟨_, same, _, emits', _, equal⟩ := select_list_matches_mapper ok stands rfl named
  obtain rfl : query = same := Except.ok.inj (emits.symm.trans emits')
  exact ⟨emitted, written, query, ok, single, emits, list, equal, names⟩

end SqlEmit
