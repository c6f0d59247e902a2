import SqlEmit.Proofs.Json.Reading
import SqlEmit.Proofs.Transport.Syntax

/-! A script is read back from the text that is written for it. -/
namespace SqlEmit

open Json Decoder

theorem Expr.reads_toJson (e : Expr) (limit : Nat) : Expr.decode.Reads limit e.toJson e :=
  e.restores.reads limit

theorem SortClause.reads_toJson (order : SortClause) (limit : Nat) :
    SortClause.decode.Reads limit order.toJson order :=
  order.restores.reads limit

theorem Query.reads_toJson (q : Query) (limit : Nat) : Query.decode.Reads limit q.toJson q :=
  q.restores.reads limit

theorem Projected.reads_toJson (column : Projected) (limit : Nat) :
    Projected.decode.Reads limit column.toJson column :=
  column.restores.reads limit

theorem Source.reads_toJson (source : Source) (limit : Nat) :
    Source.decode.Reads limit source.toJson source :=
  source.restores.reads limit

theorem Derived.reads_toJson (d : Derived) (limit : Nat) : Derived.decode.Reads limit d.toJson d :=
  d.restores.reads limit

theorem Cte.reads_toJson (cte : Cte) (limit : Nat) : Cte.decode.Reads limit cte.toJson cte :=
  .record rfl (by decide) <| .field (cte.id.reads_toJson _).required <|
    .field (reads_string cte.name _).required <| .field (cte.query.reads_toJson _).required .done

theorem Declare.reads_toJson (s : Declare) (limit : Nat) : Declare.decode.Reads limit s.toJson s :=
  .record rfl (by decide) <| .field (s.id.reads_toJson _).required <|
    .field (reads_string s.name _).required <|
    .field (.optional s.typeName fun text _ => reads_string text _) .done

theorem SelectStatement.reads_toJson (s : SelectStatement) (limit : Nat) :
    SelectStatement.decode.Reads limit s.toJson s :=
  .record rfl (by decide) <| .field (s.id.reads_toJson _).required <|
    .field ((Reads.list s.ctes fun part _ => part.reads_toJson _).orElse []) <|
    .field (s.query.reads_toJson _).required .done

theorem InsertSource.reads_toJson (source : InsertSource) (limit : Nat) :
    InsertSource.decode.Reads limit source.toJson source := by
  cases source with
  | table t => exact .variant (by decide) (t.reads_toJson _) fun _ _ => rfl
  | derived d => exact .variant (by decide) (d.reads_toJson _) fun _ _ => rfl
  | query q => exact .variant (by decide) (q.reads_toJson _) fun _ _ => rfl

theorem Insert.reads_toJson (s : Insert) (limit : Nat) : Insert.decode.Reads limit s.toJson s :=
  .record rfl (by decide) <| .field (s.id.reads_toJson _).required <|
    .field ((Reads.list s.ctes fun part _ => part.reads_toJson _).orElse []) <|
    .field (s.target.reads_toJson _).required <| .field (s.source.reads_toJson _).required .done

theorem Assignment.reads_toJson (a : Assignment) (limit : Nat) :
    Assignment.decode.Reads limit a.toJson a :=
  .record rfl (by decide) <| .field (a.column.reads_toJson _).required <|
    .field (a.value.reads_toJson _).required .done

theorem Output.reads_toJson (o : Output) (limit : Nat) : Output.decode.Reads limit o.toJson o :=
  .record rfl (by decide) <|
    .field (Reads.list o.columns fun part _ => part.reads_toJson _).required <|
    .field (.optional o.intoTable fun part _ => part.reads_toJson _) .done

theorem Update.reads_toJson (s : Update) (limit : Nat) : Update.decode.Reads limit s.toJson s :=
  .record rfl (by decide) <| .field (s.id.reads_toJson _).required <|
    .field ((Reads.list s.ctes fun part _ => part.reads_toJson _).orElse []) <|
    .field (s.target.reads_toJson _).required <|
    .field (Reads.list s.assignments fun part _ => part.reads_toJson _).required <|
    .field (.optional s.output fun part _ => part.reads_toJson _) <|
    .field (.optional s.source fun part _ => part.reads_toJson _) <|
    .field (.optional s.predicate fun part _ => part.reads_toJson _) <|
    .field ((Reads.list s.hints fun text _ => reads_string text _).orElse []) .done

theorem Delete.reads_toJson (s : Delete) (limit : Nat) : Delete.decode.Reads limit s.toJson s :=
  .record rfl (by decide) <| .field (s.id.reads_toJson _).required <|
    .field ((Reads.list s.ctes fun part _ => part.reads_toJson _).orElse []) <|
    .field (s.target.reads_toJson _).required <|
    .field (.optional s.output fun part _ => part.reads_toJson _) <|
    .field (.optional s.source fun part _ => part.reads_toJson _) <|
    .field (.optional s.predicate fun part _ => part.reads_toJson _) .done

theorem Upsert.reads_toJson (s : Upsert) (limit : Nat) : Upsert.decode.Reads limit s.toJson s :=
  .record rfl (by decide) <| .field (s.id.reads_toJson _).required <|
    .field ((Reads.list s.ctes fun part _ => part.reads_toJson _).orElse []) <|
    .field (s.target.reads_toJson _).required <|
    .field (.optional s.source fun part _ => part.reads_toJson _) <|
    .field ((Reads.list s.assignments fun part _ => part.reads_toJson _).orElse []) <|
    .field (.optional s.predicate fun part _ => part.reads_toJson _) <|
    .field ((reads_bool s.ignoreUpdate _).orElse false) .done

theorem Consume.reads_toJson (s : Consume) (limit : Nat) : Consume.decode.Reads limit s.toJson s :=
  .record rfl (by decide) <| .field (s.id.reads_toJson _).required <|
    .field (.optional s.top fun part _ => part.reads_toJson _) <|
    .field (Reads.list s.columns fun part _ => part.reads_toJson _).required <|
    .field (.optional s.intoTable fun part _ => part.reads_toJson _) <|
    .field (.nullable s.source fun part _ => part.reads_toJson _) <|
    .field (.optional s.predicate fun part _ => part.reads_toJson _) <|
    .field (.optional s.order fun part _ => part.reads_toJson _) <|
    .field ((reads_bool s.strictOrder _).orElse false) <|
    .field (.optional s.target fun text _ => reads_string text _) .done

theorem TableVariable.reads_toJson (s : TableVariable) (limit : Nat) :
    TableVariable.decode.Reads limit s.toJson s :=
  .record rfl (by decide) <| .field (s.id.reads_toJson _).required <|
    .field (reads_string s.name _).required <| .field (s.query.reads_toJson _).required .done

theorem TypeName.reads_toJson (t : TypeName) (limit : Nat) :
    TypeName.decode.Reads limit t.toJson t :=
  .record rfl (by decide) <| .field (t.id.reads_toJson _).required <|
    .field (reads_string t.identifier _).required <|
    .field ((reads_uint32 t.qualifier1 _).orElse 0) <|
    .field ((reads_uint32 t.qualifier2 _).orElse 0) .done

theorem TypeColumn.reads_toJson (c : TypeColumn) (limit : Nat) :
    TypeColumn.decode.Reads limit c.toJson c :=
  .record rfl (by decide) <| .field (reads_string c.name _).required <|
    .field (c.dataType.reads_toJson _).required .done

theorem CreateType.reads_toJson (s : CreateType) (limit : Nat) :
    CreateType.decode.Reads limit s.toJson s :=
  .record rfl (by decide) <| .field (s.id.reads_toJson _).required <|
    .field (reads_string s.name _).required <|
    .field (Reads.list s.columns fun part _ => part.reads_toJson _).required .done

theorem CreateSequence.reads_toJson (s : CreateSequence) (limit : Nat) :
    CreateSequence.decode.Reads limit s.toJson s :=
  .record rfl (by decide) <| .field (s.id.reads_toJson _).required <|
    .field (reads_string s.name _).required <|
    .field (.optional s.dataType fun part _ => part.reads_toJson _) <|
    .field ((reads_int64 s.startWith _).orElse 1) <|
    .field ((reads_int64 s.increment _).orElse 1) <|
    .field ((reads_int64 s.cacheSize _).orElse 0) .done

theorem DropSequence.reads_toJson (s : DropSequence) (limit : Nat) :
    DropSequence.decode.Reads limit s.toJson s :=
  .record rfl (by decide) <| .field (s.id.reads_toJson _).required <|
    .field (reads_string s.name _).required .done

theorem ApplySequence.reads_toJson (s : ApplySequence) (limit : Nat) :
    ApplySequence.decode.Reads limit s.toJson s :=
  .record rfl (by decide) <| .field (s.id.reads_toJson _).required <|
    .field (reads_string s.name _).required <| .field (s.table.reads_toJson _).required <|
    .field (s.column.reads_toJson _).required <|
    .field ((reads_bool s.recalculate _).orElse false) .done

theorem RevokeSequence.reads_toJson (s : RevokeSequence) (limit : Nat) :
    RevokeSequence.decode.Reads limit s.toJson s :=
  .record rfl (by decide) <| .field (s.id.reads_toJson _).required <|
    .field (reads_string s.name _).required <| .field (s.table.reads_toJson _).required .done

theorem Statement.reads_toJson (statement : Statement) (limit : Nat) :
    Statement.decode.Reads limit statement.toJson statement := by
  cases statement with
  | declare s => exact .variant (by decide) (s.reads_toJson _) fun _ _ => rfl
  | select s => exact .variant (by decide) (s.reads_toJson _) fun _ _ => rfl
  | insert s => exact .variant (by decide) (s.reads_toJson _) fun _ _ => rfl
  | update s => exact .variant (by decide) (s.reads_toJson _) fun _ _ => rfl
  | delete s => exact .variant (by decide) (s.reads_toJson _) fun _ _ => rfl
  | upsert s => exact .variant (by decide) (s.reads_toJson _) fun _ _ => rfl
  | consume s => exact .variant (by decide) (s.reads_toJson _) fun _ _ => rfl
  | tableVariable s => exact .variant (by decide) (s.reads_toJson _) fun _ _ => rfl
  | temporaryTable s => exact .variant (by decide) (s.reads_toJson _) fun _ _ => rfl
  | createType s => exact .variant (by decide) (s.reads_toJson _) fun _ _ => rfl
  | createSequence s => exact .variant (by decide) (s.reads_toJson _) fun _ _ => rfl
  | dropSequence s => exact .variant (by decide) (s.reads_toJson _) fun _ _ => rfl
  | applySequence s => exact .variant (by decide) (s.reads_toJson _) fun _ _ => rfl
  | revokeSequence s => exact .variant (by decide) (s.reads_toJson _) fun _ _ => rfl

namespace Script

theorem reads_toJson (script : Script) (limit : Nat) :
    decode.Reads limit script.toJson script :=
  .record rfl (by decide) <|
    .field (Reads.list script.statements fun s _ => s.reads_toJson _).required <|
    .field ((script.bindings.reads_toJson _).orElse Bindings.empty) .done

/-- The JSON text of a script. -/
def text (script : Script) : String :=
  script.toJson.render

/-- The text of the script that a text describes, with everything written that may be left out. -/
def rewrite (source : String) : Option String :=
  (parse source).map text

theorem json_text (script : Script) : Json.parse script.text = some script.toJson :=
  parse_render (script.reads_toJson 0).shown

theorem parse_text (script : Script) : parse script.text =
    if script.toJson.nesting ≤ maxNesting then some script else none := by
  rw [parse, json_text, Option.bind_some, ofJson]
  exact (script.reads_toJson (maxNesting + 1)).decoded maxNesting (Nat.lt_succ_self _)

/-- A script is the script that its text describes, exactly if the JSON value has no more levels
than a document may have. So a text is rewritten once: what was written for the script of any text
is rewritten as it stands, or has too many levels. -/
theorem transport_round_trip :
    (∀ script : Script, parse script.text =
      if script.toJson.nesting ≤ maxNesting then some script else none) ∧
    ∀ source written, rewrite source = some written →
      ∃ json, Json.parse written = some json ∧
        rewrite written = if json.nesting ≤ maxNesting then some written else none := by
  refine ⟨parse_text, fun source written rewritten => ?_⟩
  obtain ⟨script, _, rfl⟩ := Option.map_eq_some_iff.mp rewritten
  refine ⟨script.toJson, script.json_text, ?_⟩
  rw [rewrite, parse_text]
  split <;> rfl

end Script

namespace Memo

/-- Quotes, a backslash, control characters and characters of two and four bytes. -/
def note : Expr := .literal ⟨.string, "\"it's\" \\ \n\t\x01 é😀"⟩

def call : Expr :=
  .call ⟨⟨3⟩, "ROW_NUMBER", [], false,
    some ⟨[note], some ⟨[⟨.column ⟨⟨4⟩, "m.Code"⟩, true⟩], none, some (.group .star)⟩,
      some ⟨.rows, some .unboundedPreceding, some (.following 5)⟩⟩⟩

def script : Script where
  statements := [
    .select ⟨⟨0⟩, [], .select (.plain ⟨1⟩ [⟨⟨2⟩, call, some "Line"⟩]
      (some (.table ⟨⟨5⟩, "Catalog.Memo", some "m"⟩)))⟩,
    .createSequence ⟨⟨6⟩, "memo_code", none, -9223372036854775808, 1, 0⟩]
  bindings := ((Bindings.empty.bind ⟨4294967295⟩ (.enumValue ⟨0xdeadbeef, 0x12, 0, 0xffff, 7⟩)).bind
    ⟨5⟩ (.entityType (-1))).map ⟨4⟩ [⟨"m._Code", none, some .string, some "nvarchar(9)"⟩]

def grouped : Nat → Expr
  | 0 => .star
  | levels + 1 => .group (grouped levels)

def nested (levels : Nat) : Script :=
  ⟨[.select ⟨⟨0⟩, [], .select (.plain ⟨1⟩ [⟨⟨2⟩, grouped levels, none⟩] none)⟩], Bindings.empty⟩

/-- A declaration as an array without its last field, and no bindings. -/
def short : String :=
  "\x7b\"statements\": [\x7b\"Declare\": [7, \"@a\"]\x7d]\x7d"

def long : String :=
  "\x7b\"statements\":[\x7b\"Declare\":\x7b\"id\":7,\"name\":\"@a\",\"type_name\":null\x7d\x7d]," ++
    "\"bindings\":\x7b\"bindings\":\x7b\x7d,\"mappings\":\x7b\x7d\x7d\x7d"

end Memo

theorem Script.transport_round_trip_of_memo :
    parse Memo.script.text = some Memo.script ∧
    parse (Memo.nested 119).text = some (Memo.nested 119) ∧ parse (Memo.nested 120).text = none ∧
    rewrite Memo.short = some Memo.long ∧ rewrite Memo.long = some Memo.long := by
  obtain ⟨described, rewrites⟩ := transport_round_trip
  have rewritten : rewrite Memo.short = some Memo.long := by decide +kernel
  refine ⟨?_, ?_, ?_, rewritten, ?_⟩
  · exact (described _).trans (if_pos (by decide +kernel))
  · exact (described _).trans (if_pos (by decide +kernel))
  · exact (described _).trans (if_neg (by decide +kernel))
  · obtain ⟨json, parsed, again⟩ := rewrites _ _ rewritten
    have levels : (Json.parse Memo.long).map Json.nesting = some 4 := by decide +kernel
    rw [parsed, Option.map_some, Option.some.injEq] at levels
    rw [again, if_pos (levels.trans_le (by decide))]

end SqlEmit
