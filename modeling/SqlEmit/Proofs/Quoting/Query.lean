import SqlEmit.Proofs.Composition
import SqlEmit.Proofs.Quoting.RawText

/-! A query is written as text that nests, whatever its string literals hold: they are quoted wherever they are
values, and are written raw only where a call takes them for a name. -/
namespace SqlEmit

namespace Sql

def Nests (sql : Sql) : Prop :=
  Text.Nests sql.text

theorem nests_empty : Nests empty := fun _ => rfl

theorem nests_ofPiece {piece : Piece} (nests : Text.Nests piece.text) : Nests (ofPiece piece) := by
  simpa [Nests, text, ofPiece] using nests

theorem nests_code {text : String} (nests : Text.Nests text) : Nests (code text) :=
  nests_ofPiece nests

theorem Nests.append {a b : Sql} (left : Nests a) (right : Nests b) : Nests (a ++ b) := by
  rw [Nests, text_append]
  exact Text.Nests.append left right

theorem Nests.parens {inner : Sql} (nests : Nests inner) : Nests inner.parens := by
  simp only [Nests, Sql.parens, text_append, text_code]
  exact .enclosed (fun _ => rfl) nests fun _ => rfl

/-- A cast to a type whose name ends in no parenthesis. -/
theorem Nests.cast {inner : Sql} {typeName : String} (nests : Nests inner) (type : Text.Clean typeName) :
    Nests (inner.cast typeName) := by
  simp only [Nests, Sql.cast, text_append, text_code]
  refine .enclosed (fun _ => rfl) nests fun depth => ?_
  have closes : Text.Leads ⟨false, depth + 1⟩ ⟨false, depth⟩ ")" := rfl
  exact ((Text.Clean.append (by decide) type).leads _).append closes

/-- A string literal nests, whatever its value is. -/
theorem nests_string (dialect : Dialect) (value : String) : Nests (string dialect value) := by
  have quoted : Nests (ofPiece (.quoted value)) := nests_ofPiece (Text.nests_quote value)
  cases dialect with
  | sqlServer => exact quoted
  | postgres => exact quoted.cast (by decide)

theorem composes_nests : Composes Text.Nests fun sql _ => sql.Nests where
  keyword := fun clean => clean.nests
  glued := fun first second => first.append second
  code := nests_code
  empty := nests_empty
  append := fun first second => first.append second
  parens := fun inner => inner.parens
  cast := fun inner _ clean => inner.cast clean
  perm := fun _ first => first

end Sql

namespace Context

variable {cx : Context}

theorem nests_literalSql {literal : Literal} (harmless : ∀ raw ∈ (Expr.literal literal).texts, raw.Harmless cx.dialect)
    {sql : Sql} (written : cx.literalSql literal = .ok sql) : sql.Nests := by
  obtain ⟨kind, text⟩ := literal
  by_cases string : kind = .string
  · subst string
    obtain rfl := Except.ok.inj written
    exact Sql.nests_string cx.dialect text
  have clean : Text.Clean text := by
    refine harmless (.verbatim text) ?_
    cases kind with
    | string => exact absurd rfl string
    | _ => simp [Expr.texts]
  cases kind with
  | string => exact absurd rfl string
  | boolean =>
    obtain rfl := Except.ok.inj written
    exact Sql.nests_code (cx.dialect.nests_boolLiteral _)
  | number =>
    obtain rfl := Except.ok.inj written
    exact Sql.nests_code clean.nests
  | null =>
    obtain rfl := Except.ok.inj written
    exact Sql.nests_code (by decide)
  | binary =>
    obtain rfl := Except.ok.inj written
    exact Sql.nests_code (cx.dialect.nests_binaryLiteral clean)
  | dateTime =>
    simp only [literalSql] at written
    split at written
    case h_1 shifted formatted =>
      obtain rfl := Except.ok.inj written
      obtain ⟨moment, _, rfl⟩ := Option.map_eq_some_iff.mp formatted
      exact Sql.nests_code (cx.dialect.nests_datetimeLiteral (Moment.clean_literal _))
    case h_2 =>
      obtain rfl := Except.ok.inj written
      exact Sql.nests_code clean.nests
  | uuid =>
    obtain ⟨uuid, _, rest⟩ := Except.bind_ok.mp written
    obtain rfl := Except.ok.inj rest
    exact Sql.nests_code (cx.dialect.nests_uuidLiteral _)
  | entity =>
    obtain ⟨entity, _, rest⟩ := Except.bind_ok.mp written
    obtain rfl := Except.ok.inj rest
    exact Sql.nests_code (cx.dialect.nests_uuidLiteral _)

theorem nests_tableName (harmless : cx.Harmless) {table : TableRef} (clean : Text.Clean table.identifier)
    {name : String} (named : cx.tableName table = .ok name) : Text.Nests name := by
  unfold tableName at named
  split at named
  case h_1 entity bound =>
    obtain rfl := Except.ok.inj named
    exact (harmless.table bound _ (by simp [Binding.texts])).nests
  case h_2 =>
    obtain rfl := Except.ok.inj named
    exact (cx.dialect.clean_tableVariableName clean).nests
  case h_3 =>
    obtain rfl := Except.ok.inj named
    exact (cx.dialect.clean_temporaryTableName clean).nests
  case h_4 type bound =>
    obtain rfl := Except.ok.inj named
    exact cx.dialect.nests_userTypeSource (harmless.table bound _ (by simp [Binding.texts])) clean
  case h_5 | h_6 =>
    obtain rfl := Except.ok.inj named
    exact clean.nests
  case h_7 => cases named

end Context

theorem TableRef.clean_of_texts {dialect : Dialect} {table : TableRef}
    (harmless : ∀ raw ∈ table.texts, raw.Harmless dialect) :
    Text.Clean table.identifier ∧ ∀ name ∈ table.asName, Text.Clean name := by
  constructor
  · exact harmless (.verbatim table.identifier) (by simp [TableRef.texts])
  · intro name given
    exact harmless (.verbatim name) (by simp [TableRef.texts, Option.mem_def.mp given])

theorem Context.nests_tableSource {cx : Context} (harmless : cx.Harmless) {table : TableRef}
    (texts : ∀ raw ∈ table.texts, raw.Harmless cx.dialect) {sql : Sql}
    (written : cx.tableSource table = .ok sql) : sql.Nests := by
  obtain ⟨identifier, asName⟩ := TableRef.clean_of_texts texts
  obtain ⟨name, named, rest⟩ := Except.bind_ok.mp written
  obtain rfl := Except.ok.inj rest
  have renamed : ∀ given ∈ cx.tableAlias table name, Text.Clean given := by
    intro given is
    unfold tableAlias at is
    split at is
    case h_1 own found =>
      obtain rfl : own = given := by simpa using is
      exact asName own (mem_of_givenName found)
    case h_2 =>
      repeat' split at is
      all_goals simp_all
  refine Sql.nests_ofPiece ((Text.Nests.append (nests_tableName harmless identifier named) ?_).append ?_)
  · cases is : cx.tableAlias table name with
    | none => decide
    | some given => exact (Text.Clean.append (by decide) (renamed given is)).nests
  · cases is : cx.hint? table.id with
    | none => decide
    | some hint => exact Text.Nests.append (by decide) (harmless.hint is)

theorem Call.clean_typeParameter {identifier : String} (clean : Text.Clean identifier) :
    Text.Clean (typeParameter identifier) := by
  refine Text.Clean.append (by decide) (Text.clean_ofList.mpr fun c mem => ?_)
  obtain ⟨d, present, rfl⟩ := List.mem_map.mp mem
  split
  · decide
  · exact clean d present

theorem MemberRef.clean_parameterName {ref : MemberRef} (object : Text.Clean ref.object)
    (member : Text.Clean ref.member) : Text.Clean ref.parameterName := by
  refine (Text.Clean.append ?_ (by decide)).append member
  split
  · exact object
  · exact Text.Clean.append (by decide) object

section

variable {dialect : Dialect} {call : Call} (texts : ∀ raw ∈ call.nameTexts, raw.Harmless dialect)
include texts

/-- Where a call takes its first argument for the name of a sequence, the name nests as it is written. -/
theorem Call.nests_nextValue (vector : call.upperName = "VECTOR") {name : String}
    (is : call.sequenceName = .ok name) : Text.Nests (dialect.nextValue name) := by
  unfold nameTexts at texts
  unfold sequenceName at is
  split at is
  case h_1 literal _ same =>
    obtain ⟨kind, text⟩ := literal
    obtain rfl := Except.ok.inj is
    cases kind with
    | string => exact texts (.sequence text) (by simp [same, vector])
    | _ => exact dialect.nests_nextValue (texts (.verbatim text) (by simp [same]))
  case h_2 ref _ same | h_3 ref _ same =>
    obtain rfl := Except.ok.inj is
    exact dialect.nests_nextValue (texts (.verbatim ref.identifier) (by simp [same]))
  case h_4 => cases is

theorem Call.nests_typeParameter (typeOf : call.upperName = "TYPEOF") {entity : String}
    (asks : entityOf call.args = some entity) : Text.Nests (typeParameter entity) := by
  unfold nameTexts at texts
  unfold entityOf at asks
  split at asks
  case h_1 ref _ same =>
    obtain rfl := Option.some.inj asks
    exact (clean_typeParameter (texts (.verbatim ref.identifier) (by simp [same]))).nests
  case h_2 literal _ same =>
    obtain ⟨kind, text⟩ := literal
    obtain rfl := Option.some.inj asks
    cases kind with
    | string => exact texts (.entity text) (by simp [same, typeOf])
    | _ => exact (clean_typeParameter (texts (.verbatim text) (by simp [same]))).nests
  case h_3 => cases asks

end

namespace Context

variable {cx : Context} {call : Call}

theorem nests_builtinForm (texts : ∀ raw ∈ (Expr.call call).texts, raw.Harmless cx.dialect)
    {form : CallForm} (is : cx.builtinForm call = .ok form) : form.Holds Text.Nests (fun sql _ => sql.Nests) [] := by
  have clean : Text.Clean call.name := texts (.verbatim call.name) (by simp [Expr.texts])
  have sequence (vector : call.upperName = "VECTOR") (is : cx.sequenceForm call = .ok form) :
      form.Holds Text.Nests (fun sql _ => sql.Nests) [] := by
    obtain ⟨name, named, rest⟩ := Except.bind_ok.mp is
    obtain rfl := Except.ok.inj rest
    have names := (List.forall_mem_cons.mp texts).2
    exact Sql.nests_ofPiece (Call.nests_nextValue names vector named)
  have clock (text : String) (nests : Text.Nests text) :
      Text.Nests (cx.dialect.shiftedClock text cx.yearOffset) := cx.dialect.nests_shiftedClock nests _
  unfold builtinForm at is
  split at is
  case h_4 vector => exact sequence vector is
  case h_9 vector => exact sequence vector is
  all_goals obtain rfl := Except.ok.inj is
  case h_1 => exact Sql.nests_code (clock _ (by decide))
  case h_2 => exact Sql.nests_code (clock _ (by decide))
  case h_3 => exact Sql.nests_code (by decide)
  case h_6 => exact (Sql.nests_code (clock _ (by decide))).append (Sql.nests_code (by decide))
  case h_7 => exact Sql.nests_code (clock _ (by decide))
  case h_8 => exact Sql.nests_code (cx.dialect.nests_uuidLiteral _)
  case h_12 => exact rfl
  case h_13 => exact ⟨clean.nests, rfl⟩
  all_goals exact ⟨by decide, rfl⟩

theorem callForm_nests (standard : cx.registry = Registry.standard)
    (texts : ∀ raw ∈ (Expr.call call).texts, raw.Harmless cx.dialect) :
    (cx.callForm call).Leaves (CallForm.Holds Text.Nests fun sql _ => sql.Nests) := by
  unfold callForm
  split
  case h_1 found =>
    rw [standard] at found
    have names := (List.forall_mem_cons.mp texts).2
    refine typeOf_leaves.map fun sql deferred shape => ?_
    rcases shape with ⟨code, rfl, -⟩ | ⟨entity, asks, rfl, -⟩
    · exact Sql.nests_code (cx.dialect.nests_bytesLiteral (Literal.clean_typeCodeHex code))
    · exact Sql.nests_ofPiece (Call.nests_typeParameter names (Registry.of_standard found).1 asks)
  case h_2 found =>
    rw [standard] at found
    cases (Registry.of_standard found).2
  case h_3 =>
    split
    · exact .lift fun _ => nests_builtinForm texts
    · exact .fail _

/-- Every node of a query is written as text that nests where it is written without parts of its own. -/
theorem carries_nests (harmless : cx.Harmless) :
    cx.Carries (fun node => ∀ raw ∈ node.texts, raw.Harmless cx.dialect) Text.Nests fun sql _ => sql.Nests := by
  refine { Sql.composes_nests with
    column := fun {ref} _ {mapping} mapped column mem => ?_
    identity := cx.dialect.nests_uuidLiteral
    literal := fun texts _ ok => nests_literalSql texts ok
    variableRef := fun {ref} texts => ?_
    memberRef := fun {ref} texts => ?_
    call := fun texts => callForm_nests harmless.registry texts
    source := fun texts _ ok => nests_tableSource harmless texts ok
    target := fun texts _ ok => nests_tableName harmless (TableRef.clean_of_texts texts).1 ok
    name := fun {text} texts => ?_ }
  · have clean := harmless.column mapped mem
    refine ⟨(clean _ (by simp [PhysicalColumn.texts])).nests, fun given is => (clean given ?_).nests⟩
    simp [PhysicalColumn.texts, Option.mem_def.mp is]
  · exact Text.Clean.nests (texts (.verbatim ref.identifier) (by simp [Node.texts, Expr.texts]))
  · have object : Text.Clean ref.object := texts (.verbatim ref.object) (by simp [Node.texts, Expr.texts])
    have member : Text.Clean ref.member := texts (.verbatim ref.member) (by simp [Node.texts, Expr.texts])
    exact (MemberRef.clean_parameterName object member).nests
  · exact Text.Clean.nests (texts (.verbatim text) (by simp [Node.texts]))

end Context

/-- A written query, read with SQL quoting, ends outside quotes with all parentheses closed and none
closed that was not open. String literals may hold any text wherever they are values; where a call
takes one for the name of a sequence or entity, it is the raw text that has to nest there. -/
theorem Query.emitted_text_nests {cx : Context} {q : Query} {written : QuerySql} (context : cx.Harmless)
    (texts : ∀ raw ∈ q.texts, raw.Harmless cx.dialect) (emitted : (q.emit cx).result = .ok written) :
    Text.scan ⟨false, 0⟩ (written.sql cx.dialect).text.toList = some ⟨false, 0⟩ :=
  q.leaves (Context.carries_nests context)
    (fun _ node raw mem => texts raw (List.mem_flatMap.mpr ⟨_, node, mem⟩)) written emitted 0

theorem Context.harmless_bare (dialect : Dialect) : (Context.bare dialect).Harmless := by
  refine ⟨rfl, fun _ => nofun, fun identifier binding resolved => ?_, fun _ => nofun⟩
  cases resolved

namespace Notes

def text (value : String) : Expr := .literal ⟨.string, value⟩

def call (name : String) (args : List Expr) : Expr := .call ⟨⟨1⟩, name, args, false, none⟩

/-- Draws a number from a sequence that a string literal names, beside text. -/
def query (sequence note : String) : Query :=
  .select (.plain ⟨2⟩ [⟨⟨3⟩, call "Vector" [text sequence], some "Number"⟩,
    ⟨⟨4⟩, .caseWhen [⟨.compare .isIn none (text note) (.values [text note]), call "CONCAT" [text note]⟩]
      (some (text note)), some "Note"⟩] none)

end Notes

/-- Quotes and parentheses in values stay inside their literals, but a quote in the name of a sequence
ends the literal that it is written into. -/
theorem Query.emitted_text_nests_of_values :
    (∃ written, ((Notes.query "Goods" "it's (").emit (Context.bare .sqlServer)).result = .ok written ∧
      (written.sql .sqlServer).text = "SELECT\nNEXT VALUE FOR Goods AS Number,\n" ++
        "CASE WHEN 'it''s (' IN ('it''s (') THEN CONCAT('it''s (') ELSE 'it''s (' END AS Note" ∧
      Text.scan ⟨false, 0⟩ (written.sql .sqlServer).text.toList = some ⟨false, 0⟩) ∧
    ∃ written, ((Notes.query "it's" "x").emit (Context.bare .sqlServer)).result = .ok written ∧
      (written.sql .sqlServer).text = "SELECT\nNEXT VALUE FOR it's AS Number,\n" ++
        "CASE WHEN 'x' IN ('x') THEN CONCAT('x') ELSE 'x' END AS Note" ∧
      Text.scan ⟨false, 0⟩ (written.sql .sqlServer).text.toList = some ⟨true, 0⟩ := by
  constructor
  · obtain ⟨written, emitted, text⟩ : ∃ written,
        ((Notes.query "Goods" "it's (").emit (Context.bare .sqlServer)).result = .ok written ∧
        (written.sql .sqlServer).text = "SELECT\nNEXT VALUE FOR Goods AS Number,\n" ++
          "CASE WHEN 'it''s (' IN ('it''s (') THEN CONCAT('it''s (') ELSE 'it''s (' END AS Note" :=
      Except.exists_ok (by decide +kernel)
    have texts : ∀ raw ∈ (Notes.query "Goods" "it's (").texts, raw.Harmless Dialect.sqlServer := by
      decide +kernel
    have nests := Query.emitted_text_nests (Context.harmless_bare .sqlServer) texts emitted
    exact ⟨written, emitted, text, nests⟩
  · obtain ⟨written, emitted, text⟩ : ∃ written,
        ((Notes.query "it's" "x").emit (Context.bare .sqlServer)).result = .ok written ∧
        (written.sql .sqlServer).text = "SELECT\nNEXT VALUE FOR it's AS Number,\n" ++
          "CASE WHEN 'x' IN ('x') THEN CONCAT('x') ELSE 'x' END AS Note" :=
      Except.exists_ok (by decide +kernel)
    refine ⟨written, emitted, text, ?_⟩
    rw [text]
    decide +kernel

end SqlEmit
