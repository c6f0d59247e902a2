import SqlEmit.Proofs.Sequence

/-! The database objects that number the rows of a table. APPLY SEQUENCE creates them under names made
from the name of the table, and REVOKE SEQUENCE drops what it finds under these names. On MS-SQL the names
tell tables apart. On PostgreSQL an underscore goes in front of a name unless one stands there already, so
a table shares its objects with the one that has the underscore in its name. -/
namespace SqlEmit

inductive SchemaObject where
  | function (name : String)
  | trigger (name : String)
  deriving DecidableEq

def sequenceObjects (dialect : Dialect) (tableName : String) : List SchemaObject :=
  match dialect with
  | .sqlServer => [.trigger (insteadOfInsert tableName)]
  | .postgres =>
    let tableName := Text.lower tableName
    [.function (triggerFunction tableName), .trigger (triggerName tableName)]

/-- One name is the other behind an underscore. -/
def UnderscoreApart (a b : String) : Prop :=
  (a = "_" ++ b ∧ b.toList.head? ≠ some '_') ∨ (b = "_" ++ a ∧ a.toList.head? ≠ some '_')

instance (a b : String) : Decidable (UnderscoreApart a b) :=
  inferInstanceAs (Decidable (_ ∨ _))

def underscored (name : String) : String :=
  if name.toList.head? = some '_' then name else "_" ++ name

theorem beforeInsert_eq (object name : String) :
    beforeInsert object name = object ++ underscored name ++ "_before_insert" := by
  unfold beforeInsert underscored
  split
  · rw [String.append_empty]
  · rw [@String.append_assoc object]

/-- Two names are the same behind an underscore if they are the same, or if one of them is the other with
the underscore that it lacks. -/
theorem underscored_inj {a b : String} : underscored a = underscored b ↔ a = b ∨ UnderscoreApart a b := by
  by_cases left : a.toList.head? = some '_' <;> by_cases right : b.toList.head? = some '_'
  · simp only [underscored, left, right, if_true, UnderscoreApart, ne_eq, not_true_eq_false, and_false,
      or_false]
  · simp only [underscored, left, right, if_true, if_false, UnderscoreApart, ne_eq, not_true_eq_false,
      not_false_eq_true, and_true, and_false, or_false]
    refine ⟨.inr, fun same => same.resolve_left ?_⟩
    rintro rfl
    exact right left
  · simp only [underscored, left, right, if_true, if_false, UnderscoreApart, ne_eq, not_true_eq_false,
      not_false_eq_true, and_true, and_false, false_or]
    refine ⟨fun same => .inr same.symm, fun same => (same.resolve_left ?_).symm⟩
    rintro rfl
    exact left right
  · simp only [underscored, left, right, if_false, String.append_right_inj, UnderscoreApart, ne_eq,
      not_false_eq_true, and_true]
    refine ⟨.inl, fun same => same.resolve_right ?_⟩
    -- a name behind an underscore starts with one
    rintro (rfl | rfl)
    · exact left (by simp)
    · exact right (by simp)

theorem beforeInsert_inj {object a b : String} :
    beforeInsert object a = beforeInsert object b ↔ a = b ∨ UnderscoreApart a b := by
  rw [beforeInsert_eq, beforeInsert_eq, String.append_left_inj, String.append_right_inj, underscored_inj]

theorem insteadOfInsert_inj {a b : String} :
    insteadOfInsert a = insteadOfInsert b ↔ Text.lower a = Text.lower b :=
  String.append_left_inj _

/-- The names of two tables, by which their objects are the same. -/
def SharesObjects (dialect : Dialect) (a b : String) : Prop :=
  Text.lower a = Text.lower b ∨ dialect = .postgres ∧ UnderscoreApart (Text.lower a) (Text.lower b)

/-- Two tables share all of their objects or none. -/
theorem sequenceObjects_cases (dialect : Dialect) (a b : String) :
    (SharesObjects dialect a b ∧ sequenceObjects dialect a = sequenceObjects dialect b) ∨
      ¬SharesObjects dialect a b ∧ ∀ object ∈ sequenceObjects dialect a, object ∉ sequenceObjects dialect b := by
  cases dialect with
  | sqlServer =>
    by_cases same : Text.lower a = Text.lower b
    · exact .inl ⟨.inl same, by simp [sequenceObjects, insteadOfInsert_inj.mpr same]⟩
    · have apart := mt insteadOfInsert_inj.mp same
      exact .inr ⟨by simp [SharesObjects, same], by simp [sequenceObjects, apart]⟩
  | postgres =>
    by_cases same : Text.lower a = Text.lower b ∨ UnderscoreApart (Text.lower a) (Text.lower b)
    · have shared (object : String) := (@beforeInsert_inj object _ _).mpr same
      exact .inl ⟨by simpa [SharesObjects] using same, by
        simp [sequenceObjects, triggerFunction, triggerName, shared]⟩
    · have apart (object : String) := mt (@beforeInsert_inj object _ _).mp same
      exact .inr ⟨by simpa [SharesObjects] using same, by
        simp [sequenceObjects, triggerFunction, triggerName, apart]⟩

/-- A text that creates these objects for a table. -/
inductive Creates (table : String) : Dialect → List SchemaObject → String → Prop where
  | trigger (name body : String) : Creates table .sqlServer [.trigger name]
      ("IF OBJECT_ID('" ++ name ++ "', 'TR') IS NULL\nEXECUTE('CREATE TRIGGER " ++ name ++ " ON " ++ table ++
        " INSTEAD OF INSERT" ++ body)
  | functionAndTrigger (function trigger body ending : String) :
      Creates table .postgres [.function function, .trigger trigger]
        ("CREATE FUNCTION " ++ function ++ "()\nRETURNS trigger AS $BODY$\nBEGIN\n" ++ body ++
          "RETURN NEW;\nEND $BODY$ LANGUAGE 'plpgsql';\n\nCREATE TRIGGER " ++ trigger ++ "\nBEFORE INSERT ON " ++
          table ++ " FOR EACH ROW\nEXECUTE PROCEDURE " ++ function ++ "();" ++ ending)

/-- The text that drops these objects of a table. -/
inductive Drops (table : String) : Dialect → List SchemaObject → String → Prop where
  | trigger (name : String) : Drops table .sqlServer [.trigger name]
      ("IF OBJECT_ID('" ++ name ++ "', 'TR') IS NOT NULL DROP TRIGGER " ++ name ++ ";")
  | functionAndTrigger (function trigger : String) :
      Drops table .postgres [.function function, .trigger trigger]
        ("DROP FUNCTION IF EXISTS " ++ function ++ " CASCADE;\nDROP TRIGGER IF EXISTS " ++ trigger ++ " ON " ++
          table ++ ";")

/-- The name of a table as the statements about its sequence write it. -/
def Dialect.sequenceTable (dialect : Dialect) (tableName : String) : String :=
  dialect.pick tableName (Text.lower tableName)

theorem ApplySequence.creates_of_emit {cx : Context} {s : ApplySequence} {entity : Entity} {sql : Sql}
    (bound : cx.tableBinding? s.table = some (.entity entity)) (ok : s.emit cx = .ok sql) :
    Creates (cx.dialect.sequenceTable entity.tableName) cx.dialect
      (sequenceObjects cx.dialect entity.tableName) sql.text := by
  obtain ⟨entity', property, first, ending, bound', -, -, rfl⟩ := emit_ok ok
  obtain rfl := Binding.entity.inj (Option.some.inj (bound.symm.trans bound'))
  cases cx.dialect with
  | sqlServer =>
    show Creates entity.tableName .sqlServer [.trigger (insteadOfInsert entity.tableName)] _
    have opens : " INSTEAD OF INSERT NOT FOR REPLICATION AS\nINSERT " =
        " INSTEAD OF INSERT" ++ " NOT FOR REPLICATION AS\nINSERT " := by decide
    simp only [Dialect.pick, insteadOfSql, opens, Sql.text_append, Sql.text_code, String.append_assoc,
      -String.reduceAppend]
    simpa only [String.append_assoc] using Creates.trigger _ _
  | postgres =>
    show Creates (Text.lower entity.tableName) .postgres
      [.function (triggerFunction (Text.lower entity.tableName)),
        .trigger (triggerName (Text.lower entity.tableName))] _
    simp only [Dialect.pick, Sql.text_append, text_beforeInsertSql, assigningSql, Sql.text_code,
      String.append_assoc]
    simpa only [String.append_assoc] using Creates.functionAndTrigger _ _ _ _

theorem RevokeSequence.drops_of_emit {cx : Context} {s : RevokeSequence} {entity : Entity} {sql : Sql}
    (bound : cx.tableBinding? s.table = some (.entity entity)) (ok : s.emit cx = .ok sql) :
    Drops (cx.dialect.sequenceTable entity.tableName) cx.dialect
      (sequenceObjects cx.dialect entity.tableName) sql.text := by
  obtain ⟨entity', is, rest⟩ := Except.bind_ok.mp ok
  obtain rfl := Binding.entity.inj (Option.some.inj (bound.symm.trans (sequenceEntity_ok is)))
  cases dialect : cx.dialect with
  | sqlServer =>
    simp only [dialect, Except.pure_ok] at rest
    rw [← rest, Sql.text_code]
    exact .trigger _
  | postgres =>
    simp only [dialect, Except.pure_ok] at rest
    rw [← rest, Sql.text_code]
    exact .functionAndTrigger _ _

/-- APPLY SEQUENCE creates the objects of its table, and REVOKE SEQUENCE on the table drops exactly these.
Tables whose names differ in more than case have no object in common, unless the backend is PostgreSQL and
one name is the other behind an underscore: then they have all of them in common. -/
theorem sequence_objects_apart_iff {cx cx' : Context} (backend : cx'.dialect = cx.dialect)
    {applied other : ApplySequence} {revoked : RevokeSequence} {entity entity' : Entity}
    {created dropped created' : Sql}
    (table : cx.tableBinding? applied.table = some (.entity entity))
    (sameTable : cx.tableBinding? revoked.table = some (.entity entity))
    (otherTable : cx'.tableBinding? other.table = some (.entity entity'))
    (applies : applied.emit cx = .ok created) (revokes : revoked.emit cx = .ok dropped)
    (appliesOther : other.emit cx' = .ok created')
    (differ : Text.lower entity.tableName ≠ Text.lower entity'.tableName) :
    let own := sequenceObjects cx.dialect entity.tableName
    let others := sequenceObjects cx.dialect entity'.tableName
    let collide := cx.dialect = .postgres ∧
      UnderscoreApart (Text.lower entity.tableName) (Text.lower entity'.tableName)
    Creates (cx.dialect.sequenceTable entity.tableName) cx.dialect own created.text ∧
      Drops (cx.dialect.sequenceTable entity.tableName) cx.dialect own dropped.text ∧
      Creates (cx.dialect.sequenceTable entity'.tableName) cx.dialect others created'.text ∧
      ((∀ object ∈ own, object ∉ others) ↔ ¬collide) ∧ (collide → own = others) := by
  intro own others collide
  have creates' := other.creates_of_emit otherTable appliesOther
  rw [backend] at creates'
  have shares : SharesObjects cx.dialect entity.tableName entity'.tableName ↔ collide := by
    rw [SharesObjects, or_iff_right differ]
  refine ⟨applied.creates_of_emit table applies, revoked.drops_of_emit sameTable revokes,
    creates', ?_⟩
  rcases sequenceObjects_cases cx.dialect entity.tableName entity'.tableName with
    ⟨shared, same⟩ | ⟨unshared, apart⟩
  · have present : own ≠ [] := by
      cases dialect : cx.dialect <;> simp [own, sequenceObjects, dialect]
    obtain ⟨object, mem⟩ := List.exists_mem_of_ne_nil own present
    have common : object ∈ others := by rwa [show own = others from same] at mem
    refine ⟨iff_of_false (fun disjoint => disjoint object mem common) ?_, fun _ => same⟩
    exact not_not.mpr (shares.mp shared)
  · rw [shares] at unshared
    exact ⟨iff_of_true apart unshared, fun collides => absurd collides unshared⟩

namespace Numbering

def archive (tableName : String) : Entity := ⟨"Archive", tableName, 8, [title, code]⟩

def archiveContext (dialect : Dialect) (tableName : String) : Context :=
  .ofStatements dialect ⟨Dict.ofList [(⟨1⟩, .entity (entity code)), (⟨2⟩, .property code),
    (⟨4⟩, .entity (archive tableName))], Dict.empty⟩ Catalog.empty Registry.standard 0 (fun _ => default) []

def applyArchive : ApplySequence := ⟨⟨5⟩, "Numbers", ⟨⟨4⟩, "Archive", none⟩, ⟨⟨2⟩, "Code"⟩, false⟩

def revoke : RevokeSequence := ⟨⟨6⟩, "Numbers", ⟨⟨1⟩, "Document", none⟩⟩

/-- The texts that number the documents, end that, and number the archive. -/
def archiveSql (dialect : Dialect) (tableName : String) : Except Error (Sql × Sql × Sql) := do
  let cx := archiveContext dialect tableName
  return (← apply.emit cx, ← revoke.emit cx, ← applyArchive.emit cx)

end Numbering

/-- The documents and the archive are numbered apart on MS-SQL. On PostgreSQL they are if the archive has a
name of its own; if it lacks only the underscore, revoking the sequence of one drops the objects of the other. -/
theorem sequence_objects_apart_of_archive :
    let apart (dialect : Dialect) (tableName : String) : Prop :=
      ∀ object ∈ sequenceObjects dialect "_Document7", object ∉ sequenceObjects dialect tableName
    (∃ written, Numbering.archiveSql .sqlServer "Document7" = .ok written ∧ apart .sqlServer "Document7") ∧
    (∃ written, Numbering.archiveSql .postgres "Archive" = .ok written ∧ apart .postgres "Archive") ∧
    ∃ written, Numbering.archiveSql .postgres "Document7" = .ok written ∧
      sequenceObjects .postgres "_Document7" = sequenceObjects .postgres "Document7" := by
  intro apart
  have settles {dialect : Dialect} {tableName : String} {written : Sql × Sql × Sql}
      (ok : Numbering.archiveSql dialect tableName = .ok written)
      (differ : Text.lower "_Document7" ≠ Text.lower tableName) :
      let collide := dialect = .postgres ∧ UnderscoreApart (Text.lower "_Document7") (Text.lower tableName)
      (apart dialect tableName ↔ ¬collide) ∧
        (collide → sequenceObjects dialect "_Document7" = sequenceObjects dialect tableName) := by
    obtain ⟨created, applies, rest⟩ := Except.bind_ok.mp ok
    obtain ⟨dropped, revokes, rest⟩ := Except.bind_ok.mp rest
    obtain ⟨created', appliesOther, -⟩ := Except.bind_ok.mp rest
    have table : (Numbering.archiveContext dialect tableName).tableBinding? Numbering.apply.table =
        some (.entity (Numbering.entity Numbering.code)) := rfl
    have archived : (Numbering.archiveContext dialect tableName).tableBinding? Numbering.applyArchive.table =
        some (.entity (Numbering.archive tableName)) := rfl
    obtain ⟨-, -, -, settled⟩ :=
      sequence_objects_apart_iff rfl table table archived applies revokes appliesOther differ
    exact settled
  refine ⟨?_, ?_, ?_⟩
  · obtain ⟨written, ok, -⟩ : ∃ written, Numbering.archiveSql .sqlServer "Document7" = .ok written ∧ True :=
      Except.exists_ok (by decide +kernel)
    exact ⟨written, ok, (settles ok (by decide +kernel)).1.mpr (by decide +kernel)⟩
  · obtain ⟨written, ok, -⟩ : ∃ written, Numbering.archiveSql .postgres "Archive" = .ok written ∧ True :=
      Except.exists_ok (by decide +kernel)
    exact ⟨written, ok, (settles ok (by decide +kernel)).1.mpr (by decide +kernel)⟩
  · obtain ⟨written, ok, -⟩ : ∃ written, Numbering.archiveSql .postgres "Document7" = .ok written ∧ True :=
      Except.exists_ok (by decide +kernel)
    exact ⟨written, ok, (settles ok (by decide +kernel)).2 (by decide +kernel)⟩

end SqlEmit
