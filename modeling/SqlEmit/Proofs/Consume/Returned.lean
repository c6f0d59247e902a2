import Mathlib.Data.List.TakeWhile
import SqlEmit.Proofs.Consume.Shape
import SqlEmit.Proofs.Isolation

/-! Whether a destructive read returns rows, and whether it has a mapper to read them by. The text goes
by a stream processor that is named, the mapper by one that is given: a processor with an empty name
takes nothing over, but loses the mapper. -/
namespace SqlEmit

theorem unterminated_eq_empty_iff {text : String} : unterminated text = "" ↔ ∀ c ∈ text.toList, c = ';' := by
  rw [unterminated, ← String.toList_inj, String.toList_ofList, String.toList_empty, Text.dropEnd,
    List.reverse_eq_nil_iff, List.dropWhile_eq_nil_iff]
  simp

theorem PropertyMapper.ofProjectionFrom_eq (bindings : Bindings) (place : Nat) (columns : List Projected) :
    ofProjectionFrom bindings place columns =
      columns.mapIdx fun i column => ofProjected bindings column (place + i) := by
  induction columns generalizing place with
  | nil => rfl
  | cons column columns ih =>
    rw [ofProjectionFrom, ih, List.mapIdx_cons]
    simp only [Nat.add_zero, Nat.add_assoc, Nat.add_comm 1]

theorem PropertyMapper.ofProjection_eq (bindings : Bindings) (columns : List Projected) :
    ofProjection bindings columns = columns.mapIdx fun i column => ofProjected bindings column (i + 1) := by
  rw [ofProjection, ofProjectionFrom_eq]
  simp only [Nat.add_comm 1]

/-- The mappers of a script are those of its statements that have properties. -/
theorem Emitted.mem_mappers {emitted : Emitted} {written : EmittedStatement}
    (stands : written ∈ emitted.statements) :
    written.mapper ∈ emitted.mappers ↔ written.mapper.properties ≠ [] := by
  rw [Emitted.mappers, List.mem_filter, and_iff_right (List.mem_map_of_mem stands), RowMapper.isEmpty]
  simp

namespace Consume

/-- Without a table to put them into and without a processor the rows have one property for each
projected column, in order. -/
theorem mapper_properties (bindings : Bindings) (yearOffset : Int32) (s : Consume) :
    (RowMapper.ofStatement bindings yearOffset (.consume s)).properties =
      if s.intoTable = none ∧ s.target = none then
        s.columns.mapIdx fun i column => PropertyMapper.ofProjected bindings column (i + 1)
      else [] := by
  rw [← PropertyMapper.ofProjection_eq]
  simp only [RowMapper.ofStatement, Bool.and_eq_true, Option.isNone_iff_eq_none]
  split <;> rfl

def StagedDelete.returnsRows : StagedDelete → Bool
  | .sqlServer _ _ _ (.table ..) => false
  | .sqlServer .. => true
  | .postgres _ _ _ _ _ final => final.intoTable.isNone

variable {cx : Context} {s : Consume} {table : TableRef} {tableName : String} {plan : Plan}
  {staged : StagedDelete}

theorem returnsRows_of_destination {declared : Option (TableRef × List ColumnDefinition)}
    {target : Destination} (declares : s.declaredTable cx = .ok declared)
    (delivers : destination cx declared = .ok target) (rows : SelectSql) (removal : Removal)
    (output : List String) :
    (StagedDelete.sqlServer rows removal output target).returnsRows = s.intoTable.isNone := by
  unfold declaredTable at declares
  cases into : s.intoTable with
  | none =>
    rw [into] at declares
    cases declares
    cases delivers
    rfl
  | some table =>
    simp only [into, Except.bind_ok, Except.pure_ok] at declares
    obtain ⟨columns, -, rfl⟩ := declares
    simp only [destination, Except.bind_ok, Except.pure_ok] at delivers
    obtain ⟨_, -, rfl⟩ := delivers
    rfl

theorem isNone_of_finalSelect {stage : String} {final : FinalSelect}
    (ends : (s.finalSelect cx plan stage).result = .ok final) : final.intoTable.isNone = s.intoTable.isNone := by
  simp only [finalSelect, Emit.bind_ok, Emit.pure_ok] at ends
  obtain ⟨name, named, rfl⟩ := ends
  cases into : s.intoTable with
  | none =>
    simp only [into, Option.map_none, Emit.optional, Emit.pure_ok] at named
    rw [← named]
    rfl
  | some table =>
    simp only [into, Option.map_some, Emit.optional, Emit.bind_ok, Emit.pure_ok] at named
    obtain ⟨_, -, rfl⟩ := named
    rfl

/-- In every shape the rows go to the caller unless there is a table to put them into. -/
theorem Shape.returnsRows (shape : Shape cx s table tableName plan staged) :
    staged.returnsRows = s.intoTable.isNone := by
  cases shape with
  | sqlServerDirect _ _ _ declares _ delivers | sqlServerJoined _ _ _ _ _ declares _ delivers =>
    exact returnsRows_of_destination declares delivers _ _ _
  | sqlServerSorted _ _ _ _ _ returned =>
    rw [returned]
    rfl
  | postgresDirect _ _ _ _ _ ends | postgresJoined _ _ _ _ _ ends => exact isNone_of_finalSelect ends

theorem StagedDelete.unterminated_ne_empty (staged : StagedDelete) : unterminated staged.sql.text ≠ "" := by
  intro empty
  have semicolons := unterminated_eq_empty_iff.mp empty
  have letter : 'W' ∈ staged.sql.text.toList := by
    cases staged <;> simp [StagedDelete.sql]
  exact absurd (semicolons 'W' letter) (by decide)

theorem StagedDelete.emitted_ne_empty (staged : StagedDelete) (cx : Context) (s : Consume)
    (terminated : Bool) : ((Statement.consume s).emitted cx terminated staged.sql).text ≠ "" := by
  cases terminated with
  | false => exact staged.unterminated_ne_empty
  | true => exact staged.text_ne_empty

theorem text_eq_empty_iff {sql : Sql} (ok : (s.emit cx).result = .ok sql) (terminated : Bool) :
    ((Statement.consume s).emitted cx terminated sql).text = "" ↔ givenName s.target ≠ none := by
  rcases emit_cases ok with ⟨taken, rfl⟩ | ⟨own, staged, -, rfl⟩
  · refine iff_of_true ?_ taken
    cases terminated <;> rfl
  · exact iff_of_false (staged.emitted_ne_empty cx s terminated) (not_not.mpr own)

theorem exists_returned {sql : Sql} (ok : (s.emit cx).result = .ok sql)
    (own : givenName s.target = none) (returned : s.intoTable = none) :
    ∃ staged, s.Writes cx staged ∧ staged.returnsRows = true ∧ sql = staged.sql := by
  rcases emit_cases ok with ⟨taken, -⟩ | ⟨-, staged, writes, rfl⟩
  · exact absurd own taken
  · obtain ⟨_, _, _, -, shape⟩ := shape_of_staged writes.stages
    exact ⟨staged, writes, by rw [shape.returnsRows, returned]; rfl, rfl⟩

end Consume

theorem givenName_eq_none_iff {name : Option String} :
    givenName name = none ↔ name = none ∨ name = some "" := by
  cases name <;> simp [givenName]

/-- A destructive read has no text exactly if a named stream processor takes it over, and then, or with
a table to put the rows into, no mapper. One that returns its rows has a property for each projected
column, and stands among the mappers, exactly if its processor is not the empty name. -/
theorem consume_mapper_of_returned_rows {script : Script} {settings : Settings} {metadata : Metadata}
    {registry : Registry} {fresh : NodeId → Uuid} {emitted : Emitted}
    (ok : script.emit settings metadata registry fresh = .ok emitted)
    {s : Consume} {written : EmittedStatement}
    (stands : (.consume s, written) ∈ script.statements.zip emitted.statements)
    (projects : s.columns ≠ []) :
    (written.text = "" ↔ givenName s.target ≠ none) ∧
    (written.text = "" ∨ s.intoTable ≠ none →
      written.mapper.properties = [] ∧ written.mapper ∉ emitted.mappers) ∧
    (written.text ≠ "" → s.intoTable = none →
      (∃ staged, s.Writes (script.context settings metadata registry fresh) staged ∧
        staged.returnsRows = true ∧
        written.text = if settings.terminated then staged.sql.text else unterminated staged.sql.text) ∧
      (written.mapper.properties =
            s.columns.mapIdx (fun i column => .ofProjected script.bindings column (i + 1)) ∧
          written.mapper ∈ emitted.mappers ↔
        s.target ≠ some "") ∧
      (s.target = some "" → written.mapper.properties = [])) := by
  have alone := (List.forall₂_iff_zip.mp (Script.emit_ok.mp ok)).2 stands
  have listed := Emitted.mem_mappers (List.of_mem_zip stands).2
  obtain ⟨sql, emits, rfl⟩ := Statement.alone_ok.mp alone
  have empty := Consume.text_eq_empty_iff emits settings.terminated
  have properties := s.mapper_properties script.bindings settings.yearOffset
  refine ⟨empty, fun unread => ?_, fun text returned => ?_⟩
  · have dropped : ¬(s.intoTable = none ∧ s.target = none) := by
      rintro ⟨noTable, noTarget⟩
      rcases unread with silent | into
      · exact empty.mp silent (by rw [noTarget]; rfl)
      · exact into noTable
    rw [if_neg dropped] at properties
    exact ⟨properties, fun mem => listed.mp mem properties⟩
  · have own : givenName s.target = none := not_not.mp (mt empty.mpr text)
    refine ⟨?_, ?_⟩
    · obtain ⟨staged, writes, rows, rfl⟩ := Consume.exists_returned emits own returned
      exact ⟨staged, writes, rows, rfl⟩
    -- A processor that is given, but not by name, is the only way to lose the mapper here.
    rcases givenName_eq_none_iff.mp own with absent | blank
    · rw [if_pos ⟨returned, absent⟩] at properties
      have present : s.columns.mapIdx (fun i column =>
          PropertyMapper.ofProjected script.bindings column (i + 1)) ≠ [] := by
        simpa using projects
      refine ⟨iff_of_true ⟨properties, listed.mpr (properties ▸ present)⟩ (by simp [absent]), ?_⟩
      simp [absent]
    · rw [if_neg (by simp [blank])] at properties
      refine ⟨iff_of_false (fun both => listed.mp both.2 properties) (by simp [blank]), ?_⟩
      exact fun _ => properties

namespace Takers

open Consume

/-- The queue and its nodes, for the caller, a table or a stream processor. -/
def take (intoTable : Option TableRef) (target : Option String) : Consume :=
  { Queue.read true [Queue.column ⟨5⟩ none, Queue.column ⟨6⟩ none] none with intoTable, target }

def takes : List Consume :=
  [take none none, take none (some ""), take none (some "Archive"),
    take (some ⟨⟨2⟩, "Taken", none⟩) none]

def script : Script := ⟨takes.map .consume, (Queue.context .postgres).bindings⟩

def settings : Settings := ⟨.postgres, 0, false⟩

def emit : Except Error Emitted :=
  script.emit settings (Queue.context .postgres).metadata Registry.standard fun _ => default

end Takers

/-- The same read for the caller, for a processor without a name, for one with a name and for a table:
only the first has a mapper, though the second returns the same rows. -/
theorem consume_mapper_of_takers :
    ∃ emitted caller nameless named table, Takers.emit = .ok emitted ∧
      emitted.statements = [caller, nameless, named, table] ∧
      (caller.mapper.properties.length = 2 ∧ caller.mapper ∈ emitted.mappers) ∧
      (nameless.text ≠ "" ∧ nameless.mapper.properties = []) ∧
      (named.text = "" ∧ named.mapper.properties = []) ∧
      (table.text ≠ "" ∧ table.mapper.properties = []) := by
  obtain ⟨emitted, ok, nodes⟩ : ∃ emitted, Takers.emit = .ok emitted ∧
      emitted.statements.map (·.node) = [⟨3⟩, ⟨3⟩, ⟨3⟩, ⟨3⟩] :=
    Except.exists_ok (by decide +kernel)
  simp only [List.map_eq_cons_iff, List.map_eq_nil_iff] at nodes
  obtain ⟨caller, _, whole, -, nameless, _, rfl, -, named, _, rfl, -, table, _, rfl, -, rfl⟩ := nodes
  have mapper := @consume_mapper_of_returned_rows Takers.script Takers.settings _ _ _ emitted ok
  have zipped : Takers.script.statements.zip emitted.statements =
      [(.consume (Takers.take none none), caller), (.consume (Takers.take none (some "")), nameless),
        (.consume (Takers.take none (some "Archive")), named),
        (.consume (Takers.take (some ⟨⟨2⟩, "Taken", none⟩) none), table)] := by
    rw [whole]
    rfl
  rw [zipped] at mapper
  obtain ⟨callerText, -, returned⟩ := mapper (.head _) (by decide)
  obtain ⟨namelessText, -, blank⟩ := mapper (.tail _ (.head _)) (by decide)
  obtain ⟨namedText, taken, -⟩ := mapper (.tail _ (.tail _ (.head _))) (by decide)
  obtain ⟨tableText, kept, -⟩ := mapper (.tail _ (.tail _ (.tail _ (.head _)))) (by decide)
  have read := mt namelessText.mp (by decide)
  have silent := namedText.mpr (by decide)
  obtain ⟨-, mapped, -⟩ := returned (mt callerText.mp (by decide)) rfl
  obtain ⟨properties, listed⟩ := mapped.mpr (by decide)
  refine ⟨emitted, caller, nameless, named, table, ok, whole, ⟨?_, listed⟩, ⟨read, ?_⟩, ⟨silent, ?_⟩,
    ⟨mt tableText.mp (by decide), ?_⟩⟩
  · rw [properties]
    rfl
  · exact (blank read rfl).2.2 rfl
  · exact (taken (.inl silent)).1
  · exact (kept (.inr (by decide))).1

end SqlEmit
