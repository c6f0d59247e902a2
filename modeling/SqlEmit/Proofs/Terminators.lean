import Mathlib.Data.List.DropRight
import SqlEmit.Proofs.Consume.Returned
import SqlEmit.Proofs.Guard
import SqlEmit.Proofs.ResultRows

/-! Semicolons at the end of statements. Whatever way a statement is written, its text ends with one;
only declarations and reads of a stream processor have no text. A script without the semicolons
consists of the same statements, each without the run of semicolons at its end. -/
namespace SqlEmit

namespace Text

def Ended (text : String) : Prop :=
  text.toList.getLast? = some ';'

instance (text : String) : Decidable (Ended text) :=
  inferInstanceAs (Decidable (_ = _))

theorem Ended.append (front : String) {back : String} (ended : Ended back) : Ended (front ++ back) := by
  have last : back.toList.getLast? = some ';' := ended
  rw [Ended, String.toList_append, List.getLast?_append, last]
  rfl

/-- There is a character that is no semicolon. -/
def Worded (text : String) : Prop :=
  ∃ c ∈ text.toList, c ≠ ';'

-- The instance is given by name, since characters can also be searched one by one.
instance (text : String) : Decidable (Worded text) :=
  List.decidableBEx (· ≠ ';') text.toList

theorem Worded.append (front : String) {back : String} (worded : Worded back) : Worded (front ++ back) := by
  obtain ⟨c, mem, word⟩ := worded
  exact ⟨c, by simp [mem], word⟩

theorem Worded.extend {front : String} (worded : Worded front) (back : String) : Worded (front ++ back) := by
  obtain ⟨c, mem, word⟩ := worded
  exact ⟨c, by simp [mem], word⟩

/-- The text ends with a semicolon, and there is more to it than semicolons. -/
structure Closed (text : String) : Prop where
  ended : Ended text
  worded : Worded text

instance (text : String) : Decidable (Closed text) :=
  decidable_of_iff (Ended text ∧ Worded text)
    ⟨fun ⟨ended, worded⟩ => ⟨ended, worded⟩, fun closed => ⟨closed.ended, closed.worded⟩⟩

theorem Closed.append (front : String) {back : String} (closed : Closed back) : Closed (front ++ back) :=
  ⟨closed.ended.append front, closed.worded.append front⟩

/-- A semicolon closes what is more than semicolons. -/
theorem Worded.closed {text : String} (worded : Worded text) : Closed (text ++ ";") :=
  ⟨Ended.append text rfl, worded.extend ";"⟩

/-- `bare` is what stands before the run of semicolons at the end. -/
structure Strips (text bare : String) : Prop where
  run : ∃ count, text = bare ++ String.ofList (List.replicate count ';')
  stops : ¬Ended bare

end Text

theorem strips_unterminated (text : String) : Text.Strips text (unterminated text) := by
  have kept : (unterminated text).toList = text.toList.rdropWhile (· = ';') := String.toList_ofList
  refine ⟨⟨(text.toList.rtakeWhile (· = ';')).length, ?_⟩, ?_⟩
  · have run : text.toList.rtakeWhile (· = ';') =
        List.replicate (text.toList.rtakeWhile (· = ';')).length ';' :=
      List.eq_replicate_of_mem fun c mem => by simpa using List.mem_rtakeWhile_imp mem
    rw [← run, ← String.toList_inj, String.toList_append, kept, String.toList_ofList,
      List.rdropWhile_append_rtakeWhile]
  · intro ended
    rw [Text.Ended, kept] at ended
    obtain ⟨nonempty, last⟩ := List.mem_getLast?_eq_getLast ended
    exact List.rdropWhile_last_not _ _ nonempty (by simp [← last])

namespace Sql

def Closed (sql : Sql) : Prop :=
  Text.Closed sql.text

theorem Closed.append (front : Sql) {back : Sql} (closed : back.Closed) : (front ++ back).Closed := by
  rw [Closed, text_append]
  exact Text.Closed.append _ closed

theorem closed_semicolon {front : Sql} (worded : Text.Worded front.text) : (front ++ code ";").Closed := by
  rw [Closed, text_append, text_code]
  exact worded.closed

theorem closed_code {text : String} (closed : Text.Closed text) : (code text).Closed := by
  rw [Closed, text_code]
  exact closed

theorem Closed.text_ne_empty {sql : Sql} (closed : sql.Closed) : sql.text ≠ "" := by
  intro empty
  obtain ⟨c, mem, -⟩ := Text.Closed.worded closed
  simp [empty] at mem

/-- Something is left of it without its semicolons. -/
theorem Closed.unterminated_ne_empty {sql : Sql} (closed : sql.Closed) : unterminated sql.text ≠ "" := by
  intro empty
  obtain ⟨c, mem, word⟩ := Text.Closed.worded closed
  exact word (unterminated_eq_empty_iff.mp empty c mem)

end Sql

theorem QuerySql.worded (q : QuerySql) (dialect : Dialect) : Text.Worded (q.sql dialect).text := by
  cases q with
  | select s => exact ⟨'\n', by simp [QuerySql.sql, SelectSql.sql], by decide⟩
  | union all left right order =>
    refine ⟨'U', ?_, by decide⟩
    cases all <;> simp [QuerySql.sql, QuerySql.unionText]

theorem SelectStatement.gives_closed (cx : Context) (s : SelectStatement) :
    Emit.Gives Sql.Closed (s.emit cx) := by
  refine .after fun ctes => .after fun query => .pure ?_
  obtain ⟨c, mem, word⟩ := query.worded cx.dialect
  exact Sql.closed_semicolon ⟨c, by simp [mem], word⟩

theorem TableVariable.gives_closed (cx : Context) (temporary : Bool) (s : TableVariable) :
    Emit.Gives Sql.Closed (s.emit cx temporary) := by
  refine .after fun query => ?_
  cases cx.dialect with
  | postgres => exact .pure (Sql.closed_semicolon ⟨'C', by simp, by decide⟩)
  | sqlServer =>
    exact .after fun columns => .pure (Sql.closed_semicolon ⟨'I', by simp, by decide⟩)

theorem Insert.gives_worded (cx : Context) (s : Insert) :
    Emit.Gives (fun body => Text.Worded body.text) (s.emitBody cx) :=
  .after fun _ => .after fun _ => .after fun _ => .after fun _ => .after fun _ =>
    .pure ⟨'I', by simp, by decide⟩

theorem Insert.gives_closed (cx : Context) (s : Insert) : Emit.Gives Sql.Closed (s.emit cx) :=
  .bind (s.gives_worded cx) fun _ ⟨c, mem, word⟩ =>
    .pure (Sql.closed_semicolon ⟨c, by simp [mem], word⟩)

/-- Also where the rows go into a table and the statement into a common table of its own. -/
theorem gives_closed_returning (cx : Context) (ctes : List Cte) {body : Sql} (output : Option Output)
    (worded : Text.Worded body.text) : Emit.Gives Sql.Closed (emitReturning cx ctes body output) := by
  obtain ⟨c, mem, word⟩ := worded
  rcases output with _ | ⟨columns, _ | table⟩
  · exact .after fun _ => .pure (Sql.closed_semicolon ⟨c, by simp [mem], word⟩)
  · exact .after fun _ => .after fun _ => .pure (Sql.closed_semicolon ⟨c, by simp [mem], word⟩)
  · refine .after fun _ => ?_
    have closed (common list : Sql) (name : String) : (common ++ Sql.code "output AS\n" ++
        (body ++ Sql.code "\nRETURNING\n" ++ list).parens ++
        Sql.code ("\nSELECT * " ++ cx.dialect.intoKeyword ++ " " ++ name ++ "\nFROM output;")).Closed :=
      .append _ (Sql.closed_code (.append _ (by decide)))
    split
    all_goals exact .after fun common => .after fun name => .pure (closed common _ name)

theorem Update.gives_closed (cx : Context) (s : Update) : Emit.Gives Sql.Closed (s.emit cx) := by
  refine .after fun table => ?_
  cases cx.dialect with
  | sqlServer =>
    exact .after fun _ => .after fun _ => .after fun _ => .after fun _ => .after fun _ =>
      .pure (Sql.closed_semicolon ⟨'U', by simp, by decide⟩)
  | postgres =>
    exact .after fun _ => .after fun _ => .after fun _ =>
      gives_closed_returning cx s.ctes s.output ⟨'U', by simp, by decide⟩

theorem Delete.gives_closed (cx : Context) (s : Delete) : Emit.Gives Sql.Closed (s.emit cx) := by
  refine .after fun table => ?_
  cases cx.dialect with
  | sqlServer =>
    exact .after fun _ => .after fun _ => .after fun _ => .after fun _ =>
      .pure (Sql.closed_semicolon ⟨'D', by simp, by decide⟩)
  | postgres =>
    exact .after fun _ => .after fun _ =>
      gives_closed_returning cx s.ctes s.output ⟨'D', by simp, by decide⟩

theorem Upsert.gives_closed (cx : Context) (s : Upsert) : Emit.Gives Sql.Closed (s.emit cx) := by
  intro sql ok
  obtain ⟨table, source, update, body, predicate, -, -, -, -, -, rfl⟩ := Upsert.emit_ok ok
  exact Sql.closed_semicolon ⟨'W', by simp [guardSql], by decide⟩

namespace Consume

theorem FinalSelect.closed (final : FinalSelect) (dialect : Dialect) : (final.sql dialect).Closed :=
  Sql.closed_semicolon ⟨'S', by simp, by decide⟩

theorem StagedDelete.closed (staged : StagedDelete) : staged.sql.Closed := by
  cases staged with
  | postgres names rows table keys returning final => exact .append _ (final.closed .postgres)
  | sqlServer rows removal output destination =>
    cases destination with
    | sorted columns final => exact .append _ (final.closed .sqlServer)
    | caller | table =>
      show (_ ++ Sql.empty).Closed
      rw [Sql.append_empty]
      exact Sql.closed_semicolon ⟨'W', by simp, by decide⟩

theorem gives_closed (cx : Context) (s : Consume) (own : givenName s.target = none) :
    Emit.Gives Sql.Closed (s.emit cx) := by
  intro sql ok
  rcases emit_cases ok with ⟨taken, -⟩ | ⟨-, staged, -, rfl⟩
  · exact absurd own taken
  · exact staged.closed

end Consume

theorem CreateType.closed_of_emit {cx : Context} {s : CreateType} {sql : Sql} (ok : s.emit cx = .ok sql) :
    sql.Closed := by
  obtain ⟨columns, -, same⟩ := Except.bind_ok.mp ok
  rw [← Except.pure_ok.mp same]
  exact Sql.closed_code (.append _ (by decide))

theorem CreateSequence.closed (s : CreateSequence) (dialect : Dialect) : (s.emit dialect).Closed := by
  cases dialect with
  | sqlServer => exact Sql.closed_code (.append _ (by decide))
  | postgres =>
    have cached (front cache : String) : Text.Worded (front ++ " CACHE " ++ cache) :=
      .extend (.append front (by decide)) cache
    exact Sql.closed_code (cached _ _).closed

theorem DropSequence.closed (s : DropSequence) : s.emit.Closed :=
  Sql.closed_code (Text.Worded.closed ⟨'D', by simp, by decide⟩)

namespace ApplySequence

theorem closed_of_renumbering {cx : Context} {s : ApplySequence} {tableName column : String} {sql : Sql}
    (ok : s.renumbering cx tableName column = .ok sql) : sql.Closed := by
  unfold renumbering at ok
  split at ok
  next => cases ok
  next index _ =>
    cases dialect : cx.dialect with
    | sqlServer =>
      simp only [dialect, Except.ok.injEq] at ok
      rw [← ok]
      exact Sql.closed_code (.append _ (by decide))
    | postgres =>
      simp only [dialect, Except.ok.injEq] at ok
      rw [← ok]
      exact .append _ (Sql.closed_code (.append _ (by decide)))

/-- The trigger is closed already; a renumbering script behind it closes the statement anew. -/
theorem closed_append_ending {cx : Context} {s : ApplySequence} {tableName column : String}
    {trigger ending : Sql} (closed : trigger.Closed) (ok : s.ending cx tableName column = .ok ending) :
    (trigger ++ ending).Closed := by
  unfold ApplySequence.ending at ok
  split at ok
  · obtain ⟨script, renumbers, same⟩ := Except.bind_ok.mp ok
    rw [← Except.pure_ok.mp same]
    exact .append _ (.append _ (closed_of_renumbering renumbers))
  · obtain rfl := Except.ok.inj ok
    rw [Sql.append_empty]
    exact closed

theorem closed_of_emit {cx : Context} {s : ApplySequence} {sql : Sql} (ok : s.emit cx = .ok sql) :
    sql.Closed := by
  obtain ⟨entity, -, rest⟩ := Except.bind_ok.mp ok
  obtain ⟨⟨property, column⟩, -, rest⟩ := Except.bind_ok.mp rest
  cases dialect : cx.dialect with
  | sqlServer =>
    simp only [dialect] at rest
    obtain ⟨ending, ends, same⟩ := Except.bind_ok.mp rest
    rw [← Except.pure_ok.mp same]
    exact closed_append_ending (.append _ (Sql.closed_code (by decide))) ends
  | postgres =>
    simp only [dialect] at rest
    obtain ⟨ending, ends, same⟩ := Except.bind_ok.mp rest
    rw [← Except.pure_ok.mp same]
    exact closed_append_ending (.append _ (Sql.closed_code (.append _ (by decide)))) ends

end ApplySequence

theorem RevokeSequence.closed_of_emit {cx : Context} {s : RevokeSequence} {sql : Sql}
    (ok : s.emit cx = .ok sql) : sql.Closed := by
  obtain ⟨entity, -, rest⟩ := Except.bind_ok.mp ok
  cases dialect : cx.dialect with
  | sqlServer =>
    simp only [dialect, Except.pure_ok] at rest
    rw [← rest]
    exact Sql.closed_code (Text.Worded.closed ⟨'D', by simp, by decide⟩)
  | postgres =>
    simp only [dialect, Except.pure_ok] at rest
    rw [← rest]
    exact Sql.closed_code (Text.Worded.closed ⟨'D', by simp, by decide⟩)

namespace Statement

/-- Declarations, and reads that a stream processor of some name takes over. -/
def isSilent : Statement → Bool
  | .declare _ => true
  | .consume s => s.target.any (· ≠ "")
  | _ => false

theorem isSilent_consume (s : Consume) : (consume s).isSilent = (givenName s.target).isSome := by
  cases target : s.target with
  | none => simp [isSilent, target, givenName]
  | some name => by_cases empty : name = "" <;> simp [isSilent, target, givenName, empty]

theorem gives_empty (cx : Context) {statement : Statement} (silent : statement.isSilent = true) :
    Emit.Gives (· = Sql.empty) (statement.emit cx) := by
  cases statement with
  | declare s => exact .pure rfl
  | consume s =>
    intro sql ok
    rw [isSilent_consume] at silent
    rcases Consume.emit_cases ok with ⟨-, empty⟩ | ⟨own, -⟩
    · exact empty
    · simp [own] at silent
  | _ => cases silent

theorem gives_closed (cx : Context) {statement : Statement} (speaks : statement.isSilent = false) :
    Emit.Gives Sql.Closed (statement.emit cx) := by
  cases statement with
  | declare s => cases speaks
  | select s => exact s.gives_closed cx
  | insert s => exact s.gives_closed cx
  | update s => exact s.gives_closed cx
  | delete s => exact s.gives_closed cx
  | upsert s => exact s.gives_closed cx
  | consume s => exact s.gives_closed cx (by simpa [isSilent_consume] using speaks)
  | tableVariable s => exact s.gives_closed cx false
  | temporaryTable s => exact s.gives_closed cx true
  | createType s => exact .lift fun _ => CreateType.closed_of_emit
  | createSequence s => exact .pure (s.closed cx.dialect)
  | dropSequence s => exact .pure s.closed
  | applySequence s => exact .lift fun _ => ApplySequence.closed_of_emit
  | revokeSequence s => exact .lift fun _ => RevokeSequence.closed_of_emit

/-- A silent statement has no text, and any other one that ends with a semicolon. -/
def Terminated (statement : Statement) (text : String) : Prop :=
  (text = "" ↔ statement.isSilent = true) ∧ (statement.isSilent = false → Text.Ended text)

variable {cx : Context} {statement : Statement} {sql : Sql}

theorem terminated_of_emit (ok : (statement.emit cx).result = .ok sql) : statement.Terminated sql.text := by
  cases silent : statement.isSilent with
  | true =>
    obtain rfl := gives_empty cx silent sql ok
    exact ⟨iff_of_true rfl silent, by simp [silent]⟩
  | false =>
    have closed := gives_closed cx silent sql ok
    exact ⟨iff_of_false closed.text_ne_empty (by simp [silent]), fun _ => Text.Closed.ended closed⟩

/-- Without its semicolons a statement is still empty only if it is silent. -/
theorem unterminated_eq_empty_iff_isSilent (ok : (statement.emit cx).result = .ok sql) :
    unterminated sql.text = "" ↔ statement.isSilent = true := by
  cases silent : statement.isSilent with
  | true =>
    obtain rfl := gives_empty cx silent sql ok
    exact iff_of_true rfl rfl
  | false => exact iff_of_false (gives_closed cx silent sql ok).unterminated_ne_empty (by simp)

end Statement

theorem Emitted.text_eq_intercalate (emitted : Emitted) :
    emitted.text = "\n".intercalate ((emitted.statements.map (·.text)).filter fun text => text ≠ "") := by
  refine congrArg "\n".intercalate (List.filter_congr fun text _ => ?_)
  by_cases empty : text = "" <;> simp [empty]

/-- The statement without the semicolons at its end. -/
def EmittedStatement.stripped (written : EmittedStatement) : EmittedStatement :=
  { written with text := unterminated written.text }

/-- `bare` is the same statement without the run of semicolons at its end. -/
structure EmittedStatement.Strips (full bare : EmittedStatement) : Prop where
  node : bare.node = full.node
  text : Text.Strips full.text bare.text
  mapper : bare.mapper = full.mapper
  functions : bare.functions = full.functions

theorem EmittedStatement.strips_stripped (written : EmittedStatement) : written.Strips written.stripped :=
  ⟨rfl, strips_unterminated written.text, rfl, rfl⟩

theorem Statement.alone_stripped (cx : Context) (statement : Statement) :
    statement.alone cx false = (statement.alone cx true).map EmittedStatement.stripped := by
  rw [Statement.alone_eq, Statement.alone_eq]
  cases (statement.emit cx).result <;> rfl

theorem Except.mapM_map {f : α → Except ε β} (g : β → γ) (xs : List α) :
    xs.mapM (fun x => (f x).map g) = (xs.mapM f).map (List.map g) := by
  induction xs with
  | nil => rfl
  | cons x xs ih =>
    rw [List.mapM_cons, List.mapM_cons, ih]
    cases f x with
    | error e => rfl
    | ok y => cases xs.mapM f <;> rfl

namespace Script

variable (script : Script) (settings : Settings) (metadata : Metadata) (registry : Registry)
  (fresh : NodeId → Uuid)

/-- Without semicolons the script fails as with them, or has the same statements without them. -/
theorem emit_stripped :
    script.emit { settings with terminated := false } metadata registry fresh =
      (script.emit { settings with terminated := true } metadata registry fresh).map fun full =>
        ⟨full.statements.map EmittedStatement.stripped⟩ := by
  -- the context of the script does not depend on the semicolons
  let alone := Statement.alone (script.context settings metadata registry fresh)
  have bare : script.emit { settings with terminated := false } metadata registry fresh =
      (script.statements.mapM (alone false)).map Emitted.mk := script.emit_eq _ metadata registry fresh
  have full : script.emit { settings with terminated := true } metadata registry fresh =
      (script.statements.mapM (alone true)).map Emitted.mk := script.emit_eq _ metadata registry fresh
  have each : alone false = fun statement => (alone true statement).map EmittedStatement.stripped :=
    funext (Statement.alone_stripped _)
  rw [bare, full, each, Except.mapM_map]
  cases script.statements.mapM (alone true) <;> rfl

/-- On every backend a statement that is written ends with a semicolon, unless it is silent and has no text
at all. Without semicolons a script fails as with them, or each of its statements loses the run of
semicolons at its end and nothing else, and no statement but a silent one becomes empty; the texts that are not
empty stand in the order of the statements, a line break between any two. -/
theorem statements_terminated :
    let emit := fun terminated => script.emit { settings with terminated } metadata registry fresh
    (∀ (cx : Context) (statement : Statement) (sql : Sql), (statement.emit cx).result = .ok sql →
      statement.Terminated sql.text) ∧
    (∀ error, emit false = .error error ↔ emit true = .error error) ∧
    ∀ full, emit true = .ok full →
      List.Forall₂ (fun statement written => statement.Terminated written.text) script.statements
        full.statements ∧
      ∃ bare, emit false = .ok bare ∧
        List.Forall₂ EmittedStatement.Strips full.statements bare.statements ∧
        List.Forall₂ (fun statement written => written.text = "" ↔ statement.isSilent = true)
          script.statements bare.statements ∧
        bare.mappers = full.mappers ∧
        ∀ emitted ∈ [full, bare], emitted.text =
          "\n".intercalate ((emitted.statements.map (·.text)).filter fun text => text ≠ "") := by
  intro emit
  have stripped : emit false = (emit true).map fun full => ⟨full.statements.map EmittedStatement.stripped⟩ :=
    script.emit_stripped settings metadata registry fresh
  refine ⟨fun _ _ _ => Statement.terminated_of_emit, fun error => ?_, fun full ok => ?_⟩
  · rw [stripped]
    cases emit true <;> simp [Except.map]
  · have alone := Script.emit_ok.mp ok
    refine ⟨alone.imp fun statement written is => ?_,
      ⟨full.statements.map EmittedStatement.stripped⟩, by rw [stripped, ok]; rfl, ?_, ?_, ?_, ?_⟩
    · obtain ⟨sql, emits, rfl⟩ := Statement.alone_ok.mp is
      exact Statement.terminated_of_emit emits
    · rw [List.forall₂_map_right_iff]
      exact List.forall₂_same.mpr fun written _ => written.strips_stripped
    · rw [List.forall₂_map_right_iff]
      refine alone.imp fun statement written is => ?_
      obtain ⟨sql, emits, rfl⟩ := Statement.alone_ok.mp is
      exact Statement.unterminated_eq_empty_iff_isSilent emits
    · simp only [Emitted.mappers, List.map_map]
      rfl
    · exact fun emitted _ => emitted.text_eq_intercalate

end Script

namespace Handover

open Consume

/-- The sequence has a semicolon in its name; the queue is read for an archive, then for the caller. -/
def script : Script :=
  ⟨[.declare ⟨⟨30⟩, "@Limit", none⟩, .dropSequence ⟨⟨31⟩, "Numbers;"⟩,
    .consume { Queue.read true [Queue.column ⟨5⟩ none] none with target := some "Archive" },
    .consume (Queue.read true [Queue.column ⟨5⟩ none] none)], (Queue.context .postgres).bindings⟩

def settings : Settings := ⟨.postgres, 0, true⟩

def emit (terminated : Bool) : Except Error Emitted :=
  script.emit { settings with terminated } (Queue.context .postgres).metadata Registry.standard fun _ => default

end Handover

/-- Both semicolons behind the sequence go; the declaration and the archived read have no text in either
script, and the read for the caller has one in both. -/
theorem Script.statements_terminated_of_handover :
    ∃ full bare limit drop archived rows limit' drop' archived' rows',
      Handover.emit true = .ok full ∧ full.statements = [limit, drop, archived, rows] ∧
      Handover.emit false = .ok bare ∧ bare.statements = [limit', drop', archived', rows'] ∧
      (limit.text = "" ∧ archived.text = "" ∧ limit'.text = "" ∧ archived'.text = "") ∧
      (drop.text = "DROP SEQUENCE Numbers;;" ∧ drop'.text = "DROP SEQUENCE Numbers") ∧
      (Text.Ended rows.text ∧ ¬Text.Ended rows'.text ∧ rows'.text ≠ "") := by
  obtain ⟨full, ok, nodes, text⟩ : ∃ full, Handover.emit true = .ok full ∧
      full.statements.map (·.node) = [⟨30⟩, ⟨31⟩, ⟨3⟩, ⟨3⟩] ∧
      (full.statements[1]?).map (·.text) = some "DROP SEQUENCE Numbers;;" :=
    Except.exists_ok (by decide +kernel)
  obtain ⟨bare, okBare, nodesBare, textBare⟩ : ∃ bare, Handover.emit false = .ok bare ∧
      bare.statements.map (·.node) = [⟨30⟩, ⟨31⟩, ⟨3⟩, ⟨3⟩] ∧
      (bare.statements[1]?).map (·.text) = some "DROP SEQUENCE Numbers" :=
    Except.exists_ok (by decide +kernel)
  simp only [List.map_eq_cons_iff, List.map_eq_nil_iff] at nodes nodesBare
  obtain ⟨limit, _, whole, -, drop, _, rfl, -, archived, _, rfl, -, rows, _, rfl, -, rfl⟩ := nodes
  obtain ⟨limit', _, wholeBare, -, drop', _, rfl, -, archived', _, rfl, -, rows', _, rfl, -, rfl⟩ := nodesBare
  rw [whole] at text
  rw [wholeBare] at textBare
  obtain ⟨-, -, written⟩ := Script.statements_terminated Handover.script Handover.settings
    (Consume.Queue.context .postgres).metadata Registry.standard fun _ => default
  obtain ⟨ends, other, okOther, strips, empty, -⟩ := written full ok
  obtain rfl : bare = other := Except.ok.inj (okBare.symm.trans okOther)
  rw [whole] at ends strips
  rw [wholeBare] at strips empty
  simp only [Handover.script, List.forall₂_cons] at ends strips empty
  obtain ⟨limitEnds, -, archivedEnds, rowsEnds, -⟩ := ends
  obtain ⟨limitEmpty, -, archivedEmpty, rowsEmpty, -⟩ := empty
  obtain ⟨-, -, -, rowsStrips, -⟩ := strips
  refine ⟨full, bare, limit, drop, archived, rows, limit', drop', archived', rows', ok, whole, okBare,
    wholeBare, ⟨limitEnds.1.mpr rfl, archivedEnds.1.mpr (by decide), limitEmpty.mpr rfl,
      archivedEmpty.mpr (by decide)⟩, ⟨Option.some.inj text, Option.some.inj textBare⟩,
    rowsEnds.2 (by decide), rowsStrips.text.stops, mt rowsEmpty.mp (by decide)⟩

end SqlEmit
