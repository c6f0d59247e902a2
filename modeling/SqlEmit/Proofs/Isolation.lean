import Mathlib.Logic.Relation
import SqlEmit.Emission
import SqlEmit.Proofs.Consume.Shape

/-! A script is written statement by statement, each as if it stood alone. Builders change hints and mappings and
defer calls; finishing a statement drops all three, so every statement starts from the context of the script. The
functions that a statement calls get the whole session and are a parameter here: what is asked of them is that they
leave the script's part of the context alone. -/
namespace SqlEmit

open Relation

/-- What the functions that a script may call can do to the session at hand, by name. They may set every field of
it, those that last for the whole script too. -/
abbrev Effects := String → Session → Session → Prop

/-- Functions that change what finishing a statement drops, and nothing else. -/
def Effects.KeepScript (effects : Effects) : Prop :=
  ∀ name session next, effects name session next → next.context.settled = session.context.settled

/-- What can happen to a session while a statement is written. -/
inductive Session.Step (effects : Effects) : Session → Session → Prop where
  | hint (session : Session) (table : NodeId) (hint : String) :
      Step effects session (session.change (·.withHint table hint))
  | mapping (session : Session) (id : NodeId) (mapping : List PhysicalColumn) :
      Step effects session (session.change (·.withMapping id mapping))
  | deferred (session : Session) (call : Deferred) : Step effects session (session.defer call)
  | function {session next : Session} {name : String} (runs : effects name session next) :
      Step effects session next

/-- A writer that leaves traces of these kinds only. -/
def Writer.Within (write : Writer) (effects : Effects) : Prop :=
  ∀ session statement, ReflTransGen (Session.Step effects) session (write session statement).2

/-- A writer that leaves the script's part of the context as it was, also if it fails. -/
def Writer.KeepsScript (write : Writer) : Prop :=
  ∀ session statement, (write session statement).2.context.settled = session.context.settled

namespace Session

variable {effects : Effects} {session next : Session}

theorem Step.settled (keep : effects.KeepScript) (step : Step effects session next) :
    next.context.settled = session.context.settled := by
  cases step with
  | hint table hint => rfl
  | mapping id mapping => rfl
  | deferred call => rfl
  | function runs => exact keep _ session next runs

theorem settled_of_steps (keep : effects.KeepScript) (steps : ReflTransGen (Step effects) session next) :
    next.context.settled = session.context.settled := by
  induction steps with
  | refl => rfl
  | tail _ last ih => exact (last.settled keep).trans ih

theorem steps_defer (session : Session) (calls : List Deferred) :
    ReflTransGen (Step effects) session { session with deferred := session.deferred ++ calls } := by
  induction calls generalizing session with
  | nil => rw [List.append_nil]
  | cons call calls ih =>
    have onward := ih (session.defer call)
    rw [Session.defer, List.append_assoc] at onward
    exact .head (.deferred session call) onward

theorem steps_withMappings (session : Session) (mappings : List (NodeId × List PhysicalColumn)) :
    ReflTransGen (Step effects) session (session.change (·.withMappings mappings)) := by
  induction mappings generalizing session with
  | nil => exact .refl
  | cons entry mappings ih => exact .head (.mapping session entry.1 entry.2) (ih _)

end Session

theorem Writer.Within.keepsScript {write : Writer} {effects : Effects} (within : write.Within effects)
    (keep : effects.KeepScript) : write.KeepsScript :=
  fun session statement => Session.settled_of_steps keep (within session statement)

section Builders

variable {effects : Effects} (session : Session)

theorem Output.steps_images (image : String) (output : Option Output) :
    ReflTransGen (Session.Step effects) session (session.change (Output.images · image output)) := by
  cases output with
  | none => exact .refl
  | some output => exact Session.steps_withMappings session _

theorem Upsert.steps_changed (s : Upsert) :
    ReflTransGen (Session.Step effects) session (session.change s.changed) := by
  simp only [Session.change, Upsert.changed]
  split
  · exact Session.steps_withMappings session _
  · exact .refl

theorem Consume.steps_changed (s : Consume) :
    ReflTransGen (Session.Step effects) session (session.change s.changed) := by
  simp only [Session.change, Consume.changed]
  split
  · exact .single (.hint session _ _)
  · exact .refl

theorem Statement.steps_changed (statement : Statement) :
    ReflTransGen (Session.Step effects) session (session.change statement.changed) := by
  cases statement with
  | update s =>
    simp only [Session.change, Statement.changed]
    cases session.context.dialect with
    | sqlServer => exact Output.steps_images session "inserted" s.output
    | postgres => exact .refl
  | delete s =>
    simp only [Session.change, Statement.changed]
    cases session.context.dialect with
    | sqlServer => exact Output.steps_images session "deleted" s.output
    | postgres => exact .refl
  | upsert s => exact Upsert.steps_changed session s
  | consume s => exact Consume.steps_changed session s
  | _ => exact .refl

end Builders

/-- The builders set hints, map columns and defer calls. Registered functions that only read the scope of their call
do no more than that. -/
theorem Statement.write_within (effects : Effects) : Writer.Within Statement.write effects := by
  intro session statement
  exact (Session.steps_defer session _).trans (Statement.steps_changed _ statement)

theorem Statement.write_keepsScript : Writer.KeepsScript Statement.write :=
  (Statement.write_within fun _ _ _ => False).keepsScript fun _ _ _ => False.elim

namespace Session

variable {write : Writer}

/-- What follows a statement starts from a settled context. -/
theorem statement_eq (keeps : write.KeepsScript) (terminated : Bool) (session : Session)
    (statement : Statement) :
    session.statement write terminated statement =
      (write session statement).1.map fun sql =>
        ({ node := statement.id
           text := if terminated then sql.text else unterminated sql.text
           mapper := RowMapper.ofStatement session.context.bindings session.context.yearOffset statement
           functions := (write session statement).2.deferred },
          start session.context.settled) := by
  have kept := keeps session statement
  have bindings : (write session statement).2.context.bindings = session.context.bindings := by
    simpa only [Context.settled] using congrArg Context.bindings kept
  have years : (write session statement).2.context.yearOffset = session.context.yearOffset := by
    simpa only [Context.settled] using congrArg Context.yearOffset kept
  cases outcome : (write session statement).1 with
  | error e => simp [Session.statement, outcome, bind, Except.bind, Except.map]
  | ok sql =>
    simp [Session.statement, finish, start, outcome, kept, bindings, years, bind, pure, Except.bind,
      Except.pure, Except.map]

end Session

/-- A statement on its own, in a session that starts with it. -/
def Statement.aloneBy (write : Writer) (cx : Context) (terminated : Bool) (statement : Statement) :
    Except Error EmittedStatement :=
  ((Session.start cx).statement write terminated statement).map Prod.fst

def Statement.alone (cx : Context) (terminated : Bool) (statement : Statement) :
    Except Error EmittedStatement :=
  statement.aloneBy Statement.write cx terminated

def Statement.emitted (cx : Context) (terminated : Bool) (statement : Statement) (sql : Sql) :
    EmittedStatement where
  node := statement.id
  text := if terminated then sql.text else unterminated sql.text
  mapper := RowMapper.ofStatement cx.bindings cx.yearOffset statement
  functions := (statement.emit cx).deferred

theorem Statement.alone_eq (cx : Context) (terminated : Bool) (statement : Statement) :
    statement.alone cx terminated =
      (statement.emit cx).result.map (statement.emitted cx terminated) := by
  rw [Statement.alone, Statement.aloneBy, Session.statement_eq Statement.write_keepsScript, Session.start]
  simp only [Statement.write, Session.run, Session.change]
  cases (statement.emit cx).result <;> rfl

theorem Statement.alone_ok {cx : Context} {terminated : Bool} {statement : Statement}
    {emitted : EmittedStatement} : statement.alone cx terminated = .ok emitted ↔
      ∃ sql, (statement.emit cx).result = .ok sql ∧ statement.emitted cx terminated sql = emitted := by
  rw [Statement.alone_eq]
  cases (statement.emit cx).result with
  | error e => simp [Except.map]
  | ok sql => simp [Except.map]

namespace Session

variable {cx : Context} {terminated : Bool} {write : Writer}

/-- A statement that is finished leaves the session as it found it. -/
theorem start_of_statement (keeps : write.KeepsScript) (settled : cx.settled = cx) {statement : Statement}
    {emitted : EmittedStatement} {next : Session}
    (written : (start cx).statement write terminated statement = .ok (emitted, next)) : next = start cx := by
  rw [statement_eq keeps] at written
  cases outcome : (write (start cx) statement).1 with
  | error e => simp [outcome, Except.map] at written
  | ok sql =>
    simp only [outcome, Except.map, Except.ok.injEq, Prod.mk.injEq] at written
    rw [← written.2]
    exact congrArg start settled

/-- Statements in order are statements on their own; the first failure ends both. -/
theorem statements_eq (keeps : write.KeepsScript) (settled : cx.settled = cx) (statements : List Statement) :
    (start cx).statements write terminated statements =
      statements.mapM (Statement.aloneBy write cx terminated) := by
  induction statements with
  | nil => rfl
  | cons statement rest ih =>
    rw [Session.statements, List.mapM_cons, ← ih, Statement.aloneBy]
    cases outcome : (start cx).statement write terminated statement with
    | error e => rfl
    | ok written =>
      obtain ⟨emitted, next⟩ := written
      obtain rfl := start_of_statement keeps settled outcome
      rfl

end Session

namespace Script

variable {script : Script} {settings : Settings} {metadata : Metadata} {registry : Registry}
  {fresh : NodeId → Uuid} {write : Writer}

theorem settled_context (script : Script) (settings : Settings) (metadata : Metadata) (registry : Registry)
    (fresh : NodeId → Uuid) :
    (script.context settings metadata registry fresh).settled =
      script.context settings metadata registry fresh := rfl

theorem emitBy_eq (keeps : write.KeepsScript) :
    script.emitBy write settings metadata registry fresh =
      (script.statements.mapM
        (Statement.aloneBy write (script.context settings metadata registry fresh) settings.terminated)).map
        Emitted.mk := by
  rw [← Session.statements_eq keeps (script.settled_context settings metadata registry fresh), Script.emitBy]
  cases (Session.start (script.context settings metadata registry fresh)).statements write
    settings.terminated script.statements <;> rfl

theorem emitBy_ok (keeps : write.KeepsScript) {emitted : Emitted} :
    script.emitBy write settings metadata registry fresh = .ok emitted ↔
      List.Forall₂ (fun statement written =>
        statement.aloneBy write (script.context settings metadata registry fresh) settings.terminated =
          .ok written)
        script.statements emitted.statements := by
  rw [emitBy_eq keeps, ← Except.mapM_ok]
  cases script.statements.mapM
    (Statement.aloneBy write (script.context settings metadata registry fresh) settings.terminated) with
  | error e => simp [Except.map]
  | ok written =>
    obtain ⟨statements⟩ := emitted
    simp [Except.map]

theorem emit_eq (script : Script) (settings : Settings) (metadata : Metadata) (registry : Registry)
    (fresh : NodeId → Uuid) :
    script.emit settings metadata registry fresh =
      (script.statements.mapM
        (Statement.alone (script.context settings metadata registry fresh) settings.terminated)).map
        Emitted.mk :=
  emitBy_eq Statement.write_keepsScript

/-- A script that is written consists of its statements, each written on its own. -/
theorem emit_ok {emitted : Emitted} :
    script.emit settings metadata registry fresh = .ok emitted ↔
      List.Forall₂ (fun statement written =>
        statement.alone (script.context settings metadata registry fresh) settings.terminated = .ok written)
        script.statements emitted.statements :=
  emitBy_ok Statement.write_keepsScript

end Script

namespace Backlog

open Consume

def take : Statement := .consume (Queue.read false [Queue.column ⟨5⟩ none] none)

def count (table : TableRef) : Statement :=
  .select ⟨⟨20⟩, [], .select ⟨⟨21⟩, false, none, [⟨⟨22⟩, .literal ⟨.number, "1"⟩, some "One"⟩], none,
    some (.table table), none, [], none, none⟩⟩

def script (table : TableRef) : Script :=
  ⟨[take, count table], (Queue.context .sqlServer).bindings⟩

def settings : Settings := ⟨.sqlServer, 0, true⟩

def context (table : TableRef) : Context :=
  (script table).context settings (Queue.context .sqlServer).metadata Registry.standard fun _ => default

def emit (table : TableRef) : Except Error Emitted :=
  (script table).emit settings (Queue.context .sqlServer).metadata Registry.standard fun _ => default

/-- The queue, by the same node as in the statement that empties it. -/
def queue : TableRef := ⟨⟨1⟩, "Queue", some "q"⟩

def absent : TableRef := ⟨⟨30⟩, "Absent", none⟩

/-- Locks the queue and leaves a value to the caller. -/
def lock (session : Session) : Session :=
  (session.change (·.withHint queue.id "WITH (UPDLOCK)")).defer ⟨"TOUCH", "@TOUCH", []⟩

/-- Moves all datetimes that follow. -/
def shift (session : Session) : Session :=
  session.change fun cx => { cx with yearOffset := cx.yearOffset + 2000 }

end Backlog

end SqlEmit
