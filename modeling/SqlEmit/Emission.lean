import SqlEmit.Context
import SqlEmit.RowMapper
import SqlEmit.Script.Decode
import SqlEmit.Script.Encode
import SqlEmit.Statement

/-! The SQL of a whole script, statement by statement. A session keeps the changes of the statement at hand and
the calls it has deferred; finishing the statement hands the calls out and drops both. -/
namespace SqlEmit

structure Session where
  context : Context
  deferred : List Deferred

namespace Session

def start (context : Context) : Session :=
  ⟨context, []⟩

/-- Runs a computation and keeps the calls it defers, also if it fails. -/
def run (session : Session) (action : Context → Emit α) : Except Error α × Session :=
  let outcome := action session.context
  (outcome.result, { session with deferred := session.deferred ++ outcome.deferred })

def defer (session : Session) (call : Deferred) : Session :=
  { session with deferred := session.deferred ++ [call] }

/-- Keeps what the statement at hand changes. -/
def change (session : Session) (changed : Context → Context) : Session :=
  { session with context := changed session.context }

def finish (session : Session) : List Deferred × Session :=
  (session.deferred, ⟨session.context.settled, []⟩)

end Session

structure Settings where
  dialect : Dialect
  yearOffset : Int32
  /-- Keeps the semicolons at the end of statements. -/
  terminated : Bool
  deriving DecidableEq

/-- The settings of a backend; datetimes are moved as the catalog says. -/
def Settings.ofCatalog (dialect : Dialect) (catalog : Catalog) : Settings :=
  ⟨dialect, catalog.yearOffset, true⟩

structure EmittedStatement where
  node : NodeId
  /-- Empty for declarations and for reads of a stream processor. -/
  text : String
  mapper : RowMapper
  /-- Calls whose values the caller binds as parameters. -/
  functions : List Deferred

structure Emitted where
  statements : List EmittedStatement

namespace Emitted

def mappers (emitted : Emitted) : List RowMapper :=
  (emitted.statements.map (·.mapper)).filter fun mapper => !mapper.isEmpty

/-- The texts that are not empty, each on lines of its own. -/
def text (emitted : Emitted) : String :=
  "\n".intercalate ((emitted.statements.map (·.text)).filter fun text => !text.isEmpty)

end Emitted

/-- The text without the semicolons at its end. -/
def unterminated (text : String) : String :=
  String.ofList (Text.dropEnd (· = ';') text.toList)

/-- What writes a statement in a session: the builder of the statement with the functions that it calls. It may
leave anything in the session. -/
abbrev Writer := Session → Statement → Except Error Sql × Session

/-- The builders with the registered functions. -/
def Statement.write : Writer := fun session statement =>
  let (result, session) := session.run fun cx => statement.emit cx
  (result, session.change fun cx => statement.changed cx)

def Session.statement (write : Writer) (terminated : Bool) (session : Session) (statement : Statement) :
    Except Error (EmittedStatement × Session) := do
  let (result, session) := write session statement
  let text := (← result).text
  let mapper := RowMapper.ofStatement session.context.bindings session.context.yearOffset statement
  let (functions, session) := session.finish
  return ({
    node := statement.id
    text := if terminated then text else unterminated text
    mapper
    functions }, session)

/-- Writes statements in order; the first failure ends the script. -/
def Session.statements (write : Writer) (terminated : Bool) :
    Session → List Statement → Except Error (List EmittedStatement)
  | _, [] => .ok []
  | session, statement :: rest => do
    let (emitted, session) ← session.statement write terminated statement
    return emitted :: (← session.statements write terminated rest)

namespace Script

def context (script : Script) (settings : Settings) (metadata : Metadata) (registry : Registry)
    (fresh : NodeId → Uuid) : Context :=
  .ofStatements settings.dialect script.bindings metadata registry settings.yearOffset fresh
    script.statements

def emitBy (write : Writer) (script : Script) (settings : Settings) (metadata : Metadata)
    (registry : Registry) (fresh : NodeId → Uuid) : Except Error Emitted := do
  let session := Session.start (script.context settings metadata registry fresh)
  return ⟨← session.statements write settings.terminated script.statements⟩

def emit (script : Script) (settings : Settings) (metadata : Metadata) (registry : Registry)
    (fresh : NodeId → Uuid) : Except Error Emitted :=
  script.emitBy Statement.write settings metadata registry fresh

end Script

def Deferred.toJson (call : Deferred) : Json :=
  .obj [("name", .str call.name), ("target", .str call.target), ("args", .ofList Expr.toJson call.args)]

def Deferred.decode : Decoder Deferred :=
  Decoder.record ["name", "target", "args"] fun n fields =>
    match fields with
    | [name, target, args] => do
      return {
        name := ← name.required Decoder.string n
        target := ← target.required Decoder.string n
        args := ← args.required (Decoder.list Expr.decode) n }
    | _ => none

def EmittedStatement.toJson (statement : EmittedStatement) : Json :=
  .obj [("node", statement.node.toJson), ("script", .str statement.text),
    ("mapper", statement.mapper.toJson), ("functions", .ofList Deferred.toJson statement.functions)]

def Emitted.toJson (emitted : Emitted) : Json :=
  .obj [("statements", .ofList EmittedStatement.toJson emitted.statements),
    ("mappers", .ofList RowMapper.toJson emitted.mappers), ("script", .str emitted.text)]

end SqlEmit
