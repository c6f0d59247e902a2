import SqlEmit.Config
import SqlEmit.Emission
import SqlEmit.Json.Writer
import SqlEmit.Script.Decode
import SqlEmit.Text

/-! The command line without its input and output: arguments, settings and printed text. -/
namespace SqlEmit.Command

inductive Report where
  /-- The SQL. -/
  | sql
  /-- Each statement with its mapper and its parameters. -/
  | explanation
  deriving DecidableEq

structure ScriptArgs where
  /-- The path of the script; `-` is standard input. -/
  script : String
  catalog : Option String
  dialect : Option Dialect
  yearOffset : Option Int32
  json : Bool
  deriving DecidableEq

inductive Action where
  | script (report : Report) (args : ScriptArgs)
  | dialects
  deriving DecidableEq

structure Invocation where
  /-- The path of the configuration. -/
  config : Option String
  action : Action
  deriving DecidableEq

structure Options where
  words : List String
  config : Option String
  catalog : Option String
  dialect : Option String
  yearOffset : Option String
  json : Bool

namespace Options

def empty : Options := ⟨[], none, none, none, none, false⟩

/-- Sets an option that has a value; each may be given once. -/
def set (options : Options) (name value : String) : Option Options :=
  if name ∈ ["--config", "-c"] then
    if options.config.isSome then none else some { options with config := some value }
  else if name ∈ ["--metadata", "-m"] then
    if options.catalog.isSome then none else some { options with catalog := some value }
  else if name ∈ ["--dialect", "-d"] then
    if options.dialect.isSome then none else some { options with dialect := some value }
  else if name ∈ ["--year-offset", "-y"] then
    if options.yearOffset.isSome then none else some { options with yearOffset := some value }
  else none

def isOption (word : String) : Bool :=
  word.toList.head? = some '-' && word ≠ "-"

/-- `--name=value` as two words. -/
def splitAssigned (word : String) : Option (String × String) :=
  let cs := word.toList
  match cs.dropWhile (· ≠ '=') with
  | [] => none
  | _ :: value => some (String.ofList (cs.takeWhile (· ≠ '=')), String.ofList value)

def read (options : Options) : List String → Option Options
  | [] => some options
  | word :: rest =>
    if word = "--json" then
      if options.json then none else read { options with json := true } rest
    else if isOption word then
      match splitAssigned word with
      | some (name, value) => (options.set name value).bind (read · rest)
      | none =>
        match rest with
        | [] => none
        | value :: rest => (options.set word value).bind (read · rest)
    else read { options with words := options.words ++ [word] } rest

/-- A value that has to be readable if it is given. -/
def readValue (read : String → Option α) : Option String → Option (Option α)
  | none => some none
  | some text => (read text).map some

def scriptArgs (options : Options) (script : String) : Option ScriptArgs := do
  return {
    script
    catalog := options.catalog
    dialect := ← readValue Dialect.ofFlag options.dialect
    yearOffset := ← readValue (fun text => Literal.readInt32 text.toList) options.yearOffset
    json := options.json }

def isBare (options : Options) : Bool :=
  options.catalog.isNone && options.dialect.isNone && options.yearOffset.isNone && !options.json

def action (options : Options) : Option Action :=
  match options.words with
  | ["transpile", script] => (options.scriptArgs script).map (.script .sql)
  | ["explain", script] => (options.scriptArgs script).map (.script .explanation)
  | ["dialects"] => if options.isBare then some .dialects else none
  | _ => none

end Options

def parse (args : List String) : Option Invocation := do
  let options ← Options.empty.read args
  return ⟨options.config, ← options.action⟩

inductive Failure where
  | usage
  | config
  | unreadable
  | script
  | catalog
  | emission (error : Error)
  deriving DecidableEq

/-- Bad arguments and configurations are told apart from bad scripts. -/
def Failure.exitCode : Failure → UInt32
  | .usage | .config => 2
  | _ => 1

def Failure.message : Failure → String
  | .usage => "invalid arguments"
  | .config => "invalid configuration"
  | .unreadable => "failed to read the script"
  | .script => "invalid script model"
  | .catalog => "failed to load metadata"
  | .emission error => error.message

/-- The configuration in force. A file that is named comes first and must be readable; without one
the file of the directory is taken, then that of the user. -/
def loadConfig (named : Option (Option String)) (directory user : Option String) :
    Except Failure Config :=
  let read (text : String) : Except Failure Config :=
    match Config.ofToml text with
    | some config => .ok config
    | none => .error .config
  match named with
  | some none => .error .config
  | some (some text) => read text
  | none =>
    match directory.or user with
    | some text => read text
    | none => .ok .default

/-- The settings of a run. The year offset of the catalog stands in for one that neither the
arguments nor the configuration give. -/
def settings (config : Config) (args : ScriptArgs) (catalog : Catalog) : Settings where
  dialect := args.dialect.getD config.dialect
  yearOffset := args.yearOffset.getD <|
    if config.yearOffset = 0 then catalog.yearOffset else config.yearOffset
  terminated := config.terminateStatements

def loadCatalog : Option (Option String) → Except Failure Catalog
  | none => .ok .empty
  | some none => .error .catalog
  | some (some text) =>
    match Catalog.parse text with
    | some catalog => .ok catalog
    | none => .error .catalog

def loadScript : Option String → Except Failure Script
  | none => .error .unreadable
  | some text =>
    match Script.parse text with
    | some script => .ok script
    | none => .error .script

def explainMapper (mapper : RowMapper) : List String :=
  if mapper.isEmpty then []
  else
    ("  Mapper: " ++ mapper.name ++ " (" ++ toString mapper.columnCount ++ " columns)") ::
      mapper.properties.map fun property =>
        "    • " ++ property.name ++ " " ++ ", ".intercalate (property.columns.map (·.name))

def explainStatement (number : Nat) (statement : EmittedStatement) : List String :=
  ["", "[" ++ toString number ++ "] node " ++ statement.node.text] ++
    (if statement.text.isEmpty then ["  (no SQL emitted)"]
      else (Text.lines statement.text).map ("  " ++ ·)) ++
    explainMapper statement.mapper ++
    statement.functions.map fun call => "  Deferred: " ++ call.name ++ " -> " ++ call.target

def explainFrom : Nat → List EmittedStatement → List String
  | _, [] => []
  | number, statement :: rest => explainStatement number statement ++ explainFrom (number + 1) rest

def printed (lines : List String) : String :=
  String.join (lines.map (· ++ "\n"))

def explain (dialect : Dialect) (emitted : Emitted) : String :=
  printed (("Dialect: " ++ dialect.name) :: explainFrom 1 emitted.statements)

def padRight (width : Nat) (text : String) : String :=
  text ++ String.ofList (List.replicate (width - text.length) ' ')

def rule (width : Nat) : String :=
  String.ofList (List.replicate width '─')

def tableRow (first second : Nat) : String × String × String → String
  | (a, b, c) => padRight first a ++ " " ++ padRight second b ++ " " ++ c

def constructs : List (String × String × String) := [
  ("CONSUME", "DELETE ... OUTPUT deleted.*", "DELETE ... USING ... RETURNING"),
  ("CONSUME locking", "ROWLOCK, READPAST", "FOR UPDATE SKIP LOCKED"),
  ("UPSERT", "UPDATE WITH (UPDLOCK) + INSERT", "UPDATE + INSERT"),
  ("TOP n", "SELECT TOP (n)", "LIMIT n"),
  ("CROSS APPLY", "CROSS APPLY", "INNER JOIN LATERAL ... ON TRUE"),
  ("DECLARE @t", "DECLARE @t TABLE", "CREATE TEMPORARY TABLE"),
  ("CREATE TYPE", "AS TABLE", "composite type"),
  ("APPLY SEQUENCE", "INSTEAD OF INSERT trigger", "BEFORE INSERT trigger"),
  ("VECTOR(seq)", "NEXT VALUE FOR seq", "nextval('seq')"),
  ("ISNULL", "ISNULL", "COALESCE"),
  ("CHARLENGTH", "LEN", "LENGTH")]

def dialectTable : String :=
  printed <| [tableRow 12 16 ("Dialect", "Aliases", "Backend"), rule 50,
    tableRow 12 16 ("sqlserver", "mssql", "Microsoft SQL Server (T-SQL)"),
    tableRow 12 16 ("postgres", "pg", "PostgreSQL"), "",
    tableRow 16 32 ("Construct", "sqlserver", "postgres"), rule 80] ++
    constructs.map (tableRow 16 32)

def report (kind : Report) (json : Bool) (dialect : Dialect) (emitted : Emitted) : String :=
  match kind, json with
  | .sql, false => emitted.text ++ "\n"
  | .sql, true => emitted.toJson.pretty ++ "\n"
  | .explanation, false => explain dialect emitted
  | .explanation, true => (Json.ofList EmittedStatement.toJson emitted.statements).pretty ++ "\n"

/-- Runs an action on the texts of its files; a file that could not be read is `none`. -/
def run (action : Action) (config : Config) (scriptText : Option String)
    (catalogText : Option (Option String)) (fresh : NodeId → Uuid) : Except Failure String :=
  match action with
  | .dialects => .ok dialectTable
  | .script kind args => do
    let script ← loadScript scriptText
    let catalog ← loadCatalog catalogText
    let settings := settings config args catalog
    match script.emit settings catalog .standard fresh with
    | .ok emitted => return report kind args.json settings.dialect emitted
    | .error error => .error (.emission error)

end SqlEmit.Command
