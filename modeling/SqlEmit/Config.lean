import SqlEmit.Dialect
import SqlEmit.Json
import SqlEmit.Toml.Reader

/-! Configuration of the command line. -/
namespace SqlEmit

structure Config where
  dialect : Dialect
  yearOffset : Int32
  logLevel : String
  terminateStatements : Bool
  deriving DecidableEq

namespace Config

def default : Config := ⟨.sqlServer, 0, "warn", true⟩

instance : Inhabited Config := ⟨default⟩

def toJson (config : Config) : Json :=
  .obj [("dialect", Named.toJson config.dialect), ("year_offset", .int config.yearOffset.toInt),
    ("log_level", .str config.logLevel), ("terminate_statements", .bool config.terminateStatements)]

def decode : Decoder Config :=
  Decoder.record ["dialect", "year_offset", "log_level", "terminate_statements"] fun n fields =>
    match fields with
    | [dialect, yearOffset, logLevel, terminateStatements] => do
      return {
        dialect := ← dialect.orElse default.dialect Named.decode n
        yearOffset := ← yearOffset.orElse default.yearOffset Decoder.int32 n
        logLevel := ← logLevel.orElse default.logLevel Decoder.string n
        terminateStatements := ← terminateStatements.orElse default.terminateStatements Decoder.bool n }
    | _ => none

def setting (doc : Toml.Document) (name : String) (missing : α) (read : Toml.Node → Option α) :
    Option α :=
  match doc.entries.lookup name with
  | none => some missing
  | some node => read node

def named (name : String) : Option Dialect :=
  (Named.all : List Dialect).find? (·.name = name)

/-- A dialect is given by its name, as a text or as the only entry of a table, with nothing in it. -/
def readDialect : Toml.Node → Option Dialect
  | .text name => named name
  | .table _ [(name, content)] => if content.isEmpty then named name else none
  | _ => none

def readYears : Toml.Node → Option Int32
  | .integer n => if -2147483648 ≤ n ∧ n ≤ 2147483647 then some (Int32.ofInt n) else none
  | _ => none

def readText : Toml.Node → Option String
  | .text value => some value
  | _ => none

def readBool : Toml.Node → Option Bool
  | .bool value => some value
  | _ => none

/-- Settings that the text leaves out have their defaults; other keys are ignored. -/
def ofToml (text : String) : Option Config := do
  let doc ← Toml.parse text
  return {
    dialect := ← setting doc "dialect" default.dialect readDialect
    yearOffset := ← setting doc "year_offset" default.yearOffset readYears
    logLevel := ← setting doc "log_level" default.logLevel readText
    terminateStatements := ← setting doc "terminate_statements" default.terminateStatements readBool }

end Config

end SqlEmit
