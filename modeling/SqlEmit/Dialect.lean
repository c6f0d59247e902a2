import SqlEmit.Json
import SqlEmit.Text.Case
import SqlEmit.Uuid

/-! The two backends, and how each spells literals, names and keywords. -/
namespace SqlEmit

inductive Dialect where
  | sqlServer
  | postgres
  deriving DecidableEq

namespace Dialect

instance : Named Dialect where
  all := [.sqlServer, .postgres]
  name
    | .sqlServer => "sqlserver"
    | .postgres => "postgres"

def name (dialect : Dialect) : String :=
  Named.name dialect

/-- A dialect by name in any case. A name that is not known is answered with what is wrong. -/
def ofName (name : String) : Except String Dialect :=
  let name := Text.lower name
  if name ∈ ["sqlserver", "mssql"] then .ok .sqlServer
  else if name ∈ ["postgres", "pg", "postgresql"] then .ok .postgres
  else .error ("unknown dialect: " ++ name)

def ofFlag (flag : String) : Option Dialect :=
  if flag ∈ ["sqlserver", "mssql"] then some .sqlServer
  else if flag ∈ ["postgres", "pg"] then some .postgres
  else none

def pick (dialect : Dialect) (sqlServer postgres : α) : α :=
  match dialect with
  | .sqlServer => sqlServer
  | .postgres => postgres

def boolLiteral (dialect : Dialect) (value : Bool) : String :=
  if value then dialect.pick "0x01" "TRUE" else dialect.pick "0x00" "FALSE"

def bytesLiteral (dialect : Dialect) (hex : String) : String :=
  dialect.pick ("0x" ++ hex) ("CAST(E'\\\\x" ++ hex ++ "' AS bytea)")

def uuidLiteral (dialect : Dialect) (uuid : Uuid) : String :=
  dialect.bytesLiteral uuid.storedHex

/-- A datetime from its `yyyy-MM-ddTHH:mm:ss` text. -/
def datetimeLiteral (dialect : Dialect) (text : String) : String :=
  dialect.pick ("CAST('" ++ text ++ "' AS datetime2)") ("'" ++ text ++ "'::timestamp")

/-- The digits of a literal that may start with `0x`. -/
def hexBody (literal : String) : String :=
  match literal.toList with
  | '0' :: 'x' :: digits => String.ofList digits
  | '0' :: 'X' :: digits => String.ofList digits
  | _ => literal

def binaryLiteral (dialect : Dialect) (literal : String) : String :=
  match dialect with
  | .sqlServer => literal
  | .postgres =>
    if literal = "0x00" then dialect.boolLiteral false
    else if literal = "0x01" then dialect.boolLiteral true
    else dialect.bytesLiteral (hexBody literal)

/-- The text with exactly one `mark` in front. -/
def marked (mark : Char) (name : String) : String :=
  String.ofList (mark :: Text.dropStart (· = mark) name.toList)

def tableVariableName (dialect : Dialect) (name : String) : String :=
  dialect.pick (marked '@' name) name

def temporaryTableName (dialect : Dialect) (name : String) : String :=
  dialect.pick (marked '#' name) name

/-- The rows of a table-valued parameter. -/
def userTypeSource (dialect : Dialect) (tableName identifier : String) : String :=
  dialect.pick identifier ("UNNEST(" ++ tableName ++ ")")

def nextValue (dialect : Dialect) (sequence : String) : String :=
  dialect.pick ("NEXT VALUE FOR " ++ sequence) ("nextval('" ++ Text.lower sequence ++ "')")

def intoKeyword (dialect : Dialect) : String :=
  dialect.pick "INTO" "INTO TEMPORARY TABLE"

/-- The keyword of a correlated join and the condition it needs. -/
def applyJoin (dialect : Dialect) (outer : Bool) : String × String :=
  match dialect with
  | .sqlServer => (if outer then "OUTER APPLY" else "CROSS APPLY", "")
  | .postgres => (if outer then "LEFT JOIN LATERAL" else "INNER JOIN LATERAL", " ON TRUE")

def recursiveKeyword (dialect : Dialect) : String :=
  dialect.pick "" "RECURSIVE "

/-- A clock moved by the year offset. -/
def shiftedClock (dialect : Dialect) (clock : String) (years : Int32) : String :=
  if years = 0 then clock
  else
    let offset := toString years.toInt
    dialect.pick ("DATEADD(year, " ++ offset ++ ", " ++ clock ++ ")")
      ("(" ++ clock ++ " + INTERVAL '" ++ offset ++ " years')")

end Dialect

end SqlEmit
