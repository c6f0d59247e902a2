import SqlEmit.Catalog
import SqlEmit.Dialect
import SqlEmit.Error
import SqlEmit.Script.Expr
import SqlEmit.Text.Visible

/-! Functions that scripts may call. Builtins are known by name; further names can be registered for
the function that gives the type code of an entity and for functions of the caller. -/
namespace SqlEmit

def builtins : List String := [
  "COUNT", "SUM", "AVG", "MIN", "MAX", "STRING_AGG",
  "ROW_NUMBER", "RANK", "DENSE_RANK", "NTILE", "LAG", "LEAD", "FIRST_VALUE", "LAST_VALUE",
  "ISNULL", "COALESCE", "NULLIF", "SUBSTRING", "REPLACE", "CONCAT", "CONCAT_WS", "LOWER", "UPPER",
  "LTRIM", "RTRIM", "TRIM", "CHARLENGTH", "DATALENGTH", "OCTET_LENGTH", "ABS", "ROUND", "FLOOR",
  "CEILING", "EXISTS",
  "NOW", "UTC", "NEWUUID", "VECTOR"]

/-- Builtin names are compared up to ASCII case. -/
def isBuiltin (name : String) : Bool :=
  builtins.any (Text.sameName · name)

/-- A call whose value the caller binds to a parameter. -/
structure Deferred where
  /-- The function, in upper case. -/
  name : String
  /-- The parameter. -/
  target : String
  args : List Expr

/-- What a registered function sees of the statement at hand. -/
structure Scope where
  dialect : Dialect
  bindings : Bindings
  metadata : Metadata
  yearOffset : Int32
  hints : Dict NodeId String
  overrides : Dict NodeId (List PhysicalColumn)

inductive CallPart where
  | code (text : String)
  /-- The argument at that place, or nothing if there is none. -/
  | argument (place : Nat)
  | window

/-- What a registered function writes for a call. If it leaves the value to the caller, the parameter
stands between the two lists. -/
structure CallText where
  before : List CallPart
  deferred : Option Deferred
  after : List CallPart

inductive Extension where
  /-- The type code of an entity. -/
  | typeOf
  /-- A function of the caller. It reads the scope of the call and changes nothing in it. -/
  | custom (write : Scope → Call → Except Error CallText)

/-- Registered functions by upper-case name. -/
structure Registry where
  functions : Dict String Extension

namespace Registry

def empty : Registry := ⟨Dict.empty⟩

def register (registry : Registry) (name : String) (extension : Extension) : Registry :=
  ⟨registry.functions.insert (Text.upper name) extension⟩

/-- The registry that scripts are emitted with by default. -/
def standard : Registry := empty.register "TYPEOF" .typeOf

instance : Inhabited Registry := ⟨standard⟩

def find? (registry : Registry) (name : String) : Option Extension :=
  registry.functions.find? (Text.upper name)

def contains (registry : Registry) (name : String) : Bool :=
  (registry.find? name).isSome

def names (registry : Registry) : List String :=
  registry.functions.entries.map (·.1)

/-- The registry on one line, its names in code point order. -/
def listing (registry : Registry) : String :=
  "FunctionRegistry \x7b functions: [" ++
    ", ".intercalate ((registry.names.mergeSort fun a b => decide (a ≤ b)).map Text.visible) ++ "] \x7d"

end Registry

end SqlEmit
