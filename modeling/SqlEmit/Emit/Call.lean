import SqlEmit.Context
import SqlEmit.Literal

/-! Function calls: builtins as each backend spells them, and calls whose value is a parameter. -/
namespace SqlEmit

inductive CallForm where
  /-- Text that needs no written arguments. -/
  | fixed (sql : Sql)
  /-- A call of that name with all arguments. -/
  | named (name : String)
  /-- The number of bytes of the first argument. -/
  | byteLength
  | custom (text : CallText)

namespace Call

/-- The sequence that `VECTOR(sequence)` draws from. -/
def sequenceName (call : Call) : Except Error String :=
  match call.args with
  | .literal literal :: _ => .ok literal.text
  | .column ref :: _ => .ok ref.identifier
  | .variableRef ref :: _ => .ok ref.identifier
  | _ => .error (.sequenceArgument call.id)

def isVector (call : Call) : Bool :=
  call.isNamed "VECTOR"

/-- The parameter that carries the type code of an entity. -/
def typeParameter (identifier : String) : String :=
  "@TYPEOF_" ++ String.ofList (identifier.toList.map fun c => if c = '.' then '_' else c)

/-- PostgreSQL functions that take `text`. -/
def textFunctions : List String :=
  ["STRING_AGG", "REPLACE", "CONCAT", "CONCAT_WS", "LOWER", "UPPER", "LTRIM", "RTRIM"]

def castArguments (dialect : Dialect) (upperName : String) (args : List Sql) : List Sql :=
  match dialect with
  | .sqlServer => args
  | .postgres =>
    if upperName = "SUBSTRING" then
      match args with
      | [] => []
      | text :: rest => text.cast "varchar" :: rest
    else if upperName ∈ textFunctions then args.map (·.cast "text")
    else args

/-- The call with written arguments and window. EXISTS takes its parentheses from the subquery. -/
def written (call : Call) (dialect : Dialect) (name : String) (args : List Sql)
    (window : Option Sql) : Sql :=
  let list := Sql.code (if call.distinct then "DISTINCT " else "") ++
    Sql.join ", " (castArguments dialect call.upperName args)
  Sql.code name ++ (if call.isNamed "EXISTS" then list else list.parens) ++ Sql.clause " " window

end Call

def CallPart.write (args : List (Emit Sql)) (window : Option (Emit Sql)) : CallPart → Emit Sql
  | .code text => return Sql.code text
  | .argument place => args.getD place (return Sql.empty)
  | .window => window.getD (return Sql.empty)

/-- The call is deferred behind those of its arguments, wherever its parameter stands. -/
def CallText.write (args : List (Emit Sql)) (window : Option (Emit Sql)) (text : CallText) : Emit Sql := do
  let before ← Emit.all (text.before.map (CallPart.write args window))
  let after ← Emit.all (text.after.map (CallPart.write args window))
  match text.deferred with
  | none => return Sql.join "" before ++ Sql.join "" after
  | some call =>
    Emit.defer call
    return Sql.join "" before ++ .ofPiece (.parameter call.target) ++ Sql.join "" after

namespace Context

/-- The type code that the metadata knows for an entity. -/
def typeCode? (cx : Context) (ref : ColumnRef) : Option Int32 :=
  match cx.binding? ref.id with
  | some (.entity entity) => some entity.typeCode
  | some (.entityType code) => some code
  | _ => none

/-- The type code of an entity: a literal where it is known and positive, else a parameter. -/
def typeOf (cx : Context) (call : Call) : Emit Sql :=
  let deferred (identifier : String) : Emit Sql := do
    let target := Call.typeParameter identifier
    Emit.defer ⟨call.upperName, target, call.args⟩
    return .ofPiece (.parameter target)
  match call.args with
  | [] => Emit.fail (.typeOfWithoutArgument call.id)
  | .column ref :: _ =>
    match (cx.typeCode? ref).filter (0 < ·) with
    | some code => return cx.dialect.bytesLiteral (Literal.typeCodeHex code)
    | none => deferred ref.identifier
  | .literal literal :: _ => deferred literal.text
  | _ => Emit.fail (.typeOfArgument call.id)

def sequenceForm (cx : Context) (call : Call) : Except Error CallForm := do
  return .fixed (.ofPiece (.nextValue cx.dialect (← call.sequenceName)))

def builtinForm (cx : Context) (call : Call) : Except Error CallForm :=
  let clock (text : String) : String := cx.dialect.shiftedClock text cx.yearOffset
  match cx.dialect, call.upperName with
  | .sqlServer, "NOW" => .ok (.fixed (clock "GETDATE()"))
  | .sqlServer, "UTC" => .ok (.fixed (clock "GETUTCDATE()"))
  | .sqlServer, "NEWUUID" => .ok (.fixed "NEWID()")
  | .sqlServer, "VECTOR" => cx.sequenceForm call
  | .sqlServer, "CHARLENGTH" => .ok (.named "LEN")
  | .postgres, "NOW" => .ok (.fixed (clock "NOW()" ++ "::timestamp"))
  | .postgres, "UTC" => .ok (.fixed (clock "NOW() AT TIME ZONE 'UTC'"))
  | .postgres, "NEWUUID" => .ok (.fixed (cx.dialect.uuidLiteral (cx.fresh call.id)))
  | .postgres, "VECTOR" => cx.sequenceForm call
  | .postgres, "ISNULL" => .ok (.named "COALESCE")
  | .postgres, "CHARLENGTH" => .ok (.named "LENGTH")
  | .postgres, "DATALENGTH" => .ok .byteLength
  | _, _ => .ok (.named call.name)

def callForm (cx : Context) (call : Call) : Emit CallForm :=
  match cx.registry.find? call.name with
  | some .typeOf => do return .fixed (← cx.typeOf call)
  | some (.custom write) => do return .custom (← write cx.scope call)
  | none =>
    if isBuiltin call.name then cx.builtinForm call
    else Emit.fail (.unknownFunction call.id call.name)

def writeCall (cx : Context) (call : Call) (args : List (Emit Sql))
    (window : Option (Emit Sql)) : Emit Sql := do
  match ← cx.callForm call with
  | .fixed sql => return sql
  | .named name => return call.written cx.dialect name (← Emit.all args) (← Emit.optional window)
  | .byteLength =>
    match args with
    | [] => Emit.fail (.lengthWithoutArgument call.id)
    | value :: _ => return Sql.code "OCTET_LENGTH" ++ ((← value).cast "text").parens
  | .custom text => text.write args window

end Context

end SqlEmit
