import SqlEmit.Json

/-! Operators and kinds of clauses, with their names in documents and their SQL spelling. -/
namespace SqlEmit

inductive LogicalOp where
  | and | or
  deriving DecidableEq

instance : Named LogicalOp where
  all := [.and, .or]
  name
    | .and => "And"
    | .or => "Or"

def LogicalOp.text : LogicalOp → String
  | .and => "AND"
  | .or => "OR"

inductive ArithmeticOp where
  | add | sub | mul | div | rem
  deriving DecidableEq

instance : Named ArithmeticOp where
  all := [.add, .sub, .mul, .div, .rem]
  name
    | .add => "Add"
    | .sub => "Sub"
    | .mul => "Mul"
    | .div => "Div"
    | .rem => "Rem"

def ArithmeticOp.text : ArithmeticOp → String
  | .add => "+"
  | .sub => "-"
  | .mul => "*"
  | .div => "/"
  | .rem => "%"

inductive UnaryOp where
  | minus | not
  deriving DecidableEq

instance : Named UnaryOp where
  all := [.minus, .not]
  name
    | .minus => "Minus"
    | .not => "Not"

def UnaryOp.text : UnaryOp → String
  | .minus => "-"
  | .not => "NOT "

inductive CompareOp where
  | eq | ne | lt | lte | gt | gte | like | isIn | is
  deriving DecidableEq

instance : Named CompareOp where
  all := [.eq, .ne, .lt, .lte, .gt, .gte, .like, .isIn, .is]
  name
    | .eq => "Eq"
    | .ne => "Ne"
    | .lt => "Lt"
    | .lte => "Lte"
    | .gt => "Gt"
    | .gte => "Gte"
    | .like => "Like"
    | .isIn => "In"
    | .is => "Is"

def CompareOp.text : CompareOp → String
  | .eq => "="
  | .ne => "<>"
  | .lt => "<"
  | .lte => "<="
  | .gt => ">"
  | .gte => ">="
  | .like => "LIKE"
  | .isIn => "IN"
  | .is => "IS"

/-- Modifier of a comparison: `NOT LIKE`, `= ANY (…)`. -/
inductive CompareModifier where
  | not | all | any
  deriving DecidableEq

instance : Named CompareModifier where
  all := [.not, .all, .any]
  name
    | .not => "Not"
    | .all => "All"
    | .any => "Any"

def CompareOp.spelled (op : CompareOp) : Option CompareModifier → String
  | none => op.text
  | some .not => if op = .is then "IS NOT" else "NOT " ++ op.text
  | some .all => op.text ++ " ALL"
  | some .any => op.text ++ " ANY"

/-- `append` marks rows that a stream processor adds later; its right operand is never part of
the SQL. -/
inductive JoinKind where
  | inner | left | right | full | cross | crossApply | outerApply | append
  deriving DecidableEq

instance : Named JoinKind where
  all := [.inner, .left, .right, .full, .cross, .crossApply, .outerApply, .append]
  name
    | .inner => "Inner"
    | .left => "Left"
    | .right => "Right"
    | .full => "Full"
    | .cross => "Cross"
    | .crossApply => "CrossApply"
    | .outerApply => "OuterApply"
    | .append => "Append"

def JoinKind.text : JoinKind → String
  | .inner => "INNER"
  | .left => "LEFT"
  | .right => "RIGHT"
  | .full => "FULL"
  | .cross => "CROSS"
  | .crossApply => "CROSS APPLY"
  | .outerApply => "OUTER APPLY"
  | .append => "APPEND"

inductive FrameKind where
  | rows | range
  deriving DecidableEq

instance : Named FrameKind where
  all := [.rows, .range]
  name
    | .rows => "Rows"
    | .range => "Range"

def FrameKind.text : FrameKind → String
  | .rows => "ROWS"
  | .range => "RANGE"

inductive FrameBound where
  | unboundedPreceding
  | preceding (rows : UInt32)
  | currentRow
  | following (rows : UInt32)
  | unboundedFollowing
  deriving DecidableEq

namespace FrameBound

def text : FrameBound → String
  | .unboundedPreceding => "UNBOUNDED PRECEDING"
  | .preceding n => toString n.toNat ++ " PRECEDING"
  | .currentRow => "CURRENT ROW"
  | .following n => toString n.toNat ++ " FOLLOWING"
  | .unboundedFollowing => "UNBOUNDED FOLLOWING"

def toJson : FrameBound → Json
  | .unboundedPreceding => .str "UnboundedPreceding"
  | .preceding n => .obj [("Preceding", .int n.toNat)]
  | .currentRow => .str "CurrentRow"
  | .following n => .obj [("Following", .int n.toNat)]
  | .unboundedFollowing => .str "UnboundedFollowing"

def decode : Decoder FrameBound :=
  Decoder.variant fun n name content =>
    match name with
    | "UnboundedPreceding" => Decoder.plain .unboundedPreceding content
    | "Preceding" => (Decoder.wrapped Decoder.uint32 n content).map .preceding
    | "CurrentRow" => Decoder.plain .currentRow content
    | "Following" => (Decoder.wrapped Decoder.uint32 n content).map .following
    | "UnboundedFollowing" => Decoder.plain .unboundedFollowing content
    | _ => none

end FrameBound

/-- How a literal was written in the script. -/
inductive LiteralKind where
  | boolean | number | dateTime | string | binary | uuid | entity | null
  deriving DecidableEq

instance : Named LiteralKind where
  all := [.boolean, .number, .dateTime, .string, .binary, .uuid, .entity, .null]
  name
    | .boolean => "Boolean"
    | .number => "Number"
    | .dateTime => "DateTime"
    | .string => "String"
    | .binary => "Binary"
    | .uuid => "Uuid"
    | .entity => "Entity"
    | .null => "Null"

end SqlEmit
