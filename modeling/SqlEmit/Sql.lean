import SqlEmit.Dialect
import SqlEmit.Text

/-! SQL text as a sequence of pieces. A piece remembers what it stands for, so the parts of a
text that matter to a statement can be found again in it. -/
namespace SqlEmit

inductive Piece where
  | code (text : String)
  /-- A string literal for a value. -/
  | quoted (value : String)
  /-- A parameter whose value the caller supplies. -/
  | parameter (name : String)
  /-- The next value of a sequence. -/
  | nextValue (dialect : Dialect) (sequence : String)
  /-- A table that rows are read from. -/
  | table (name : String) (asName : Option String) (hint : Option String)
  /-- The clause that locks the rows of a select. -/
  | rowLock (clause : String)
  deriving DecidableEq

namespace Piece

def text : Piece → String
  | .code text => text
  | .quoted value => Text.quote value
  | .parameter name => name
  | .nextValue dialect sequence => dialect.nextValue sequence
  | .table name asName hint =>
    name ++ (match asName with | none => "" | some a => " AS " ++ a) ++
      (match hint with | none => "" | some h => " " ++ h)
  | .rowLock clause => clause

end Piece

structure Sql where
  pieces : List Piece
  deriving DecidableEq

namespace Sql

def empty : Sql := ⟨[]⟩

def ofPiece (piece : Piece) : Sql := ⟨[piece]⟩

def code (text : String) : Sql := ofPiece (.code text)

instance : Coe String Sql := ⟨code⟩

instance : Append Sql := ⟨fun a b => ⟨a.pieces ++ b.pieces⟩⟩

instance : Inhabited Sql := ⟨empty⟩

def text (sql : Sql) : String :=
  String.join (sql.pieces.map Piece.text)

/-- The parts with a separator between them. -/
def join (separator : String) : List Sql → Sql
  | [] => empty
  | [part] => part
  | part :: parts => part ++ code separator ++ join separator parts

/-- The part behind a keyword, if there is one. -/
def clause (keyword : String) : Option Sql → Sql
  | none => empty
  | some part => code keyword ++ part

def parens (inner : Sql) : Sql :=
  code "(" ++ inner ++ code ")"

def cast (inner : Sql) (typeName : String) : Sql :=
  code "CAST(" ++ inner ++ code (" AS " ++ typeName ++ ")")

def string (dialect : Dialect) (value : String) : Sql :=
  dialect.pick (ofPiece (.quoted value)) (cast (ofPiece (.quoted value)) "mvarchar")

@[simp] theorem pieces_append (a b : Sql) : (a ++ b).pieces = a.pieces ++ b.pieces := rfl

@[simp] theorem pieces_code (text : String) : (code text).pieces = [.code text] := rfl

@[simp] theorem pieces_empty : empty.pieces = [] := rfl

end Sql

end SqlEmit
