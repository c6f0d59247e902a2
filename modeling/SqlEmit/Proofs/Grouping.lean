import SqlEmit.Proofs.Query

/-! Operator expressions as text. Operators are written without parentheses of their own, so a tree
is written back only where its grouping agrees with how tightly the operators bind. The text of such
a tree is read as symbols; the operator that binds least outside parentheses is the root, and of
several the last one. -/
namespace SqlEmit

/-- An operator between two operands; a comparison has no modifier. -/
inductive BinaryOp where
  | logical (op : LogicalOp)
  | arithmetic (op : ArithmeticOp)
  | compare (op : CompareOp)
  deriving DecidableEq

namespace BinaryOp

def text : BinaryOp → String
  | .logical op => op.text
  | .arithmetic op => op.text
  | .compare op => op.text

/-- How tightly the operator binds. -/
def level : BinaryOp → Nat
  | .logical .or => 1
  | .logical .and => 2
  | .compare _ => 4
  | .arithmetic .add | .arithmetic .sub => 5
  | .arithmetic _ => 6

/-- The least level of a left operand. Only comparisons do not associate. -/
def leftLevel : BinaryOp → Nat
  | .compare op => level (.compare op) + 1
  | op => op.level

def expr : BinaryOp → Expr → Expr → Expr
  | .logical op => .logical op
  | .arithmetic op => .arithmetic op
  | .compare op => .compare op none

theorem level_le_leftLevel (op : BinaryOp) : op.level ≤ op.leftLevel := by
  cases op <;> simp [leftLevel]

/-- No level is shared with variables, groups or operators in front of an operand. -/
theorem level_apart (op : BinaryOp) : op.level ≠ 8 ∧ op.level ≠ 3 ∧ op.level ≠ 7 := by
  rcases op with op | op | op <;> cases op <;> decide

end BinaryOp

def UnaryOp.level : UnaryOp → Nat
  | .not => 3
  | .minus => 7

namespace Expr

/-- The level of the outermost operator; what has none, or stands in parentheses, binds most. -/
def level : Expr → Nat
  | .unary op _ => op.level
  | .logical op _ _ => (BinaryOp.logical op).level
  | .arithmetic op _ _ => (BinaryOp.arithmetic op).level
  | .compare op _ _ _ => (BinaryOp.compare op).level
  | _ => 8

end Expr

/-- `@` and at least one ASCII letter or digit. -/
def IsVariableName (name : String) : Prop :=
  ∃ cs, name.toList = '@' :: cs ∧ cs ≠ [] ∧ ∀ c ∈ cs, c.isAlphanum = true

/-- Operator expressions over variables whose parentheses are where the levels ask for them. -/
inductive Expr.WellGrouped : Expr → Prop where
  | variableRef {ref : VariableRef} (named : IsVariableName ref.identifier) :
    WellGrouped (.variableRef ref)
  | group {inner : Expr} (grouped : inner.WellGrouped) : WellGrouped (.group inner)
  | unary (op : UnaryOp) {operand : Expr} (grouped : operand.WellGrouped)
    (binds : op.level ≤ operand.level) : WellGrouped (.unary op operand)
  | binary (op : BinaryOp) {left right : Expr} (leftGrouped : left.WellGrouped)
    (rightGrouped : right.WellGrouped) (leftBinds : op.leftLevel ≤ left.level)
    (rightBinds : op.level < right.level) : WellGrouped (op.expr left right)

inductive Symbol where
  | opening
  | closing
  | unary (op : UnaryOp)
  | binary (op : BinaryOp)
  | operand (name : String)
  deriving DecidableEq

namespace Symbol

def text : Symbol → String
  | .opening => "("
  | .closing => ")"
  | .unary op => op.text
  | .binary op => " " ++ op.text ++ " "
  | .operand name => name

def level : Symbol → Nat
  | .unary op => op.level
  | .binary op => op.level
  | _ => 8

/-- What the symbol adds to the number of open parentheses. -/
def turn : Symbol → Int
  | .opening => 1
  | .closing => -1
  | _ => 0

def depth : List Symbol → Int
  | [] => 0
  | s :: rest => s.turn + depth rest

theorem depth_append (a b : List Symbol) : depth (a ++ b) = depth a + depth b := by
  induction a with
  | nil => simp [depth]
  | cons s a ih => simp only [List.cons_append, depth, ih]; omega

/-- Outside parentheses no symbol binds less than the level. The symbols start behind `inside`
parentheses that are still open. -/
def BindsFrom (level : Nat) : Int → List Symbol → Prop
  | _, [] => True
  | inside, s :: rest => (inside = 0 → level ≤ s.level) ∧ BindsFrom level (inside + s.turn) rest

theorem bindsFrom_append {level : Nat} {inside : Int} {a b : List Symbol} :
    BindsFrom level inside (a ++ b) ↔
      BindsFrom level inside a ∧ BindsFrom level (inside + depth a) b := by
  induction a generalizing inside with
  | nil => simp [BindsFrom, depth]
  | cons s a ih =>
    simp only [List.cons_append, BindsFrom, ih, depth, and_assoc]
    rw [show inside + s.turn + depth a = inside + (s.turn + depth a) by omega]

theorem BindsFrom.mono {low high : Nat} (le : low ≤ high) {inside : Int} {symbols : List Symbol}
    (binds : BindsFrom high inside symbols) : BindsFrom low inside symbols := by
  induction symbols generalizing inside with
  | nil => trivial
  | cons s rest ih => exact ⟨fun outside => Nat.le_trans le (binds.1 outside), ih binds.2⟩

/-- Two ways to take the symbols apart at an operator are the same if nothing behind the operator
binds as little as the other operator does. -/
theorem split_unique {left₁ right₁ left₂ right₂ : List Symbol} {op₁ op₂ : BinaryOp}
    (same : left₁ ++ .binary op₁ :: right₁ = left₂ ++ .binary op₂ :: right₂)
    (level : op₁.level = op₂.level) (closed₁ : depth left₁ = 0) (closed₂ : depth left₂ = 0)
    (binds₁ : BindsFrom (op₁.level + 1) 0 right₁) (binds₂ : BindsFrom (op₂.level + 1) 0 right₂) :
    left₁ = left₂ ∧ op₁ = op₂ ∧ right₁ = right₂ := by
  -- the operator of the shorter left part is followed by the other one, outside parentheses
  have apart {left right between right' : List Symbol} {op op' : BinaryOp} (closed : depth left = 0)
      (closed' : depth (left ++ .binary op :: between) = 0)
      (rest : right = between ++ .binary op' :: right') (binds : BindsFrom (op.level + 1) 0 right) :
      op.level < op'.level := by
    rw [rest, bindsFrom_append] at binds
    have outside : depth between = 0 := by
      rw [depth_append, closed] at closed'
      simpa [depth, turn] using closed'
    exact binds.2.1 (by omega)
  rcases List.append_eq_append_iff.mp same with ⟨between, rfl, rest⟩ | ⟨between, rfl, rest⟩
  · cases between with
    | nil => simpa using rest
    | cons s between =>
      obtain ⟨rfl, behind⟩ := List.cons.inj rest
      have := apart closed₁ closed₂ behind binds₁
      omega
  · cases between with
    | nil => simpa [eq_comm] using rest
    | cons s between =>
      obtain ⟨rfl, behind⟩ := List.cons.inj rest
      have := apart closed₂ closed₁ behind binds₂
      omega

end Symbol

namespace Expr

/-- The symbols of an operator expression in the order in which they are written. -/
def symbols : Expr → List Symbol
  | .variableRef ref => [.operand ref.identifier]
  | .group inner => .opening :: (inner.symbols ++ [.closing])
  | .unary op operand => .unary op :: operand.symbols
  | .logical op left right => left.symbols ++ .binary (.logical op) :: right.symbols
  | .arithmetic op left right => left.symbols ++ .binary (.arithmetic op) :: right.symbols
  | .compare op none left right => left.symbols ++ .binary (.compare op) :: right.symbols
  | _ => []

@[simp] theorem symbols_variableRef (ref : VariableRef) :
    (Expr.variableRef ref).symbols = [.operand ref.identifier] := rfl

@[simp] theorem symbols_group (inner : Expr) :
    (Expr.group inner).symbols = .opening :: (inner.symbols ++ [.closing]) := rfl

@[simp] theorem symbols_unary (op : UnaryOp) (operand : Expr) :
    (Expr.unary op operand).symbols = .unary op :: operand.symbols := rfl

theorem symbols_binary (op : BinaryOp) (left right : Expr) :
    (op.expr left right).symbols = left.symbols ++ .binary op :: right.symbols := by
  cases op <;> rfl

theorem level_binary (op : BinaryOp) (left right : Expr) : (op.expr left right).level = op.level := by
  cases op <;> rfl

namespace WellGrouped

open SqlEmit.Symbol

variable {e : Expr}

theorem depth_symbols (grouped : e.WellGrouped) : depth e.symbols = 0 := by
  induction grouped with
  | variableRef _ => simp [depth, turn]
  | group _ ih => simp [depth, depth_append, turn, ih]
  | unary op _ _ ih => simp [depth, turn, ih]
  | binary op _ _ _ _ left right => simp [symbols_binary, depth_append, depth, turn, left, right]

/-- Inside parentheses nothing is asked of the symbols. -/
theorem bindsFrom_inside (grouped : e.WellGrouped) (level : Nat) {inside : Int} (within : 0 < inside) :
    BindsFrom level inside e.symbols := by
  induction grouped generalizing inside with
  | variableRef _ => exact ⟨by omega, trivial⟩
  | group grouped ih =>
    rw [symbols_group, BindsFrom, bindsFrom_append]
    refine ⟨by omega, ih (by simp [turn]; omega), ?_, trivial⟩
    rw [grouped.depth_symbols]
    simp only [turn]
    omega
  | unary op _ _ ih => exact ⟨by omega, ih (by simpa [turn] using within)⟩
  | binary op left right _ _ leftInside rightInside =>
    rw [symbols_binary, bindsFrom_append, left.depth_symbols]
    exact ⟨leftInside within, by omega, rightInside (by simpa [turn] using within)⟩

theorem bindsFrom_level (grouped : e.WellGrouped) : BindsFrom e.level 0 e.symbols := by
  induction grouped with
  | variableRef _ => exact ⟨fun _ => Nat.le_refl _, trivial⟩
  | group grouped ih =>
    rw [symbols_group, BindsFrom, bindsFrom_append]
    refine ⟨fun _ => Nat.le_refl _, grouped.bindsFrom_inside _ (by decide), ?_, trivial⟩
    rw [grouped.depth_symbols]
    simp [turn]
  | unary op _ binds ih => exact ⟨fun _ => Nat.le_refl _, ih.mono binds⟩
  | binary op left right leftBinds rightBinds leftLevel rightLevel =>
    rw [symbols_binary, bindsFrom_append, left.depth_symbols, level_binary]
    refine ⟨leftLevel.mono (Nat.le_trans op.level_le_leftLevel leftBinds), fun _ => Nat.le_refl _, ?_⟩
    exact rightLevel.mono (Nat.le_of_lt rightBinds)

/-- The outermost operator is itself outside parentheses, so the symbols show the level. -/
theorem le_level (grouped : e.WellGrouped) {level : Nat} (binds : BindsFrom level 0 e.symbols) :
    level ≤ e.level := by
  cases grouped with
  | variableRef _ | group _ | unary _ _ _ => exact binds.1 rfl
  | binary op left right =>
    rw [symbols_binary, bindsFrom_append, left.depth_symbols] at binds
    rw [level_binary]
    exact binds.2.1 rfl

end WellGrouped

theorem level_eq_of_symbols {e₁ e₂ : Expr} (grouped₁ : e₁.WellGrouped) (grouped₂ : e₂.WellGrouped)
    (same : e₁.symbols = e₂.symbols) : e₁.level = e₂.level :=
  Nat.le_antisymm (grouped₂.le_level (same ▸ grouped₁.bindsFrom_level))
    (grouped₁.le_level (same ▸ grouped₂.bindsFrom_level))

/-- The expression with the ids of its variables given by their names. -/
def numbered (ids : String → NodeId) : Expr → Expr
  | .variableRef ref => .variableRef ⟨ids ref.identifier, ref.identifier⟩
  | .group inner => .group (inner.numbered ids)
  | .unary op operand => .unary op (operand.numbered ids)
  | .logical op left right => .logical op (left.numbered ids) (right.numbered ids)
  | .arithmetic op left right => .arithmetic op (left.numbered ids) (right.numbered ids)
  | .compare op modifier left right => .compare op modifier (left.numbered ids) (right.numbered ids)
  | e => e

@[simp] theorem numbered_variableRef (ids : String → NodeId) (ref : VariableRef) :
    (Expr.variableRef ref).numbered ids = .variableRef ⟨ids ref.identifier, ref.identifier⟩ := rfl

@[simp] theorem numbered_group (ids : String → NodeId) (inner : Expr) :
    (Expr.group inner).numbered ids = .group (inner.numbered ids) := rfl

@[simp] theorem numbered_unary (ids : String → NodeId) (op : UnaryOp) (operand : Expr) :
    (Expr.unary op operand).numbered ids = .unary op (operand.numbered ids) := rfl

theorem numbered_binary (ids : String → NodeId) (op : BinaryOp) (left right : Expr) :
    (op.expr left right).numbered ids = op.expr (left.numbered ids) (right.numbered ids) := by
  cases op <;> rfl

/-- The symbols show the tree: by induction on one tree, the root of the other is the same. -/
theorem numbered_eq_of_symbols (ids : String → NodeId) {e₁ e₂ : Expr} (grouped₁ : e₁.WellGrouped)
    (grouped₂ : e₂.WellGrouped) (same : e₁.symbols = e₂.symbols) :
    e₁.numbered ids = e₂.numbered ids := by
  induction grouped₁ generalizing e₂ with
  | @variableRef ref named =>
    have level := level_eq_of_symbols (.variableRef named) grouped₂ same
    cases grouped₂ with
    | @variableRef ref₂ _ =>
      have identifier : ref.identifier = ref₂.identifier := by simpa using same
      simp [identifier]
    | group _ | unary _ _ _ => simp at same
    | binary op => exact absurd (level.trans (level_binary ..)).symm op.level_apart.1
  | group grouped ih =>
    have level := level_eq_of_symbols (.group grouped) grouped₂ same
    cases grouped₂ with
    | variableRef _ | unary _ _ _ => simp at same
    | group grouped₂ =>
      have inner := ih grouped₂ (by simpa using same)
      simp only [numbered_group, inner]
    | binary op => exact absurd (level.trans (level_binary ..)).symm op.level_apart.1
  | unary op grouped binds ih =>
    have level := level_eq_of_symbols (.unary op grouped binds) grouped₂ same
    cases grouped₂ with
    | variableRef _ | group _ => simp at same
    | unary op₂ grouped₂ _ =>
      obtain ⟨rfl, rest⟩ : op = op₂ ∧ _ := by simpa using same
      simp only [numbered_unary, ih grouped₂ rest]
    | binary op₂ =>
      have apart := op₂.level_apart
      rw [level_binary] at level
      cases op <;> simp_all [Expr.level, UnaryOp.level]
  | binary op left right leftBinds rightBinds leftIh rightIh =>
    have level := level_eq_of_symbols (.binary op left right leftBinds rightBinds) grouped₂ same
    rw [level_binary] at level
    cases grouped₂ with
    | variableRef _ | group _ => exact absurd level op.level_apart.1
    | unary op₂ _ _ =>
      have apart := op.level_apart
      cases op₂ <;> simp_all [Expr.level, UnaryOp.level]
    | binary op₂ left₂ right₂ leftBinds₂ rightBinds₂ =>
      rw [symbols_binary, symbols_binary] at same
      rw [level_binary] at level
      obtain ⟨leftSame, rfl, rightSame⟩ := Symbol.split_unique same level left.depth_symbols
        left₂.depth_symbols (right.bindsFrom_level.mono rightBinds)
        (right₂.bindsFrom_level.mono rightBinds₂)
      rw [numbered_binary, numbered_binary, leftIh left₂ leftSame, rightIh right₂ rightSame]

end Expr

namespace BinaryOp

def all : List BinaryOp :=
  (Named.all : List LogicalOp).map .logical ++ (Named.all : List ArithmeticOp).map .arithmetic ++
    (Named.all : List CompareOp).map .compare

def ofWord (word : List Char) : Option BinaryOp :=
  all.find? fun op => op.text.toList = word

end BinaryOp

namespace Symbol

def spelled (symbols : List Symbol) : List Char :=
  symbols.flatMap fun s => s.text.toList

def first? : List Char → Option Symbol
  | '(' :: _ => some .opening
  | ')' :: _ => some .closing
  | '-' :: _ => some (.unary .minus)
  | 'N' :: _ => some (.unary .not)
  | ' ' :: cs => (BinaryOp.ofWord (cs.takeWhile (· ≠ ' '))).map .binary
  | '@' :: cs => some (.operand (String.ofList ('@' :: cs.takeWhile Char.isAlphanum)))
  | _ => none

/-- No letter or digit stands in front. -/
def Detached (cs : List Char) : Prop :=
  ∀ c ∈ cs.head?, c.isAlphanum = false

/-- Operands are names of variables, and one can see where they end. -/
def Legible : List Symbol → Prop
  | [] => True
  | s :: rest => (∀ name, s = .operand name → IsVariableName name ∧ Detached (spelled rest)) ∧
      Legible rest

theorem spelled_cons (s : Symbol) (rest : List Symbol) :
    spelled (s :: rest) = s.text.toList ++ spelled rest := rfl

theorem detached_binary (op : BinaryOp) (rest : List Symbol) :
    Detached (spelled (.binary op :: rest)) := by
  intro c front
  obtain rfl : ' ' = c := by simpa [spelled_cons, text] using front
  rfl

theorem takeWhile_of_detached {cs rest : List Char} (letters : ∀ c ∈ cs, c.isAlphanum = true)
    (detached : Detached rest) : (cs ++ rest).takeWhile Char.isAlphanum = cs := by
  rw [List.takeWhile_append_of_pos letters]
  cases rest with
  | nil => simp
  | cons c rest => simp [detached c rfl]

theorem first?_spelled {s : Symbol} {rest : List Symbol} (legible : Legible (s :: rest)) :
    first? (spelled (s :: rest)) = some s := by
  rw [spelled_cons]
  cases s with
  | opening | closing => rfl
  | unary op => cases op <;> rfl
  | binary op => rcases op with op | op | op <;> cases op <;> rfl
  | operand name =>
    obtain ⟨⟨cs, chars, -, letters⟩, detached⟩ := legible.1 name rfl
    have ends := takeWhile_of_detached letters detached
    rw [text, chars, List.cons_append, first?, ends, ← chars, String.ofList_toList]

/-- Legible symbols are read off their text from left to right. -/
theorem eq_of_spelled {a b : List Symbol} (legibleA : Legible a) (legibleB : Legible b)
    (same : spelled a = spelled b) : a = b := by
  induction a generalizing b with
  | nil =>
    cases b with
    | nil => rfl
    | cons s b =>
      have first := first?_spelled legibleB
      rw [← same] at first
      cases first
  | cons s a ih =>
    have first := first?_spelled legibleA
    cases b with
    | nil =>
      rw [same] at first
      cases first
    | cons s' b =>
      rw [same, first?_spelled legibleB] at first
      obtain rfl := Option.some.inj first
      rw [spelled_cons, spelled_cons, List.append_right_inj] at same
      rw [ih legibleA.2 legibleB.2 same]

end Symbol

theorem Expr.emit_binary (cx : Context) (op : BinaryOp) (left right : Expr) :
    (op.expr left right).emit cx =
      do return binarySql (← left.emit cx) op.text (← right.emit cx) := by
  cases op <;> simp [BinaryOp.expr, Expr.emit, BinaryOp.text, CompareOp.spelled]

namespace Expr.WellGrouped

open SqlEmit.Symbol

variable {e : Expr}

theorem legible_symbols (grouped : e.WellGrouped) {rest : List Symbol} (legible : Legible rest)
    (detached : Detached (spelled rest)) : Legible (e.symbols ++ rest) := by
  induction grouped generalizing rest with
  | variableRef named =>
    refine ⟨?_, legible⟩
    rintro name ⟨⟩
    exact ⟨named, detached⟩
  | group _ ih =>
    have closing : Legible (.closing :: rest) := ⟨nofun, legible⟩
    have inner := ih closing (by rintro c ⟨⟩; rfl)
    rw [symbols_group, List.cons_append, List.append_assoc]
    exact ⟨nofun, inner⟩
  | unary op _ _ ih => exact ⟨nofun, ih legible detached⟩
  | binary op _ _ _ _ left right =>
    have onward : Legible (.binary op :: _) := ⟨nofun, right legible detached⟩
    rw [symbols_binary, List.append_assoc]
    exact left onward (detached_binary op _)

/-- The expression is written, and its text is that of its symbols. -/
theorem emit_spelled (grouped : e.WellGrouped) {cx : Context} (server : cx.dialect = .sqlServer) :
    ∃ sql, (e.emit cx).result = .ok sql ∧ sql.text.toList = spelled e.symbols := by
  induction grouped with
  | @variableRef ref _ =>
    refine ⟨Sql.code ref.identifier, ?_, ?_⟩
    · simp [Expr.emit, Context.parameterSql, server]
    · simp [spelled, Symbol.text]
  | group _ ih =>
    obtain ⟨inner, emitted, text⟩ := ih
    refine ⟨inner.parens, ?_, ?_⟩
    · rw [Expr.emit, Emit.bind_ok]
      exact ⟨inner, emitted, rfl⟩
    · simp [Sql.parens, spelled, Symbol.text, text]
  | unary op _ _ ih =>
    obtain ⟨operand, emitted, text⟩ := ih
    refine ⟨Sql.code op.text ++ operand, ?_, ?_⟩
    · rw [Expr.emit, Emit.bind_ok]
      exact ⟨operand, emitted, rfl⟩
    · simp [spelled, Symbol.text, text]
  | binary op _ _ _ _ leftIh rightIh =>
    obtain ⟨left, leftEmitted, leftText⟩ := leftIh
    obtain ⟨right, rightEmitted, rightText⟩ := rightIh
    refine ⟨binarySql left op.text right, ?_, ?_⟩
    · rw [emit_binary, Emit.bind_ok]
      exact ⟨left, leftEmitted, Emit.bind_ok.mpr ⟨right, rightEmitted, rfl⟩⟩
    · simp [binarySql, symbols_binary, spelled, Symbol.text, leftText, rightText]

end Expr.WellGrouped

/-- The text of a well-grouped expression shows the expression: if two are written alike, in any two
contexts, then they are one tree as soon as their variables are numbered alike. -/
theorem Expr.operator_text_unambiguous {e₁ e₂ : Expr} (grouped₁ : e₁.WellGrouped)
    (grouped₂ : e₂.WellGrouped) {cx₁ cx₂ : Context} (server₁ : cx₁.dialect = .sqlServer)
    (server₂ : cx₂.dialect = .sqlServer)
    (same : (e₁.emit cx₁).result.map Sql.text = (e₂.emit cx₂).result.map Sql.text) :
    (∀ ids, e₁.numbered ids = e₂.numbered ids) ∧
      (∀ ids, e₁.numbered ids = e₁ → e₂.numbered ids = e₂ → e₁ = e₂) := by
  obtain ⟨sql₁, emitted₁, spelled₁⟩ := grouped₁.emit_spelled server₁
  obtain ⟨sql₂, emitted₂, spelled₂⟩ := grouped₂.emit_spelled server₂
  have texts : sql₁.text = sql₂.text := by simpa [emitted₁, emitted₂, Except.map] using same
  have legible {e : Expr} (grouped : e.WellGrouped) : Symbol.Legible e.symbols := by
    simpa using @WellGrouped.legible_symbols e grouped [] trivial nofun
  have symbols : e₁.symbols = e₂.symbols := by
    refine Symbol.eq_of_spelled (legible grouped₁) (legible grouped₂) ?_
    rw [← spelled₁, ← spelled₂, texts]
  have trees := fun ids => Expr.numbered_eq_of_symbols ids grouped₁ grouped₂ symbols
  refine ⟨trees, ?_⟩
  intro ids own₁ own₂
  rw [← own₁, ← own₂]
  exact trees ids

namespace Tariff

def amount (id : NodeId) (name : String) : Expr := .variableRef ⟨id, name⟩

/-- `@paid - -@due <= @rate * (@limit + @fee) AND NOT @closed` with one id for all variables. -/
def condition (id : NodeId) : Expr :=
  .logical .and
    (.compare .lte none (.arithmetic .sub (amount id "@paid") (.unary .minus (amount id "@due")))
      (.arithmetic .mul (amount id "@rate")
        (.group (.arithmetic .add (amount id "@limit") (amount id "@fee")))))
    (.unary .not (amount id "@closed"))

theorem condition_grouped (id : NodeId) : (condition id).WellGrouped := by
  have named (letters : List Char) (nonempty : letters ≠ [])
      (ascii : letters.all Char.isAlphanum = true) :
      (amount id (String.ofList ('@' :: letters))).WellGrouped :=
    .variableRef ⟨letters, String.toList_ofList, nonempty, List.all_eq_true.mp ascii⟩
  have paid := named ['p', 'a', 'i', 'd'] (by decide) (by decide)
  have due := named ['d', 'u', 'e'] (by decide) (by decide)
  have rate := named ['r', 'a', 't', 'e'] (by decide) (by decide)
  have limit := named ['l', 'i', 'm', 'i', 't'] (by decide) (by decide)
  have fee := named ['f', 'e', 'e'] (by decide) (by decide)
  have closed := named ['c', 'l', 'o', 's', 'e', 'd'] (by decide) (by decide)
  have levels {low high : Nat} (le : Nat.ble low high = true) : low ≤ high := Nat.le_of_ble_eq_true le
  have left := Expr.WellGrouped.binary (.arithmetic .sub) paid (.unary .minus due (levels rfl))
    (levels rfl) (levels rfl)
  have sum := Expr.WellGrouped.binary (.arithmetic .add) limit fee (levels rfl) (levels rfl)
  have right := Expr.WellGrouped.binary (.arithmetic .mul) rate (.group sum) (levels rfl) (levels rfl)
  have bounded := Expr.WellGrouped.binary (.compare .lte) left right (levels rfl) (levels rfl)
  exact .binary (.logical .and) bounded (.unary .not closed (levels rfl)) (levels rfl) (levels rfl)

end Tariff

/-- The condition is read from its text, whatever the ids of its variables are. -/
theorem Expr.operator_text_unambiguous_of_tariff :
    (∃ sql, ((Tariff.condition ⟨1⟩).emit (Context.bare .sqlServer)).result = .ok sql ∧
      sql.text = "@paid - -@due <= @rate * (@limit + @fee) AND NOT @closed") ∧
    (∃ sql, ((Tariff.condition ⟨2⟩).emit (Context.bare .sqlServer)).result = .ok sql ∧
      sql.text = "@paid - -@due <= @rate * (@limit + @fee) AND NOT @closed") ∧
    ∀ ids, (Tariff.condition ⟨1⟩).numbered ids = (Tariff.condition ⟨2⟩).numbered ids := by
  obtain ⟨sql₁, emitted₁, text₁⟩ : ∃ sql, ((Tariff.condition ⟨1⟩).emit (Context.bare .sqlServer)).result =
      .ok sql ∧ sql.text = "@paid - -@due <= @rate * (@limit + @fee) AND NOT @closed" :=
    Except.exists_ok (by decide +kernel)
  obtain ⟨sql₂, emitted₂, text₂⟩ : ∃ sql, ((Tariff.condition ⟨2⟩).emit (Context.bare .sqlServer)).result =
      .ok sql ∧ sql.text = "@paid - -@due <= @rate * (@limit + @fee) AND NOT @closed" :=
    Except.exists_ok (by decide +kernel)
  refine ⟨⟨sql₁, emitted₁, text₁⟩, ⟨sql₂, emitted₂, text₂⟩, ?_⟩
  have same : ((Tariff.condition ⟨1⟩).emit (Context.bare .sqlServer)).result.map Sql.text =
      ((Tariff.condition ⟨2⟩).emit (Context.bare .sqlServer)).result.map Sql.text := by
    rw [emitted₁, emitted₂, Except.map, Except.map, text₁, text₂]
  exact (Expr.operator_text_unambiguous (Tariff.condition_grouped ⟨1⟩) (Tariff.condition_grouped ⟨2⟩)
    rfl rfl same).1

end SqlEmit
