import Mathlib.Data.Multiset.AddSub
import SqlEmit.Proofs.Composition

/-! Parameters of a text and the calls that are deferred while it is written. A call that is left to the caller is
written as its parameter, so the parameters of an expression or a query are those of its deferred calls, and each
deferred call is one that the registry defers for a call of the tree. -/
namespace SqlEmit

def Piece.parameter? : Piece → Option String
  | .parameter name => some name
  | _ => none

namespace Sql

/-- The parameters whose values the caller supplies, as they stand in the text. -/
def parameters (sql : Sql) : List String :=
  sql.pieces.filterMap Piece.parameter?

@[simp] theorem parameters_append (a b : Sql) : (a ++ b).parameters = a.parameters ++ b.parameters := by
  simp [parameters]

@[simp] theorem parameters_empty : empty.parameters = [] := rfl

@[simp] theorem parameters_code (text : String) : (code text).parameters = [] := rfl

@[simp] theorem parameters_nextValue (dialect : Dialect) (sequence : String) :
    (ofPiece (.nextValue dialect sequence)).parameters = [] := rfl

@[simp] theorem parameters_rowLock (clause : String) : (ofPiece (.rowLock clause)).parameters = [] := rfl

@[simp] theorem parameters_parens (inner : Sql) : inner.parens.parameters = inner.parameters := by
  simp [parens]

@[simp] theorem parameters_cast (inner : Sql) (typeName : String) :
    (inner.cast typeName).parameters = inner.parameters := by
  simp [cast]

@[simp] theorem parameters_join (separator : String) (parts : List Sql) :
    (join separator parts).parameters = parts.flatMap parameters := by
  induction parts with
  | nil => rfl
  | cons part parts ih =>
    cases parts with
    | nil => simp [join]
    | cons next rest => simp [join, ih]

@[simp] theorem parameters_clause (keyword : String) (part : Option Sql) :
    (clause keyword part).parameters = part.toList.flatMap parameters := by
  cases part <;> simp [clause]

/-- A parameter of the text stands in it. -/
theorem text_of_parameter {sql : Sql} {name : String} (mem : name ∈ sql.parameters) :
    ∃ before after, sql.text = before ++ name ++ after := by
  obtain ⟨piece, present, is⟩ := List.mem_filterMap.mp mem
  obtain rfl : piece = .parameter name := by
    cases piece with
    | parameter other => rw [Option.some.inj is]
    | _ => cases is
  obtain ⟨before, after, whole⟩ := List.append_of_mem present
  obtain rfl : sql = ⟨before⟩ ++ ofPiece (.parameter name) ++ ⟨after⟩ :=
    congrArg Sql.mk (by simpa [ofPiece] using whole)
  refine ⟨text ⟨before⟩, text ⟨after⟩, ?_⟩
  rw [text_append, text_append]
  rfl

end Sql

namespace Item

@[simp] theorem parameters_aliasText (asName : Option String) : (aliasText asName).parameters = [] := by
  cases asName <;> simp [aliasText]

@[simp] theorem parameters_column (name : String) (asName : Option String) :
    (Item.column name asName).sql.parameters = [] := by
  simp [Item.sql]

@[simp] theorem parameters_computed (sql : Sql) (asName : Option String) :
    (Item.computed sql asName).sql.parameters = sql.parameters := by
  simp [Item.sql]

@[simp] theorem parameters_ofPhysical (dialect : Dialect) (column : PhysicalColumn) :
    (ofPhysical dialect column).sql.parameters = [] := by
  unfold ofPhysical
  split <;> simp [Item.sql]

def lineParameters (items : List Item) : List String :=
  items.flatMap (·.sql.parameters)

@[simp] theorem parameters_lineSql (items : List Item) : (lineSql items).parameters = lineParameters items := by
  simp [lineSql, lineParameters, List.flatMap_map]

@[simp] theorem parameters_listSql (lines : List (List Item)) :
    (listSql lines).parameters = lines.flatMap lineParameters := by
  simp [listSql, List.flatMap_map]

end Item

@[simp] theorem SelectSql.parameters_topSql (top : Option Sql) :
    (topSql top).parameters = top.toList.flatMap Sql.parameters := by
  cases top <;> simp [topSql]

@[simp] theorem SelectSql.parameters_groupingSql (keys : List Sql) :
    (groupingSql keys).parameters = keys.flatMap Sql.parameters := by
  cases keys <;> simp [groupingSql]

@[simp] theorem SelectSql.parameters_lockSql (lock : Option String) : (lockSql lock).parameters = [] := by
  cases lock <;> simp [lockSql]

def SelectSql.parameters (s : SelectSql) : List String :=
  s.top.toList.flatMap Sql.parameters ++ (s.columns.flatMap Item.lineParameters ++
    (s.source.toList.flatMap Sql.parameters ++ (s.predicate.toList.flatMap Sql.parameters ++
      (s.grouping.flatMap Sql.parameters ++ (s.having.toList.flatMap Sql.parameters ++
        (s.order.toList.flatMap (·.sql.parameters) ++ s.limit.toList.flatMap Sql.parameters))))))

@[simp] theorem SelectSql.parameters_sql (s : SelectSql) (dialect : Dialect) :
    (s.sql dialect).parameters = s.parameters := by
  have into : (s.intoTable.map Sql.code).toList.flatMap Sql.parameters = [] := by
    cases s.intoTable <;> rfl
  have order : (s.order.map SortSql.sql).toList.flatMap Sql.parameters =
      s.order.toList.flatMap (·.sql.parameters) := by
    cases s.order <;> simp
  simp [SelectSql.sql, SelectSql.parameters, into, order]

/-- What may be deferred for calls among the nodes is allowed. -/
def Registry.Permits (registry : Registry) (allowed : Deferred → Prop) (nodes : List Node) : Prop :=
  ∀ node ∈ nodes, ∀ call ∈ node.calls, ∀ deferred, registry.Defers call deferred → allowed deferred

namespace Registry.Permits

variable {registry : Registry} {allowed : Deferred → Prop} {first second : List Node}

theorem of_subset (permits : registry.Permits allowed second) (within : first ⊆ second) :
    registry.Permits allowed first :=
  fun node mem => permits node (within mem)

theorem nil : registry.Permits allowed [] := by
  intro node mem
  cases mem

theorem append_iff : registry.Permits allowed (first ++ second) ↔
    registry.Permits allowed first ∧ registry.Permits allowed second :=
  List.forall_mem_append

theorem of_mem_flatMap {xs : List α} {f : α → List Node} (permits : registry.Permits allowed (xs.flatMap f)) {x : α}
    (mem : x ∈ xs) : registry.Permits allowed (f x) :=
  permits.of_subset fun _ inner => List.mem_flatMap.mpr ⟨x, mem, inner⟩

end Registry.Permits

namespace Emit

/-- If the computation succeeds, its result goes with the parameters that it has deferred, in any order, and only
allowed calls are deferred. -/
def LeavesOnly (allowed : Deferred → Prop) (related : α → Multiset String → Prop) : Emit α → Prop :=
  Leaves fun a deferred => related a (deferred.map (·.target)) ∧ ∀ call ∈ deferred, allowed call

/-- A successful computation has deferred the parameters of its result, each as often. -/
def Defers (allowed : Deferred → Prop) (parameters : α → List String) : Emit α → Prop :=
  LeavesOnly allowed fun a targets => targets = parameters a

variable {allowed : Deferred → Prop}

namespace LeavesOnly

variable {related : α → Multiset String → Prop} {onward : β → Multiset String → Prop}

theorem pure {a : α} (holds : related a 0) : LeavesOnly allowed related (Pure.pure a) :=
  Leaves.pure ⟨holds, by simp⟩

theorem fail (error : Error) : LeavesOnly allowed related (Emit.fail error) :=
  Leaves.fail error

theorem lift {x : Except Error α} (holds : ∀ a, x = .ok a → related a 0) :
    LeavesOnly allowed related (liftM x : Emit α) :=
  Leaves.lift fun a is => ⟨holds a is, by simp⟩

theorem bind {x : Emit α} {f : α → Emit β} (first : LeavesOnly allowed related x)
    (rest : ∀ a targets, related a targets → LeavesOnly allowed (fun b later => onward b (targets + later)) (f a)) :
    LeavesOnly allowed onward (x >>= f) := by
  refine Leaves.bind first fun a deferred holds => ?_
  refine (rest a _ holds.1).imp fun b later follows => ?_
  rw [List.map_append, List.forall_mem_append, ← Multiset.coe_add]
  exact ⟨follows.1, holds.2, follows.2⟩

theorem lift_bind {x : Except Error α} {f : α → Emit β} (rest : ∀ a, x = .ok a → LeavesOnly allowed onward (f a)) :
    LeavesOnly allowed onward ((liftM x : Emit α) >>= f) := by
  have silent : LeavesOnly allowed (fun a targets => x = .ok a ∧ targets = 0) (liftM x : Emit α) :=
    lift fun _ is => ⟨is, rfl⟩
  refine silent.bind fun a targets known => ?_
  obtain ⟨is, rfl⟩ := known
  simpa using rest a is

theorem pure_bind {a : α} {f : α → Emit β} (rest : LeavesOnly allowed onward (f a)) :
    LeavesOnly allowed onward (Pure.pure a >>= f) :=
  rest

theorem fail_bind {error : Error} {f : α → Emit β} : LeavesOnly allowed onward (Emit.fail error >>= f) := by
  intro b is
  obtain ⟨a, failed, -⟩ := Emit.bind_ok.mp is
  simp at failed

end LeavesOnly

namespace Defers

variable {parameters : α → List String} {onward : β → Multiset String → Prop}

theorem pure {a : α} (silent : parameters a = []) : Defers allowed parameters (Pure.pure a) :=
  LeavesOnly.pure (by rw [silent]; rfl)

theorem lift {x : Except Error α} (silent : ∀ a, x = .ok a → parameters a = []) :
    Defers allowed parameters (liftM x : Emit α) :=
  LeavesOnly.lift fun a is => by rw [silent a is]; rfl

theorem lift_bind {x : Except Error β} {f : β → Emit α} (rest : ∀ b, x = .ok b → Defers allowed parameters (f b)) :
    Defers allowed parameters ((liftM x : Emit β) >>= f) :=
  LeavesOnly.lift_bind rest

theorem bind {x : Emit α} {f : α → Emit β} (first : Defers allowed parameters x)
    (rest : ∀ a, LeavesOnly allowed (fun b later => onward b (parameters a + later)) (f a)) :
    LeavesOnly allowed onward (x >>= f) :=
  LeavesOnly.bind first fun a _ same => same ▸ rest a

theorem each {as : List α} {deferred : List Deferred}
    (each : EachHolds (fun a deferred => (deferred.map (·.target) : Multiset String) = parameters a ∧
      ∀ call ∈ deferred, allowed call) as deferred) :
    (deferred.map (·.target) : Multiset String) = as.flatMap parameters ∧ ∀ call ∈ deferred, allowed call := by
  induction each with
  | nil => exact ⟨rfl, by simp⟩
  | cons first _ ih =>
    rw [List.map_append, List.forall_mem_append, ← Multiset.coe_add, first.1, ih.1, Multiset.coe_add,
      List.flatMap_cons]
    exact ⟨rfl, first.2, ih.2⟩

theorem all {xs : List (Emit α)} (each : ∀ x ∈ xs, Defers allowed parameters x) :
    Defers allowed (List.flatMap parameters) (Emit.all xs) :=
  (Leaves.all each).imp fun _ _ => Defers.each

theorem option {x : Emit (Option α)} (given : x.Leaves (OptionHolds fun a deferred =>
      (deferred.map (·.target) : Multiset String) = parameters a ∧ ∀ call ∈ deferred, allowed call)) :
    Defers allowed (fun part => part.toList.flatMap parameters) x := by
  intro part is
  have holds := given part is
  generalize x.deferred = deferred at holds
  cases holds with
  | none => exact ⟨rfl, by simp⟩
  | some holds => simpa using holds

end Defers

end Emit

namespace Sql

theorem composes_parameters {allowed : Deferred → Prop} : Composes (fun _ => True) fun sql deferred =>
    (deferred.map (·.target) : Multiset String) = sql.parameters ∧ ∀ call ∈ deferred, allowed call where
  keyword := fun _ => trivial
  glued := fun _ _ => trivial
  code := fun _ => ⟨rfl, by simp⟩
  empty := ⟨rfl, by simp⟩
  append := fun first second => by
    rw [List.map_append, List.forall_mem_append, parameters_append, ← Multiset.coe_add, ← Multiset.coe_add, first.1,
      second.1]
    exact ⟨rfl, first.2, second.2⟩
  parens := fun inner => by rwa [parameters_parens]
  cast := fun inner _ _ => by rwa [parameters_cast]
  perm := fun same first =>
    ⟨(Multiset.coe_eq_coe.mpr (same.symm.map _)).trans first.1, fun call mem => first.2 call (same.mem_iff.mpr mem)⟩

theorem Plain.parameters {sql : Sql} (plain : sql.Plain) : sql.parameters = [] := by
  refine List.filterMap_eq_nil_iff.mpr fun piece mem => ?_
  have is := List.all_eq_true.mp plain piece mem
  cases piece <;> simp [Piece.isPlain, Piece.parameter?] at is ⊢

end Sql

theorem Context.parameters_tableSource {cx : Context} {table : TableRef} {sql : Sql}
    (ok : cx.tableSource table = .ok sql) : sql.parameters = [] := by
  obtain ⟨name, -, rest⟩ := Except.bind_ok.mp ok
  obtain rfl := Except.ok.inj rest
  rfl

section

variable {cx : Context} {allowed : Deferred → Prop}

theorem Context.carries_parameters : cx.Carries
    (fun node => ∀ call ∈ node.calls, ∀ deferred, cx.registry.Defers call deferred → allowed deferred)
    (fun _ => True) fun sql deferred =>
      (deferred.map (·.target) : Multiset String) = sql.parameters ∧ ∀ call ∈ deferred, allowed call := by
  refine carries_of_plain Sql.composes_parameters (fun sql plain => ?_) (fun table sql _ ok => ?_)
    (fun _ _ _ _ _ => ⟨rfl, by simp⟩) ?_
  · exact ⟨by rw [plain.parameters]; rfl, by simp⟩
  · exact ⟨by rw [parameters_tableSource ok]; rfl, by simp⟩
  · intro call deferred permits defers
    exact ⟨rfl, by simpa using permits call (by simp [Node.calls]) deferred defers⟩

theorem Expr.defers {e : Expr} (permits : cx.registry.Permits allowed e.nodes) :
    (e.emit cx).Defers allowed Sql.parameters :=
  e.leaves Context.carries_parameters permits

theorem emitOption_defers {e : Option Expr} (permits : cx.registry.Permits allowed (optionNodes e)) :
    (emitOption cx e).Defers allowed fun written => written.toList.flatMap Sql.parameters :=
  .option (emitOption_leaves Context.carries_parameters e permits)

theorem Query.defers {q : Query} (permits : cx.registry.Permits allowed q.nodes) :
    (q.emit cx).Defers allowed fun written => (written.sql cx.dialect).parameters :=
  q.leaves Context.carries_parameters permits

theorem Select.defers {s : Select} (permits : cx.registry.Permits allowed (Query.select s).nodes) :
    (s.emit cx).Defers allowed SelectSql.parameters := by
  intro written is
  obtain ⟨same, only⟩ := s.leaves Context.carries_parameters permits written is
  exact ⟨by rw [same, SelectSql.parameters_sql], only⟩

theorem emitProjection_defers {columns : List Projected}
    (permits : cx.registry.Permits allowed (projectionNodes columns)) :
    (Emit.all (emitProjection cx columns)).Defers allowed (List.flatMap Item.lineParameters) := by
  refine .all fun x mem items is => ?_
  obtain ⟨same, only⟩ := emitProjection_leaves Context.carries_parameters columns permits x mem items is
  exact ⟨by rw [same, Item.parameters_lineSql], only⟩

theorem emitSource_defers {source : Option Source} (permits : cx.registry.Permits allowed (sourceNodes source)) :
    (emitSource cx source).Defers allowed fun written => written.toList.flatMap Sql.parameters :=
  .option (emitSource_leaves Context.carries_parameters source permits)

theorem emitTarget_defers (table : Option TableRef) :
    (Emit.optional (table.map fun table => (cx.tableName table : Emit String))).Defers allowed fun _ => [] := by
  cases table with
  | none => exact .pure rfl
  | some table => exact .lift_bind fun _ _ => .pure rfl

end

end SqlEmit
