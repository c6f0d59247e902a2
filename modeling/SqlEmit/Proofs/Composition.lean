import SqlEmit.Proofs.Nodes
import SqlEmit.Proofs.Query
import SqlEmit.Proofs.Quoting.Spelling

/-! Properties that a written text has as soon as its parts have them. What is said about the text of expressions
and queries, and about the calls deferred for it, is said of single nodes; one induction over the syntax carries it
to the whole. -/
namespace SqlEmit

/-- Each result goes with its share of the deferred calls. -/
inductive EachHolds (holds : α → List Deferred → Prop) : List α → List Deferred → Prop
  | nil : EachHolds holds [] []
  | cons {a : α} {as : List α} {share rest : List Deferred} (first : holds a share)
      (others : EachHolds holds as rest) : EachHolds holds (a :: as) (share ++ rest)

inductive OptionHolds (holds : α → List Deferred → Prop) : Option α → List Deferred → Prop
  | none : OptionHolds holds none []
  | some {a : α} {deferred : List Deferred} (given : holds a deferred) : OptionHolds holds (some a) deferred

theorem EachHolds.map {holds : β → List Deferred → Prop} {f : α → β} {as : List α} {deferred : List Deferred}
    (each : EachHolds (fun a => holds (f a)) as deferred) : EachHolds holds (as.map f) deferred := by
  induction each with
  | nil => exact .nil
  | cons first _ ih => exact .cons first ih

theorem EachHolds.of_forall {holds : α → List Deferred → Prop} {as : List α} (each : ∀ a ∈ as, holds a []) :
    EachHolds holds as [] := by
  induction as with
  | nil => exact .nil
  | cons a as ih =>
    obtain ⟨first, others⟩ := List.forall_mem_cons.mp each
    exact .cons first (ih others)

theorem OptionHolds.map {holds : β → List Deferred → Prop} {f : α → β} {a : Option α} {deferred : List Deferred}
    (given : OptionHolds (fun a => holds (f a)) a deferred) : OptionHolds holds (a.map f) deferred := by
  cases given with
  | none => exact .none
  | some given => exact .some given

theorem EachHolds.forall_mem {property : α → Prop} {as : List α} {deferred : List Deferred}
    (each : EachHolds (fun a _ => property a) as deferred) : ∀ a ∈ as, property a := by
  induction each with
  | nil => simp
  | cons first _ ih => exact List.forall_mem_cons.mpr ⟨first, ih⟩

theorem OptionHolds.forall_mem {property : α → Prop} {part : Option α} {deferred : List Deferred}
    (given : OptionHolds (fun a _ => property a) part deferred) : ∀ a ∈ part, property a := by
  cases given with
  | none => simp
  | some given => simpa using given

/-- Of parts that may be missing those that are there. -/
theorem EachHolds.present {holds : α → List Deferred → Prop} {parts : List (Option α)} {deferred : List Deferred}
    (each : EachHolds (OptionHolds holds) parts deferred) : EachHolds holds (parts.filterMap id) deferred := by
  induction each with
  | nil => exact .nil
  | cons first _ ih =>
    cases first with
    | none => exact ih
    | some given => exact .cons given ih

namespace Emit

/-- If the computation succeeds, its result goes with the calls that it has deferred. -/
def Leaves (related : α → List Deferred → Prop) (x : Emit α) : Prop :=
  ∀ a, x.result = .ok a → related a x.deferred

namespace Leaves

variable {related other : α → List Deferred → Prop} {onward : β → List Deferred → Prop}

theorem imp {x : Emit α} (leaves : Leaves related x)
    (implies : ∀ a deferred, related a deferred → other a deferred) : Leaves other x :=
  fun a is => implies a x.deferred (leaves a is)

theorem pure {a : α} (holds : related a []) : Leaves related (Pure.pure a) := by
  intro b is
  obtain rfl := Emit.pure_ok.mp is
  exact holds

theorem fail (error : Error) : Leaves related (Emit.fail error) := by
  intro a is
  simp at is

theorem lift {x : Except Error α} (holds : ∀ a, x = .ok a → related a []) :
    Leaves related (liftM x : Emit α) :=
  holds

theorem bind {x : Emit α} {f : α → Emit β} (first : Leaves related x)
    (rest : ∀ a deferred, related a deferred → Leaves (fun b later => onward b (deferred ++ later)) (f a)) :
    Leaves onward (x >>= f) := by
  intro b is
  obtain ⟨a, isA, isB⟩ := Emit.bind_ok.mp is
  have later := rest a x.deferred (first a isA) b isB
  rw [bind_of_ok isA f]
  exact later

theorem map {x : Emit α} {f : α → β} (first : Leaves related x)
    (rest : ∀ a deferred, related a deferred → onward (f a) deferred) :
    Leaves onward (do return f (← x)) :=
  first.bind fun a deferred holds => .pure (by rw [List.append_nil]; exact rest a deferred holds)

theorem all {xs : List (Emit α)} (each : ∀ x ∈ xs, Leaves related x) :
    Leaves (EachHolds related) (Emit.all xs) := by
  induction xs with
  | nil => exact .pure .nil
  | cons x xs ih =>
    refine (each x List.mem_cons_self).bind fun a share first => ?_
    exact (ih fun y mem => each y (List.mem_cons_of_mem x mem)).map fun as rest others => .cons first others

theorem optional {x : Option (Emit α)} (given : ∀ y ∈ x, Leaves related y) :
    Leaves (OptionHolds related) (Emit.optional x) := by
  cases x with
  | none => exact .pure .none
  | some x => exact (given x rfl).map fun a deferred holds => .some holds

theorem pick {dialect : Dialect} {x y : Emit α} (first : Leaves related x) (second : Leaves related y) :
    Leaves related (dialect.pick x y) := by
  cases dialect
  exacts [first, second]

end Leaves

end Emit

theorem mem_of_givenName {asName : Option String} {name : String} (given : name ∈ givenName asName) :
    name ∈ asName := by
  unfold givenName at given
  split at given
  · split at given <;> simp_all
  · simp at given

theorem Dialect.clean_joinForm (dialect : Dialect) (kind : JoinKind) :
    Text.Clean (dialect.joinForm kind).1 ∧ Text.Clean (dialect.joinForm kind).2 := by
  cases dialect <;> cases kind <;> decide

theorem CompareOp.clean_spelled (op : CompareOp) (modifier : Option CompareModifier) :
    Text.Clean (op.spelled modifier) := by
  cases modifier with
  | none => cases op <;> decide
  | some modifier => cases modifier <;> cases op <;> decide

theorem FrameBound.clean_text (bound : FrameBound) : Text.Clean bound.text := by
  cases bound with
  | preceding n => exact (Text.clean_toString_nat n.toNat).append (by decide)
  | following n => exact (Text.clean_toString_nat n.toNat).append (by decide)
  | unboundedPreceding | currentRow | unboundedFollowing => decide

theorem WindowFrame.clean_clause {frame : WindowFrame} {sql : Sql} (written : frame.clause = some sql) :
    ∃ text, Text.Clean text ∧ sql = Sql.code text := by
  obtain ⟨extent, is, rfl⟩ := Option.map_eq_some_iff.mp written
  have kind : Text.Clean (frame.kind.text ++ " ") := by cases frame.kind <;> decide
  have clean : Text.Clean extent := by
    unfold WindowFrame.extent at is
    split at is
    case h_1 start stop _ _ =>
      obtain rfl := Option.some.inj is
      exact ((Text.Clean.append (by decide) start.clean_text).append (by decide)).append stop.clean_text
    case h_2 | h_3 =>
      obtain rfl := Option.some.inj is
      exact FrameBound.clean_text _
    case h_4 => cases is
  exact ⟨_, kind.append clean, rfl⟩

def branchSql (branch : Sql × Sql) : Sql :=
  Sql.code " WHEN " ++ branch.1 ++ Sql.code " THEN " ++ branch.2

def keysSql (keys : List KeySql) : Sql :=
  Sql.join ", " (keys.map KeySql.text)

/-- A property of a text and of the calls deferred for it that is kept when texts are put together. The texts that
they are put together with are keywords, or they are said to be `fine`. -/
structure Composes (fine : String → Prop) (holds : Sql → List Deferred → Prop) : Prop where
  keyword {text : String} (clean : Text.Clean text) : fine text
  glued {a b : String} (first : fine a) (second : fine b) : fine (a ++ b)
  code {text : String} (is : fine text) : holds (Sql.code text) []
  empty : holds Sql.empty []
  append {a b : Sql} {before after : List Deferred} (first : holds a before) (second : holds b after) :
    holds (a ++ b) (before ++ after)
  parens {a : Sql} {deferred : List Deferred} (inner : holds a deferred) : holds a.parens deferred
  cast {a : Sql} {deferred : List Deferred} (inner : holds a deferred) {typeName : String}
    (clean : Text.Clean typeName) : holds (a.cast typeName) deferred
  perm {a : Sql} {before after : List Deferred} (same : before.Perm after) (first : holds a before) : holds a after

namespace Composes

variable {fine : String → Prop} {holds : Sql → List Deferred → Prop} (laws : Composes fine holds)
include laws

theorem keyword_append {text : String} (clean : Text.Clean text) {a : Sql} {deferred : List Deferred}
    (inner : holds a deferred) : holds (Sql.code text ++ a) deferred :=
  laws.append (laws.code (laws.keyword clean)) inner

theorem append_keyword {text : String} (clean : Text.Clean text) {a : Sql} {deferred : List Deferred}
    (inner : holds a deferred) : holds (a ++ Sql.code text) deferred := by
  simpa using laws.append inner (laws.code (laws.keyword clean))

theorem join {separator : String} (clean : Text.Clean separator) {parts : List Sql} {deferred : List Deferred}
    (each : EachHolds holds parts deferred) : holds (Sql.join separator parts) deferred := by
  induction each with
  | nil => exact laws.empty
  | @cons part parts share rest first others ih =>
    cases parts with
    | nil =>
      cases others
      rw [List.append_nil]
      exact first
    | cons next parts => exact laws.append (laws.append_keyword clean first) ih

theorem clause {keyword : String} (clean : Text.Clean keyword) {part : Option Sql} {deferred : List Deferred}
    (given : OptionHolds holds part deferred) : holds (Sql.clause keyword part) deferred := by
  cases given with
  | none => exact laws.empty
  | some given => exact laws.keyword_append clean given

theorem binarySql {left right : Sql} {before after : List Deferred} (first : holds left before) {op : String}
    (clean : Text.Clean op) (second : holds right after) :
    holds (SqlEmit.binarySql left op right) (before ++ after) := by
  have spaced : Text.Clean (" " ++ op ++ " ") := (Text.Clean.append (by decide) clean).append (by decide)
  exact laws.append (laws.append_keyword spaced first) second

theorem branchSql {branch : Sql × Sql} {before after : List Deferred} (condition : holds branch.1 before)
    (result : holds branch.2 after) : holds (SqlEmit.branchSql branch) (before ++ after) :=
  laws.append (laws.append_keyword (by decide) (laws.keyword_append (by decide) condition)) result

theorem caseSql {branches : List (Sql × Sql)} {otherwise : Option Sql} {before after : List Deferred}
    (each : EachHolds (fun branch => holds (SqlEmit.branchSql branch)) branches before)
    (last : OptionHolds holds otherwise after) : holds (SqlEmit.caseSql branches otherwise) (before ++ after) := by
  have list : holds (Sql.join "" (branches.map SqlEmit.branchSql)) before := laws.join (by decide) each.map
  have opened := laws.keyword_append (by decide : Text.Clean "CASE") list
  exact laws.append_keyword (by decide) (laws.append opened (laws.clause (by decide) last))

theorem derivedSql {query : Sql} {deferred : List Deferred} (inner : holds query deferred) {asName : String}
    (named : fine asName) : holds (SqlEmit.derivedSql query asName) deferred := by
  have ending : holds (if asName.isEmpty then Sql.empty else Sql.code (" AS " ++ asName)) [] := by
    split
    · exact laws.empty
    · exact laws.code (laws.glued (laws.keyword (by decide)) named)
  have written := laws.append (laws.parens inner) ending
  rwa [List.append_nil] at written

theorem keysSql {keys : List KeySql} {deferred : List Deferred}
    (each : EachHolds (fun key => holds key.sql) keys deferred) : holds (SqlEmit.keysSql keys) deferred := by
  have texts : EachHolds (fun key => holds key.text) keys deferred := by
    induction each with
    | nil => exact .nil
    | cons first _ ih => exact .cons (laws.append_keyword (by split <;> decide) first) ih
  exact laws.join (by decide) texts.map

theorem keyList {items : List (List KeySql)} {deferred : List Deferred}
    (each : EachHolds (fun keys => holds (SqlEmit.keysSql keys)) items deferred) :
    holds (SortSql.keyList items) deferred :=
  laws.join (by decide) each.map

theorem overSql {partition : List Sql} {order : List (List KeySql)} {before after : List Deferred}
    (parts : EachHolds holds partition before)
    (keys : EachHolds (fun keys => holds (SqlEmit.keysSql keys)) order after) (frame : Option WindowFrame) :
    holds (SqlEmit.overSql partition order frame) (before ++ after) := by
  have partitioned : OptionHolds holds (if partition.isEmpty then none
      else some (Sql.code "PARTITION BY " ++ Sql.join ", " partition)) before := by
    cases parts with
    | nil => exact .none
    | cons first others =>
      exact .some (laws.keyword_append (by decide) (laws.join (by decide) (.cons first others)))
  have ordered : OptionHolds holds (if order.isEmpty then none
      else some (Sql.code "ORDER BY " ++ SortSql.keyList order)) after := by
    cases keys with
    | nil => exact .none
    | cons first others => exact .some (laws.keyword_append (by decide) (laws.keyList (.cons first others)))
  have framed : OptionHolds holds (frame.bind WindowFrame.clause) [] := by
    cases is : frame.bind WindowFrame.clause with
    | none => exact .none
    | some sql =>
      obtain ⟨frame, -, written⟩ := Option.bind_eq_some_iff.mp is
      obtain ⟨text, clean, rfl⟩ := frame.clean_clause written
      exact .some (laws.code (laws.keyword clean))
  have parts := (EachHolds.cons partitioned (.cons ordered (.cons framed .nil))).present
  simp only [List.append_nil] at parts
  exact laws.keyword_append (by decide) (laws.parens (laws.join (by decide) parts))

theorem sortSql {order : SortSql} {items offset fetch : List Deferred}
    (keys : EachHolds (fun keys => holds (SqlEmit.keysSql keys)) order.items items)
    (skipped : OptionHolds holds order.offset offset) (fetched : OptionHolds holds order.fetch fetch) :
    holds order.sql (items ++ (offset ++ fetch)) := by
  have count {part : Option Sql} {deferred : List Deferred} (given : OptionHolds holds part deferred)
      {keyword ending : String} (before : Text.Clean keyword) (after : Text.Clean ending) :
      holds (SortSql.rows keyword part ending) deferred := by
    cases given with
    | none => exact laws.empty
    | some given => exact laws.append_keyword after (laws.keyword_append before given)
  have list : holds (Sql.code "\nORDER BY\n" ++ SortSql.keyList order.items) items :=
    laws.keyword_append (by decide) (laws.keyList keys)
  have skips : holds (SortSql.rows "\nOFFSET " order.offset " ROWS") offset :=
    count skipped (by decide) (by decide)
  have fetches : holds (SortSql.rows "\nFETCH NEXT " order.fetch " ROWS ONLY") fetch :=
    count fetched (by decide) (by decide)
  have bounded := laws.append (laws.append list skips) fetches
  rwa [List.append_assoc] at bounded

theorem aliasText {asName : Option String} (given : ∀ name ∈ asName, fine name) :
    holds (Item.aliasText asName) [] := by
  cases asName with
  | none => exact laws.empty
  | some name => exact laws.keyword_append (by decide) (laws.code (given name rfl))

theorem ofPhysical (dialect : Dialect) {column : PhysicalColumn} (name : fine column.name)
    (asName : ∀ given ∈ column.asName, fine given) : holds (Item.ofPhysical dialect column).sql [] := by
  have named : ∀ given ∈ givenName column.asName, fine given :=
    fun given mem => asName given (mem_of_givenName mem)
  have code : holds (Sql.code column.name) [] := laws.code name
  unfold Item.ofPhysical
  split
  · exact laws.append (laws.cast code (by decide)) (laws.aliasText named)
  · refine laws.append code (laws.aliasText fun given mem => named given ?_)
    exact (Option.mem_filter_iff.mp mem).1

theorem lineSql {items : List Item} {deferred : List Deferred}
    (each : EachHolds (fun item => holds item.sql) items deferred) : holds (Item.lineSql items) deferred :=
  laws.join (by decide) each.map

theorem selectSql {s : SelectSql} (dialect : Dialect)
    {top columns source predicate grouping having order limit : List Deferred}
    (counted : OptionHolds holds s.top top)
    (listed : EachHolds (fun items => holds (Item.lineSql items)) s.columns columns)
    (into : ∀ name ∈ s.intoTable, fine name) (rows : OptionHolds holds s.source source)
    (filtered : OptionHolds holds s.predicate predicate) (grouped : EachHolds holds s.grouping grouping)
    (kept : OptionHolds holds s.having having) (sorted : OptionHolds (fun sort => holds sort.sql) s.order order)
    (limited : OptionHolds holds s.limit limit) (unlocked : s.lock = none) :
    holds (s.sql dialect)
      (top ++ (columns ++ (source ++ (predicate ++ (grouping ++ (having ++ (order ++ limit))))))) := by
  have opened : holds (Sql.code (if s.distinct then "SELECT DISTINCT" else "SELECT")) [] :=
    laws.code (laws.keyword (by split <;> decide))
  have topped : holds (SelectSql.topSql s.top) top := by
    generalize s.top = part at counted
    cases counted with
    | none => exact laws.empty
    | some given => exact laws.keyword_append (by decide) (laws.parens given)
  have list : holds (Item.listSql s.columns) columns := laws.join (by decide) listed.map
  have target : holds (Sql.clause ("\n" ++ dialect.intoKeyword ++ " ") (s.intoTable.map Sql.code)) [] := by
    refine laws.clause (by cases dialect <;> decide) ?_
    cases named : s.intoTable with
    | none => exact .none
    | some name => exact .some (laws.code (into name named))
  have keys : holds (SelectSql.groupingSql s.grouping) grouping := by
    generalize s.grouping = parts at grouped
    cases grouped with
    | nil => exact laws.empty
    | cons first others => exact laws.keyword_append (by decide) (laws.join (by decide) (.cons first others))
  have lock : holds (SelectSql.lockSql s.lock) [] := by
    rw [unlocked]
    exact laws.empty
  have head := laws.append (laws.append_keyword (by decide : Text.Clean "\n") (laws.append opened topped)) list
  have read := laws.append (laws.append head target) (laws.clause (by decide : Text.Clean "\nFROM ") rows)
  have middle := laws.append read (laws.clause (by decide : Text.Clean "\nWHERE ") filtered)
  have bound := laws.append (laws.append middle keys) (laws.clause (by decide : Text.Clean "\nHAVING ") kept)
  have last := laws.append bound (laws.clause (by decide : Text.Clean "") sorted.map)
  have whole := laws.append (laws.append last (laws.clause (by decide : Text.Clean "\nLIMIT ") limited)) lock
  simp only [List.append_assoc, List.append_nil, List.nil_append] at whole
  exact whole

theorem unionSql {all : Bool} {left right : QuerySql} {sort : Option SortSql} (dialect : Dialect)
    {before after order : List Deferred} (first : holds (left.sql dialect) before)
    (second : holds (right.sql dialect) after) (sorted : OptionHolds (fun sort => holds sort.sql) sort order) :
    holds ((QuerySql.union all left right sort).sql dialect) (before ++ (after ++ order)) := by
  have between : Text.Clean (QuerySql.unionText all) := by cases all <;> decide
  have both := laws.append (laws.append_keyword between first) second
  have whole := laws.append both (laws.clause (by decide : Text.Clean "") sorted.map)
  rwa [List.append_assoc] at whole

theorem castArguments (dialect : Dialect) (upperName : String) {args : List Sql} {deferred : List Deferred}
    (each : EachHolds holds args deferred) :
    EachHolds holds (Call.castArguments dialect upperName args) deferred := by
  have casts {args : List Sql} {deferred : List Deferred} (each : EachHolds holds args deferred) :
      EachHolds holds (args.map (·.cast "text")) deferred := by
    induction each with
    | nil => exact .nil
    | cons first _ ih => exact .cons (laws.cast first (by decide)) ih
  unfold Call.castArguments
  split
  · exact each
  split
  · cases each with
    | nil => exact .nil
    | cons first others => exact .cons (laws.cast first (by decide)) others
  split
  · exact casts each
  · exact each

theorem callSql (call : Call) (dialect : Dialect) {name : String} (named : fine name) {args : List Sql}
    {window : Option Sql} {before after : List Deferred} (each : EachHolds holds args before)
    (behind : OptionHolds holds window after) :
    holds (call.written dialect name args window) (before ++ after) := by
  have distinct : Text.Clean (if call.distinct then "DISTINCT " else "") := by split <;> decide
  have list := laws.keyword_append distinct
    (laws.join (by decide : Text.Clean ", ") (laws.castArguments dialect call.upperName each))
  unfold Call.written
  refine laws.append (laws.append (laws.code named) ?_) (laws.clause (by decide) behind)
  split
  · exact list
  · exact laws.parens list

end Composes

/-- What a call is written from has the property, or is fine as far as it is raw text. -/
def CallForm.Holds (fine : String → Prop) (holds : Sql → List Deferred → Prop) : CallForm → List Deferred → Prop
  | .fixed sql, deferred => holds sql deferred
  | .named name, deferred => fine name ∧ deferred = []
  | .byteLength, deferred => deferred = []
  | .custom text, deferred => (∀ code, .code code ∈ text.before ++ text.after → fine code) ∧
    (∀ call ∈ text.deferred, holds (.ofPiece (.parameter call.target)) [call]) ∧ deferred = []

section

variable {fine : String → Prop} {holds : Sql → List Deferred → Prop} (laws : Composes fine holds)
  {args : List (Emit Sql)} (each : ∀ x ∈ args, x.Leaves holds) {window : Option (Emit Sql)}
  (behind : ∀ x ∈ window, x.Leaves holds)
include laws each behind

theorem CallPart.leaves {part : CallPart} (plain : ∀ code, part = .code code → fine code) :
    (part.write args window).Leaves holds := by
  cases part with
  | code text => exact .pure (laws.code (plain text rfl))
  | argument place =>
    rw [CallPart.write, List.getD_eq_getElem?_getD]
    cases found : args[place]? with
    | none => exact .pure laws.empty
    | some x => exact each x (List.mem_of_getElem? found)
  | window =>
    cases window with
    | none => exact .pure laws.empty
    | some x => exact behind x rfl

theorem CallText.leaves {text : CallText} (plain : ∀ code, .code code ∈ text.before ++ text.after → fine code)
    (left : ∀ call ∈ text.deferred, holds (.ofPiece (.parameter call.target)) [call]) :
    (text.write args window).Leaves holds := by
  have parts {list : List CallPart} (within : list ⊆ text.before ++ text.after) :
      ∀ x ∈ list.map (CallPart.write args window), x.Leaves holds := by
    intro x mem
    obtain ⟨part, there, rfl⟩ := List.mem_map.mp mem
    exact CallPart.leaves laws each behind fun code is => plain code (within (is ▸ there))
  obtain ⟨first, deferred, last⟩ := text
  refine (Emit.Leaves.all (parts (List.subset_append_left _ _))).bind fun _ before written => ?_
  refine (Emit.Leaves.all (parts (List.subset_append_right _ _))).bind fun _ after follows => ?_
  have opened := laws.join (by decide : Text.Clean "") written
  have closed := laws.join (by decide : Text.Clean "") follows
  cases deferred with
  | none => exact .pure (by simpa using laws.append opened closed)
  | some call =>
    intro sql is
    obtain rfl := Except.ok.inj is
    -- the parameter stands between the two lists, its call is deferred behind both
    refine laws.perm ?_ (laws.append (laws.append opened (left call rfl)) closed)
    rw [List.append_assoc]
    exact List.Perm.append_left before List.perm_append_comm

theorem Context.writeCall_leaves {cx : Context} {call : Call}
    (form : (cx.callForm call).Leaves (CallForm.Holds fine holds)) :
    (cx.writeCall call args window).Leaves holds := by
  refine form.bind fun form deferred is => ?_
  cases form with
  | fixed sql =>
    refine .pure ?_
    rw [List.append_nil]
    exact is
  | named name =>
    obtain ⟨named, rfl⟩ := is
    refine (Emit.Leaves.all each).bind fun _ before list => ?_
    refine (Emit.Leaves.optional behind).map fun _ after part => ?_
    have whole := laws.callSql call cx.dialect named list part
    exact whole
  | byteLength =>
    obtain rfl := is
    cases args with
    | nil => exact .fail _
    | cons value rest =>
      refine (each value List.mem_cons_self).map fun _ deferred inner => ?_
      exact laws.keyword_append (by decide) (laws.parens (laws.cast inner (by decide)))
  | custom text =>
    obtain ⟨plain, left, rfl⟩ := is
    exact CallText.leaves laws each behind plain left

end

/-- A property that composes, in a context that writes the admitted nodes with it where they are written without
parts of their own. -/
structure Context.Carries (cx : Context) (admits : Node → Prop) (fine : String → Prop)
    (holds : Sql → List Deferred → Prop) : Prop extends Composes fine holds where
  column {ref : ColumnRef} (admitted : admits (.expr (.column ref))) {mapping : List PhysicalColumn}
    (mapped : cx.mapping? ref.id = some mapping) :
    ∀ column ∈ mapping, fine column.name ∧ ∀ given ∈ column.asName, fine given
  identity (id : Uuid) : fine (cx.dialect.uuidLiteral id)
  literal {value : Literal} (admitted : admits (.expr (.literal value))) {sql : Sql}
    (ok : cx.literalSql value = .ok sql) : holds sql []
  variableRef {ref : VariableRef} (admitted : admits (.expr (.variableRef ref))) : fine ref.identifier
  memberRef {ref : MemberRef} (admitted : admits (.expr (.memberRef ref))) : fine ref.parameterName
  call {call : Call} (admitted : admits (.expr (.call call))) : (cx.callForm call).Leaves (CallForm.Holds fine holds)
  source {table : TableRef} (admitted : admits (.source table)) {sql : Sql} (ok : cx.tableSource table = .ok sql) :
    holds sql []
  target {table : TableRef} (admitted : admits (.target table)) {name : String}
    (ok : cx.tableName table = .ok name) : fine name
  name {text : String} (admitted : admits (.name text)) : fine text

theorem Context.referenceMapping?_eq_some {cx : Context} {e : Expr} {mapping : List PhysicalColumn} :
    cx.referenceMapping? e = some mapping ↔ ∃ ref, e = .column ref ∧ cx.mapping? ref.id = some mapping := by
  cases e <;> simp [Context.referenceMapping?]

section

variable {cx : Context} {admits : Node → Prop} {fine : String → Prop} {holds : Sql → List Deferred → Prop}
  (laws : cx.Carries admits fine holds)

namespace Context.Carries

include laws

theorem columnSql {ref : ColumnRef} (admitted : admits (.expr (.column ref))) {sql : Sql}
    (ok : cx.columnSql ref = .ok sql) : holds sql [] := by
  unfold Context.columnSql at ok
  split at ok
  case h_1 mapping mapped =>
    obtain rfl := Except.ok.inj ok
    refine laws.lineSql (.of_forall fun item mem => ?_)
    obtain ⟨column, there, rfl⟩ := List.mem_map.mp mem
    obtain ⟨name, given⟩ := laws.column admitted mapped column there
    exact laws.ofPhysical cx.dialect name given
  case h_2 =>
    split at ok
    case h_1 identity _ =>
      obtain rfl := Except.ok.inj ok
      exact laws.code (laws.identity identity)
    case h_2 => cases ok

theorem parameterSql (id : NodeId) {name : String} (is : fine name) : holds (cx.parameterSql id name) [] := by
  unfold Context.parameterSql
  split
  · exact laws.cast (laws.code is) (by decide)
  · exact laws.code is

theorem targetName {table : Option TableRef} (admitted : ∀ node ∈ table.toList.map Node.target, admits node) :
    (Emit.optional (table.map fun table => (cx.tableName table : Emit String))).Leaves
      fun name deferred => (∀ given ∈ name, fine given) ∧ deferred = [] := by
  cases table with
  | none => exact .pure ⟨by simp, rfl⟩
  | some table =>
    have named : (cx.tableName table : Emit String).Leaves fun name deferred => fine name ∧ deferred = [] :=
      .lift fun name ok => ⟨laws.target (admitted _ (by simp)) ok, rfl⟩
    refine named.map fun name deferred is => ⟨fun given mem => ?_, is.2⟩
    obtain rfl := Option.some.inj mem
    exact is.1

end Context.Carries

mutual

theorem Expr.leaves (laws : cx.Carries admits fine holds) :
    ∀ e : Expr, (∀ node ∈ e.nodes, admits node) → (e.emit cx).Leaves holds
  | .column ref, admitted => by
    rw [Expr.emit]
    exact .lift fun _ ok => laws.columnSql (admitted _ (Expr.mem_nodes_self _)) ok
  | .literal value, admitted => by
    rw [Expr.emit]
    exact .lift fun _ ok => laws.literal (admitted _ (Expr.mem_nodes_self _)) ok
  | .variableRef ref, admitted => by
    rw [Expr.emit]
    exact .pure (laws.parameterSql ref.id (laws.variableRef (admitted _ (Expr.mem_nodes_self _))))
  | .memberRef ref, admitted => by
    rw [Expr.emit]
    exact .pure (laws.parameterSql ref.id (laws.memberRef (admitted _ (Expr.mem_nodes_self _))))
  | .call ⟨_, _, args, _, window⟩, admitted => by
    have own := admitted _ (Expr.mem_nodes_self _)
    simp only [Expr.nodes, List.forall_mem_cons, List.forall_mem_append] at admitted
    rw [Expr.emit]
    exact Context.writeCall_leaves laws.toComposes (emitEach_leaves laws args admitted.2.1)
      (emitWindow_leaves laws window admitted.2.2) (laws.call own)
  | .caseWhen branches otherwise, admitted => by
    simp only [Expr.nodes, List.forall_mem_cons, List.forall_mem_append] at admitted
    rw [Expr.emit]
    refine (Emit.Leaves.all (emitBranches_leaves laws branches admitted.2.1)).bind fun _ _ each => ?_
    exact (emitOption_leaves laws otherwise admitted.2.2).map fun _ _ last => laws.caseSql each last
  | .unary op operand, admitted => by
    simp only [Expr.nodes, List.forall_mem_cons] at admitted
    rw [Expr.emit]
    exact (operand.leaves laws admitted.2).map fun _ _ inner => laws.keyword_append (by cases op <;> decide) inner
  | .logical op left right, admitted => by
    simp only [Expr.nodes, List.forall_mem_cons, List.forall_mem_append] at admitted
    rw [Expr.emit]
    refine (left.leaves laws admitted.2.1).bind fun _ _ first => ?_
    exact (right.leaves laws admitted.2.2).map fun _ _ second => laws.binarySql first (by cases op <;> decide) second
  | .arithmetic op left right, admitted => by
    simp only [Expr.nodes, List.forall_mem_cons, List.forall_mem_append] at admitted
    rw [Expr.emit]
    refine (left.leaves laws admitted.2.1).bind fun _ _ first => ?_
    exact (right.leaves laws admitted.2.2).map fun _ _ second => laws.binarySql first (by cases op <;> decide) second
  | .compare op modifier left right, admitted => by
    simp only [Expr.nodes, List.forall_mem_cons, List.forall_mem_append] at admitted
    rw [Expr.emit]
    refine (left.leaves laws admitted.2.1).bind fun _ _ first => ?_
    exact (right.leaves laws admitted.2.2).map fun _ _ second =>
      laws.binarySql first (op.clean_spelled modifier) second
  | .group inner, admitted => by
    simp only [Expr.nodes, List.forall_mem_cons] at admitted
    rw [Expr.emit]
    exact (inner.leaves laws admitted.2).map fun _ _ inner => laws.parens inner
  | .values items, admitted => by
    simp only [Expr.nodes, List.forall_mem_cons] at admitted
    rw [Expr.emit]
    refine (Emit.Leaves.all (emitEach_leaves laws items admitted.2)).map fun _ _ each => ?_
    exact laws.parens (laws.join (by decide) each)
  | .subquery query, admitted => by
    simp only [Expr.nodes, List.forall_mem_cons] at admitted
    rw [Expr.emit]
    exact (query.leaves laws admitted.2).map fun _ _ inner => laws.parens inner
  | .star, _ => by
    rw [Expr.emit]
    exact .pure (laws.code (laws.keyword (by decide)))

theorem emitEach_leaves (laws : cx.Carries admits fine holds) :
    ∀ es : List Expr, (∀ node ∈ eachNodes es, admits node) → ∀ x ∈ emitEach cx es, x.Leaves holds
  | [], _ => by simp [emitEach]
  | e :: es, admitted => by
    rw [eachNodes, List.forall_mem_append] at admitted
    simp only [emitEach, List.forall_mem_cons]
    exact ⟨e.leaves laws admitted.1, emitEach_leaves laws es admitted.2⟩

theorem emitOption_leaves (laws : cx.Carries admits fine holds) :
    ∀ e : Option Expr, (∀ node ∈ optionNodes e, admits node) → (emitOption cx e).Leaves (OptionHolds holds)
  | none, _ => by
    rw [emitOption]
    exact .pure .none
  | some e, admitted => by
    rw [optionNodes] at admitted
    rw [emitOption]
    exact (e.leaves laws admitted).map fun _ _ given => .some given

theorem emitBranches_leaves (laws : cx.Carries admits fine holds) :
    ∀ branches : List Branch, (∀ node ∈ branchNodes branches, admits node) →
      ∀ x ∈ emitBranches cx branches, x.Leaves fun branch => holds (branchSql branch)
  | [], _ => by simp [emitBranches]
  | ⟨condition, result⟩ :: branches, admitted => by
    simp only [branchNodes, List.forall_mem_append] at admitted
    simp only [emitBranches, List.forall_mem_cons]
    refine ⟨?_, emitBranches_leaves laws branches admitted.2.2⟩
    refine (condition.leaves laws admitted.1).bind fun _ _ first => ?_
    exact (result.leaves laws admitted.2.1).map fun _ _ second => laws.branchSql first second

theorem emitWindow_leaves (laws : cx.Carries admits fine holds) :
    ∀ window : Option Window, (∀ node ∈ windowNodes window, admits node) →
      ∀ x ∈ emitWindow cx window, x.Leaves holds
  | none, _ => by simp [emitWindow]
  | some ⟨partition, order, frame⟩, admitted => by
    rw [windowNodes, List.forall_mem_append] at admitted
    simp only [emitWindow, Window.emit, Option.mem_def, Option.some.injEq, forall_eq']
    refine (Emit.Leaves.all (emitEach_leaves laws partition admitted.1)).bind fun _ _ parts => ?_
    exact (emitWindowKeys_leaves laws order admitted.2).map fun _ _ keys => laws.overSql parts keys frame

theorem emitWindowKeys_leaves (laws : cx.Carries admits fine holds) :
    ∀ order : Option SortClause, (∀ node ∈ orderNodes order, admits node) →
      (emitWindowKeys cx order).Leaves (EachHolds fun keys => holds (keysSql keys))
  | none, _ => by
    rw [emitWindowKeys]
    exact .pure .nil
  | some ⟨items, _, _⟩, admitted => by
    rw [orderNodes, List.forall_mem_append] at admitted
    rw [emitWindowKeys]
    exact .all (emitKeys_leaves laws items admitted.1)

theorem emitKeys_leaves (laws : cx.Carries admits fine holds) :
    ∀ items : List SortItem, (∀ node ∈ keyNodes items, admits node) →
      ∀ x ∈ emitKeys cx items, x.Leaves fun keys => holds (keysSql keys)
  | [], _ => by simp [emitKeys]
  | ⟨expr, descending⟩ :: items, admitted => by
    rw [keyNodes, List.forall_mem_append] at admitted
    simp only [emitKeys, List.forall_mem_cons]
    refine ⟨?_, emitKeys_leaves laws items admitted.2⟩
    split
    case h_1 mapping mapped =>
      refine .pure (laws.keysSql (.of_forall fun key mem => ?_))
      obtain ⟨column, there, rfl⟩ := List.mem_map.mp mem
      obtain ⟨ref, rfl, found⟩ := Context.referenceMapping?_eq_some.mp mapped
      exact laws.code (laws.column (admitted.1 _ (Expr.mem_nodes_self _)) found column there).1
    case h_2 =>
      refine (expr.leaves laws admitted.1).map fun written deferred inner => laws.keysSql ?_
      have one : EachHolds (fun key : KeySql => holds key.sql) [⟨written, descending⟩] (deferred ++ []) :=
        .cons inner .nil
      rwa [List.append_nil] at one

theorem emitOrder_leaves (laws : cx.Carries admits fine holds) :
    ∀ order : Option SortClause, (∀ node ∈ orderNodes order, admits node) →
      (emitOrder cx order).Leaves (OptionHolds fun sort => holds sort.sql)
  | none, _ => by
    rw [emitOrder]
    exact .pure .none
  | some ⟨items, offset, fetch⟩, admitted => by
    simp only [orderNodes, List.forall_mem_append] at admitted
    rw [emitOrder, SortClause.emit]
    split
    · exact .pure .none
    refine (Emit.Leaves.all (emitKeys_leaves laws items admitted.1)).bind fun _ _ keys => ?_
    refine (emitOption_leaves laws offset admitted.2.1).bind fun _ _ skipped => ?_
    split
    · refine .pure (.some ?_)
      exact laws.sortSql keys skipped .none
    · refine (emitOption_leaves laws fetch admitted.2.2).map fun _ _ fetched => .some ?_
      exact laws.sortSql keys skipped fetched

theorem Query.leaves (laws : cx.Carries admits fine holds) : ∀ q : Query, (∀ node ∈ q.nodes, admits node) →
    (q.emit cx).Leaves fun written => holds (written.sql cx.dialect)
  | .select s, admitted => by
    rw [Query.emit]
    exact (s.leaves laws admitted).map fun _ _ inner => inner
  | .union all left right order, admitted => by
    simp only [Query.nodes, List.forall_mem_append] at admitted
    rw [Query.emit]
    refine (left.leaves laws admitted.1).bind fun _ _ first => ?_
    refine (right.leaves laws admitted.2.1).bind fun _ _ second => ?_
    exact (emitOrder_leaves laws order admitted.2.2).map fun _ _ sorted =>
      laws.unionSql cx.dialect first second sorted

theorem Select.leaves (laws : cx.Carries admits fine holds) :
    ∀ s : Select, (∀ node ∈ (Query.select s).nodes, admits node) →
      (s.emit cx).Leaves fun written => holds (written.sql cx.dialect)
  | ⟨_, distinct, top, columns, intoTable, source, predicate, grouping, having, order⟩, admitted => by
    simp only [Query.nodes, List.forall_mem_append] at admitted
    obtain ⟨inSource, inTop, inColumns, inTarget, inPredicate, inGrouping, inHaving, inOrder⟩ := admitted
    have counted := emitOption_leaves laws top inTop
    have absent : (pure none : Emit (Option Sql)).Leaves (OptionHolds holds) := .pure .none
    rw [Select.emit]
    refine (Emit.Leaves.pick counted absent).bind fun _ _ top => ?_
    refine (Emit.Leaves.all (emitProjection_leaves laws columns inColumns)).bind fun _ _ columns => ?_
    refine (laws.targetName inTarget).bind fun _ _ into => ?_
    obtain ⟨into, rfl⟩ := into
    refine (emitSource_leaves laws source inSource).bind fun _ rows source => ?_
    refine (emitOption_leaves laws predicate inPredicate).bind fun _ _ predicate => ?_
    refine (Emit.Leaves.all (emitEach_leaves laws grouping inGrouping)).bind fun _ _ grouping => ?_
    refine (emitOption_leaves laws having inHaving).bind fun _ _ having => ?_
    refine (emitOrder_leaves laws order inOrder).bind fun _ _ order => ?_
    refine (Emit.Leaves.pick absent counted).map fun _ _ limit => ?_
    have whole := laws.selectSql (s := { distinct, lock := none, .. }) cx.dialect top columns into source predicate
      grouping having order limit rfl
    exact whole

theorem emitProjection_leaves (laws : cx.Carries admits fine holds) :
    ∀ columns : List Projected, (∀ node ∈ projectionNodes columns, admits node) →
      ∀ x ∈ emitProjection cx columns, x.Leaves fun items => holds (Item.lineSql items)
  | [], _ => by simp [emitProjection]
  | ⟨_, expr, asName⟩ :: columns, admitted => by
    simp only [projectionNodes, List.forall_mem_append] at admitted
    simp only [emitProjection, List.forall_mem_cons]
    refine ⟨?_, emitProjection_leaves laws columns admitted.2.2⟩
    rw [Projected.items]
    split
    case h_1 mapping mapped =>
      refine .pure (laws.lineSql (.of_forall fun item mem => ?_))
      obtain ⟨column, there, rfl⟩ := List.mem_map.mp mem
      obtain ⟨ref, rfl, found⟩ := Context.referenceMapping?_eq_some.mp mapped
      obtain ⟨name, given⟩ := laws.column (admitted.1 _ (Expr.mem_nodes_self _)) found column there
      exact laws.ofPhysical cx.dialect name given
    case h_2 =>
      refine (expr.leaves laws admitted.1).map fun _ deferred inner => ?_
      have named : ∀ name ∈ asName, fine name := by
        rintro name rfl
        exact laws.name (admitted.2.1 _ (by simp))
      have item := laws.append inner (laws.aliasText named)
      rwa [List.append_nil] at item

theorem emitSource_leaves (laws : cx.Carries admits fine holds) :
    ∀ source : Option Source, (∀ node ∈ sourceNodes source, admits node) →
      (emitSource cx source).Leaves (OptionHolds holds)
  | none, _ => by
    rw [emitSource]
    exact .pure .none
  | some source, admitted => by
    rw [sourceNodes] at admitted
    rw [emitSource]
    exact (source.leaves laws admitted).map fun _ _ rows => .some rows

theorem Source.leaves (laws : cx.Carries admits fine holds) :
    ∀ source : Source, (∀ node ∈ source.nodes, admits node) → (source.emit cx).Leaves holds
  | .table table, admitted => by
    rw [Source.emit]
    exact .lift fun _ ok => laws.source (admitted _ (by simp [Source.nodes])) ok
  | .derived ⟨_, query, asName⟩, admitted => by
    rw [Source.nodes, List.forall_mem_cons] at admitted
    rw [Source.emit, Derived.emit]
    exact (query.leaves laws admitted.2).map fun _ _ inner => laws.derivedSql inner (laws.name admitted.1)
  | .join kind left right condition, admitted => by
    simp only [Source.nodes, List.forall_mem_cons, List.forall_mem_append] at admitted
    rw [Source.emit]
    refine (left.leaves laws admitted.2.1).bind fun _ _ first => ?_
    split
    -- nothing is written or deferred for what is appended
    · exact .pure (by simpa using first)
    refine (right.leaves laws admitted.2.2.1).bind fun _ _ second => ?_
    obtain ⟨keyword, ending⟩ := cx.dialect.clean_joinForm kind
    have spaced : Text.Clean ("\n" ++ (cx.dialect.joinForm kind).1 ++ " ") :=
      (Text.Clean.append (by decide) keyword).append (by decide)
    have joined := laws.append_keyword ending (laws.append (laws.append_keyword spaced first) second)
    split
    · refine (emitOption_leaves laws condition admitted.2.2.2).map fun _ _ on => ?_
      have whole := laws.append joined (laws.clause (by decide : Text.Clean "\nON ") on)
      rwa [List.append_assoc] at whole
    · have whole := laws.append joined (laws.clause (by decide : Text.Clean "\nON ") .none)
      rw [List.append_assoc] at whole
      exact .pure whole

end

end

/-- The entity whose type code a call with these arguments asks for. -/
def entityOf : List Expr → Option String
  | .column ref :: _ => some ref.identifier
  | .literal literal :: _ => some literal.text
  | _ => none

theorem Registry.of_standard {name : String} {extension : Extension}
    (found : standard.find? name = some extension) : Text.upper name = "TYPEOF" ∧ extension = .typeOf := by
  have key : Text.upper "TYPEOF" = "TYPEOF" := by decide +kernel
  unfold find? standard register empty at found
  rw [Dict.find?_insert, key] at found
  split at found
  case isTrue same => exact ⟨same.symm, (Option.some.inj found).symm⟩
  case isFalse => simp at found

/-- What the registered functions may defer for a call. -/
inductive Registry.Defers (registry : Registry) (call : Call) : Deferred → Prop
  | typeOf {entity : String} (found : registry.find? call.name = some .typeOf)
      (asks : entityOf call.args = some entity) :
      registry.Defers call ⟨call.upperName, Call.typeParameter entity, call.args⟩
  | custom {write : Scope → Call → Except Error CallText} {scope : Scope} {text : CallText} {deferred : Deferred}
      (found : registry.find? call.name = some (.custom write)) (ok : write scope call = .ok text)
      (left : deferred ∈ text.deferred) : registry.Defers call deferred

namespace Context

variable {cx : Context} {call : Call}

/-- A type code is written as it is known, or as the parameter that is deferred for it. -/
theorem typeOf_leaves : (cx.typeOf call).Leaves fun sql deferred =>
    (∃ code, sql = Sql.code (cx.dialect.bytesLiteral (Literal.typeCodeHex code)) ∧ deferred = []) ∨
      ∃ entity, entityOf call.args = some entity ∧ sql = .ofPiece (.parameter (Call.typeParameter entity)) ∧
        deferred = [⟨call.upperName, Call.typeParameter entity, call.args⟩] := by
  unfold typeOf
  split
  case h_2 ref _ is =>
    split
    case h_1 code _ => exact .pure (.inl ⟨code, rfl, rfl⟩)
    case h_2 => exact fun sql ok => .inr ⟨ref.identifier, by rw [is, entityOf], (Except.ok.inj ok).symm, rfl⟩
  case h_3 literal _ is =>
    exact fun sql ok => .inr ⟨literal.text, by rw [is, entityOf], (Except.ok.inj ok).symm, rfl⟩
  all_goals exact .fail _

end Context

/-- Neither a parameter nor a table, a lock or the next value of a sequence. -/
def Piece.isPlain : Piece → Bool
  | .code _ | .quoted _ => true
  | _ => false

def Sql.Plain (sql : Sql) : Prop :=
  sql.pieces.all Piece.isPlain = true

def CallForm.Plain : CallForm → Prop
  | .fixed sql => sql.Plain
  | .named _ | .byteLength => True
  | .custom _ => False

namespace Context

variable {cx : Context}

theorem plain_literalSql {literal : Literal} {sql : Sql} (ok : cx.literalSql literal = .ok sql) : sql.Plain := by
  obtain ⟨kind, text⟩ := literal
  cases kind with
  | dateTime =>
    simp only [literalSql] at ok
    split at ok <;> (obtain rfl := Except.ok.inj ok; rfl)
  | uuid | entity =>
    obtain ⟨_, -, rest⟩ := Except.bind_ok.mp ok
    obtain rfl := Except.ok.inj rest
    rfl
  | string =>
    obtain rfl := Except.ok.inj ok
    cases cx.dialect <;> rfl
  | _ =>
    obtain rfl := Except.ok.inj ok
    rfl

/-- Of the builtins only VECTOR is written as more than plain text. -/
theorem builtinForm_cases {call : Call} {form : CallForm} (is : cx.builtinForm call = .ok form) :
    form.Plain ∨ call.upperName = "VECTOR" ∧ ∃ drawn, form = .fixed (.ofPiece (.nextValue cx.dialect drawn)) := by
  unfold builtinForm at is
  split at is
  case h_4 _ _ dialect vector | h_9 _ _ dialect vector =>
    obtain ⟨drawn, -, rest⟩ := Except.bind_ok.mp is
    exact .inr ⟨vector, drawn, (Except.ok.inj rest).symm⟩
  case h_5 | h_10 | h_11 | h_12 | h_13 =>
    obtain rfl := Except.ok.inj is
    exact .inl trivial
  all_goals
    obtain rfl := Except.ok.inj is
    exact .inl rfl

/-- A property that all plain text has is carried as soon as tables have it, the next values of sequences and the
parameters of deferred calls. -/
theorem carries_of_plain {admits : Node → Prop} {holds : Sql → List Deferred → Prop}
    (laws : Composes (fun _ => True) holds) (plain : ∀ sql : Sql, sql.Plain → holds sql [])
    (source : ∀ table sql, admits (.source table) → cx.tableSource table = .ok sql → holds sql [])
    (drawn : ∀ call sequence, admits (.expr (.call call)) → cx.registry.find? call.name = none →
      call.upperName = "VECTOR" → holds (.ofPiece (.nextValue cx.dialect sequence)) [])
    (left : ∀ call deferred, admits (.expr (.call call)) → cx.registry.Defers call deferred →
      holds (.ofPiece (.parameter deferred.target)) [deferred]) :
    cx.Carries admits (fun _ => True) holds := by
  refine { laws with
    column := fun _ _ _ _ _ => ⟨trivial, fun _ _ => trivial⟩
    identity := fun _ => trivial
    literal := fun _ _ ok => plain _ (plain_literalSql ok)
    variableRef := fun _ => trivial
    memberRef := fun _ => trivial
    call := ?_
    source := fun admitted _ ok => source _ _ admitted ok
    target := fun _ _ _ => trivial
    name := fun _ => trivial }
  intro call admitted
  unfold callForm
  split
  case h_1 found =>
    refine typeOf_leaves.map fun sql deferred shape => ?_
    rcases shape with ⟨code, rfl, rfl⟩ | ⟨entity, asks, rfl, rfl⟩
    · exact plain _ rfl
    · exact left call _ admitted (.typeOf found asks)
  case h_2 write found =>
    have written : (write cx.scope call : Emit CallText).Leaves fun text deferred =>
        write cx.scope call = .ok text ∧ deferred = [] := .lift fun text ok => ⟨ok, rfl⟩
    refine written.map fun text deferred is => ⟨fun _ _ => trivial, fun own mem => ?_, is.2⟩
    exact left call own admitted (.custom found is.1 mem)
  case h_3 free =>
    split
    · refine .lift fun form is => ?_
      rcases builtinForm_cases is with shape | ⟨vector, sequence, rfl⟩
      · cases form with
        | fixed sql => exact plain sql shape
        | named name => exact ⟨trivial, rfl⟩
        | byteLength => exact rfl
        | custom text => exact shape.elim
      · exact drawn call sequence admitted free vector
    · exact .fail _

end Context

end SqlEmit
