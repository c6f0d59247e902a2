import Mathlib.Data.List.Forall2
import Mathlib.Data.List.Nodup
import SqlEmit.Proofs.Query
import SqlEmit.Statement.Consume.Plan

/-! Carried columns. The projected ones come first; every sort key finds the column it sorts by
under a name that no other column has. -/
namespace SqlEmit.Consume

/-- A name that is taken after `steps` underscores leaves `steps` shorter ones that are taken too. -/
theorem untaken_bound (taken : List String) (steps : Nat) (name : String)
    (present : untaken taken steps name ∈ taken) :
    steps < (taken.filter fun other => name.length ≤ other.length).length := by
  induction steps generalizing name with
  | zero => exact List.length_pos_of_mem (List.mem_filter.mpr ⟨present, by simp [untaken]⟩)
  | succ steps ih =>
    unfold untaken at present
    split at present
    next found =>
      -- the names that are at least as long shrink with every underscore: `name` itself drops out
      have longer := ih (name.push '_') present
      have nested : (taken.filter fun other => (name.push '_').length ≤ other.length) =
          (taken.filter fun other => name.length ≤ other.length).filter
            fun other => (name.push '_').length ≤ other.length := by
        rw [List.filter_filter]
        congr 1
        funext other
        simp only [String.length_push, ← Bool.decide_and, decide_eq_decide]
        omega
      have shorter : ((taken.filter fun other => name.length ≤ other.length).filter
          fun other => (name.push '_').length ≤ other.length).length <
            (taken.filter fun other => name.length ≤ other.length).length := by
        apply List.length_filter_lt_length_iff_exists.mpr
        exact ⟨name, by simp [found], by simp⟩
      rw [nested] at longer
      omega
    next missing => exact absurd present missing

/-- As many underscores as there are taken names always suffice. -/
theorem untaken_fresh (taken : List String) (name : String) :
    untaken taken taken.length name ∉ taken := by
  intro present
  have bound := untaken_bound taken taken.length name present
  have := List.length_filter_le (fun other => decide (name.length ≤ other.length)) taken
  omega

theorem length_le_untaken (taken : List String) (steps : Nat) (name : String) :
    name.length ≤ (untaken taken steps name).length := by
  induction steps generalizing name with
  | zero => exact Nat.le_refl _
  | succ steps ih =>
    unfold untaken
    split
    · have := ih (name.push '_')
      rw [String.length_push] at this
      omega
    · exact Nat.le_refl _

theorem hiddenName_fresh (carried : List Carried) (qualifier : String) (reserved : List String)
    (column : PhysicalColumn) :
    hiddenName carried qualifier reserved column ∉ takenNames carried qualifier reserved column := by
  simp only [hiddenName]
  split
  · exact untaken_fresh _ _
  · assumption

theorem hiddenName_not_carried (carried : List Carried) (qualifier : String)
    (reserved : List String) (column : PhysicalColumn) :
    hiddenName carried qualifier reserved column ∉ carried.map (·.name) := by
  intro present
  exact hiddenName_fresh carried qualifier reserved column (List.mem_append_left _ present)

/-- Only a column of the target may have the name of a key. -/
theorem hiddenName_not_reserved (carried : List Carried) (qualifier : String)
    (reserved : List String) (column : PhysicalColumn)
    (foreign : isTargetColumn qualifier column = false) :
    hiddenName carried qualifier reserved column ∉ reserved := by
  intro present
  apply hiddenName_fresh carried qualifier reserved column
  simp [takenNames, foreign, present]

/-- A name with a table in front is not empty. -/
theorem hiddenName_empty (carried : List Carried) (qualifier : String) (reserved : List String)
    (column : PhysicalColumn) (empty : hiddenName carried qualifier reserved column = "") :
    column.columnName = "" := by
  simp only [hiddenName] at empty
  split at empty
  · have long := length_le_untaken (takenNames carried qualifier reserved column)
      (takenNames carried qualifier reserved column).length
      ((Text.splitIdentifier column.name).1.getD qualifier ++ "_" ++ column.columnName)
    rw [empty] at long
    simp only [String.length_append, String.length_empty] at long
    have : "_".length = 1 := rfl
    omega
  · exact empty

/-- A key of the final order stands for a written key of the source rows: it has the same direction,
and the name of a carried column with that source. -/
def Finds (carried : List Carried) (written : KeySql) (key : SortKey) : Prop :=
  written.descending = key.descending ∧
    ∃ column ∈ carried, column.name = key.name ∧ column.isLength = false ∧
      written.sql = Sql.code column.source

theorem Finds.append {carried : List Carried} {written : KeySql} {key : SortKey}
    (finds : Finds carried written key) (more : List Carried) : Finds (carried ++ more) written key := by
  obtain ⟨direction, column, mem, rest⟩ := finds
  exact ⟨direction, column, List.mem_append_left _ mem, rest⟩

namespace Plan

/-- What holds once the rows are sorted by `keys`. `added` are the columns that are carried for the
order only. -/
structure Invariant (base : List Carried) (qualifier : String) (reserved : List String)
    (keys : List KeySql) (plan : Plan) (added : List Carried) : Prop where
  carried : plan.carried = base ++ added
  hidden : ∀ column ∈ added, column.isHidden = true
  distinct : (added.map (·.name)).Nodup
  fresh : ∀ column ∈ added, column.name ∉ base.map (·.name)
  apart : ∀ column ∈ added, isTargetColumn qualifier (.named column.source) = false →
    column.name ∉ reserved
  nameless : ∀ column ∈ added, column.name = "" → column.columnName = ""
  used : ∀ column ∈ added, column.name ∈ plan.order.map (·.name)
  order : List.Forall₂ (Finds plan.carried) keys plan.order

theorem initial_invariant (base : List Carried) (qualifier : String) (reserved : List String) :
    Invariant base qualifier reserved [] ⟨base, []⟩ [] := by
  constructor <;> simp

/-- One more key finds a carried column, or adds the column that it needs. -/
theorem addKey_cases (plan : Plan) (qualifier : String) (reserved : List String) (ref : ColumnRef)
    (descending : Bool) (place : Nat) (column : PhysicalColumn) :
    (∃ known ∈ plan.carried, known.isLength = false ∧ known.source = column.name ∧
      plan.addKey qualifier reserved ref descending place column =
        ⟨plan.carried, plan.order ++ [⟨known.name, descending⟩]⟩) ∨
    (∃ name, name ∉ plan.names ∧ (isTargetColumn qualifier column = false → name ∉ reserved) ∧
      (name = "" → column.columnName = "") ∧
      plan.addKey qualifier reserved ref descending place column =
        ⟨plan.carried ++ [⟨column.name, name, column.typeName, .sortOnly ref place⟩],
          plan.order ++ [⟨name, descending⟩]⟩) := by
  unfold addKey
  cases search : plan.carried.find? fun carried => !carried.isLength && carried.source = column.name with
  | some known =>
    have found := List.find?_some search
    simp only [Bool.and_eq_true, Bool.not_eq_true', decide_eq_true_eq] at found
    exact .inl ⟨known, List.mem_of_find?_eq_some search, found.1, found.2, rfl⟩
  | none =>
    exact .inr ⟨_, hiddenName_not_carried _ _ _ _, hiddenName_not_reserved _ _ _ _,
      hiddenName_empty _ _ _ _, rfl⟩

theorem addKey_invariant {base added : List Carried} {qualifier : String} {reserved : List String}
    {keys : List KeySql} {plan : Plan} (valid : Invariant base qualifier reserved keys plan added)
    (ref : ColumnRef) (descending : Bool) (place : Nat) (column : PhysicalColumn) :
    ∃ added, Invariant base qualifier reserved (keys ++ [⟨Sql.code column.name, descending⟩])
      (plan.addKey qualifier reserved ref descending place column) added := by
  have stillUsed (key : SortKey) : ∀ other ∈ added, other.name ∈ (plan.order ++ [key]).map (·.name) := by
    intro other present
    rw [List.map_append]
    exact List.mem_append_left _ (valid.used other present)
  rcases addKey_cases plan qualifier reserved ref descending place column with
    ⟨known, mem, notLength, source, result⟩ | ⟨name, absent, apart, nameless, result⟩
  all_goals rw [result]
  · refine ⟨added, valid.carried, valid.hidden, valid.distinct, valid.fresh, valid.apart,
      valid.nameless, stillUsed _, List.rel_append valid.order (.cons ?_ .nil)⟩
    exact ⟨rfl, known, mem, rfl, notLength, by rw [source]⟩
  · rw [names, valid.carried, List.map_append, List.mem_append, not_or] at absent
    -- a property of all added columns has to hold of the new one too
    have extend {property : Carried → Prop} (old : ∀ other ∈ added, property other)
        (here : property ⟨column.name, name, column.typeName, .sortOnly ref place⟩) :
        ∀ other ∈ added ++ [⟨column.name, name, column.typeName, .sortOnly ref place⟩],
          property other := by
      intro other present
      rcases List.mem_append.mp present with earlier | last
      · exact old other earlier
      · rw [List.mem_singleton.mp last]
        exact here
    refine ⟨added ++ [⟨column.name, name, column.typeName, .sortOnly ref place⟩], ?_,
      extend valid.hidden rfl, ?_, extend valid.fresh absent.1, extend valid.apart apart,
      extend valid.nameless nameless, extend (stillUsed _) (by simp), ?_⟩
    · rw [valid.carried, List.append_assoc]
    · rw [List.map_append, List.nodup_append]
      refine ⟨valid.distinct, by simp, ?_⟩
      intro other present last single same
      rw [List.map_singleton, List.mem_singleton] at single
      rw [same, single] at present
      exact absent.2 present
    · apply List.rel_append
      · exact valid.order.imp fun _ _ finds => finds.append _
      · exact .cons ⟨rfl, _, List.mem_append_right _ (List.mem_singleton_self _), rfl, rfl, rfl⟩ .nil

theorem addKeysFrom_invariant {base added : List Carried} {qualifier : String}
    {reserved : List String} {keys : List KeySql} {plan : Plan}
    (valid : Invariant base qualifier reserved keys plan added) (ref : ColumnRef) (descending : Bool)
    (place : Nat) (mapping : List PhysicalColumn) :
    ∃ added, Invariant base qualifier reserved
      (keys ++ mapping.map fun column => ⟨Sql.code column.name, descending⟩)
      (addKeysFrom qualifier reserved ref descending plan place mapping) added := by
  induction mapping generalizing keys plan place added with
  | nil => exact ⟨added, by simpa [addKeysFrom] using valid⟩
  | cons column mapping ih =>
    obtain ⟨_, next⟩ := addKey_invariant valid ref descending place column
    simpa [addKeysFrom] using ih next (place + 1)

/-- An item is sorted by the same columns as in the rows it is read from, whatever else a context of
these rows changes. -/
theorem addItem_invariant {cx : Context} {id : NodeId} {base added : List Carried}
    {qualifier : String} {reserved : List String} {keys : List KeySql} {plan next : Plan}
    {item : SortItem} (valid : Invariant base qualifier reserved keys plan added)
    (sorted : addItem cx id qualifier reserved plan item = .ok next) :
    ∃ written added,
      (∀ context : Context, context.mapping? = cx.mapping? → (item.emit context).result = .ok written) ∧
      Invariant base qualifier reserved (keys ++ written) next added := by
  obtain ⟨expr, descending⟩ := item
  cases expr with
  | column ref =>
    simp only [addItem] at sorted
    cases mapped : cx.mapping? ref.id with
    | none => simp [mapped] at sorted
    | some mapping =>
      simp only [mapped, Except.ok.injEq] at sorted
      subst next
      obtain ⟨added, after⟩ := addKeysFrom_invariant valid ref descending 0 mapping
      refine ⟨_, added, ?_, after⟩
      intro context same
      simp [SortItem.emit, Context.referenceMapping?, same, mapped]
  | _ => simp [addItem] at sorted

theorem addItems_invariant {cx : Context} {id : NodeId} {base added : List Carried}
    {qualifier : String} {reserved : List String} {keys : List KeySql} {plan final : Plan}
    {items : List SortItem} (valid : Invariant base qualifier reserved keys plan added)
    (sorted : items.foldlM (addItem cx id qualifier reserved) plan = .ok final) :
    ∃ written added,
      (∀ context : Context, context.mapping? = cx.mapping? →
        (Emit.all (emitKeys context items)).result = .ok written) ∧
      Invariant base qualifier reserved (keys ++ written.flatten) final added := by
  simp only [emitKeys_eq_map, Emit.all_ok, List.forall₂_map_left_iff]
  induction items generalizing keys plan added with
  | nil =>
    rw [List.foldlM_nil, Except.pure_ok] at sorted
    subst final
    exact ⟨[], added, fun _ _ => .nil, by simpa using valid⟩
  | cons item items ih =>
    rw [List.foldlM_cons, Except.bind_ok] at sorted
    obtain ⟨next, first, rest⟩ := sorted
    obtain ⟨head, _, emitted, between⟩ := addItem_invariant valid first
    obtain ⟨tail, added, emittedRest, after⟩ := ih between rest
    refine ⟨head :: tail, added, ?_, by simpa using after⟩
    intro context same
    exact .cons (emitted context same) (emittedRest context same)

end Plan

/-- A projected column is a reference with columns, or a length under an alias. -/
inductive Projects (cx : Context) (column : Projected) : List Carried → Prop where
  | reference {ref : ColumnRef} {mapping : List PhysicalColumn} (expr : column.expr = .column ref)
      (mapped : cx.mapping? ref.id = some mapping) (nonempty : mapping ≠ []) :
      Projects cx column (carriedColumns column.asName mapping)
  | length {call : Call} {name source : String} (expr : column.expr = .call call)
      (named : column.asName = some name) : Projects cx column [⟨source, name, none, .length⟩]

theorem projected_ok {cx : Context} {column : Projected} {line : List Carried}
    (ok : projected cx column = .ok line) : Projects cx column line := by
  obtain ⟨id, expr, asName⟩ := column
  cases expr with
  | column ref =>
    simp only [projected, Context.columns?] at ok
    cases mapped : cx.mapping? ref.id with
    | none => simp [mapped] at ok
    | some mapping =>
      cases mapping with
      | nil => simp [mapped, Option.filter_some] at ok
      | cons first rest =>
        simp only [mapped, Option.filter_some, List.isEmpty_cons, Bool.not_false, if_true,
          Except.ok.injEq] at ok
        subst line
        exact .reference rfl mapped (List.cons_ne_nil _ _)
  | call call =>
    simp only [projected] at ok
    split at ok
    · cases asName with
      | none => simp at ok
      | some name =>
        cases argument : lengthSource cx call with
        | none => simp [argument] at ok
        | some source =>
          simp only [argument, Except.ok.injEq] at ok
          subst line
          exact .length rfl rfl
    · simp at ok
  | _ => simp [projected] at ok

theorem Projects.visible {cx : Context} {column : Projected} {line : List Carried}
    (projects : Projects cx column line) : ∀ carried ∈ line, carried.isHidden = false := by
  cases projects with
  | reference =>
    intro carried mem
    obtain ⟨physical, -, rfl⟩ := List.mem_map.mp mem
    rfl
  | length => simp [Carried.isHidden]

/-- The alias of a reference to one physical column repeats the name that the column has anyway. -/
def AliasAgrees (cx : Context) (column : Projected) : Prop :=
  ∀ mapping ∈ cx.referenceMapping? column.expr, ∀ name ∈ column.asName, mapping.length = 1 →
    ∀ physical ∈ mapping, name = physical.outputName

instance (cx : Context) (column : Projected) : Decidable (AliasAgrees cx column) :=
  inferInstanceAs (Decidable (∀ mapping ∈ cx.referenceMapping? column.expr, ∀ name ∈ column.asName,
    mapping.length = 1 → ∀ physical ∈ mapping, name = physical.outputName))

/-- The name of a column of a reference is its output name, unless an alias says otherwise. -/
theorem carriedColumns_name {cx : Context} {column : Projected} {ref : ColumnRef}
    {mapping : List PhysicalColumn} (agrees : AliasAgrees cx column) (expr : column.expr = .column ref)
    (mapped : cx.mapping? ref.id = some mapping) (physical : PhysicalColumn) (mem : physical ∈ mapping) :
    (column.asName.filter fun _ => mapping.length = 1).getD physical.outputName = physical.outputName := by
  cases named : column.asName with
  | none => rfl
  | some name =>
    by_cases single : mapping.length = 1
    · have same := agrees mapping (by rw [expr]; exact mapped) name named single physical mem
      simp [Option.filter_some, single, same]
    · simp [Option.filter_some, single]

theorem Projects.names {cx : Context} {column : Projected} {line : List Carried}
    (projects : Projects cx column line) (agrees : AliasAgrees cx column) :
    line.map (·.name) = cx.outputNames column := by
  cases projects with
  | @reference _ mapping expr mapped _ =>
    have referenced : cx.referenceMapping? column.expr = some mapping := by rw [expr]; exact mapped
    simp only [Context.outputNames, referenced, carriedColumns, List.map_map]
    apply List.map_congr_left
    intro physical mem
    exact carriedColumns_name agrees expr mapped physical mem
  | length expr named => simp [Context.outputNames, Context.referenceMapping?, expr, named]

/-- A column is without a name only if its source is. -/
theorem Projects.nameless {cx : Context} {column : Projected} {line : List Carried}
    (projects : Projects cx column line) (agrees : AliasAgrees cx column) :
    ∀ carried ∈ line, carried.isLength = false → carried.name = "" → carried.columnName = "" := by
  cases projects with
  | reference expr mapped _ =>
    intro carried mem _ empty
    obtain ⟨physical, present, rfl⟩ := List.mem_map.mp mem
    have name := carriedColumns_name agrees expr mapped physical present
    have output : physical.outputName = "" := name.symm.trans empty
    rw [PhysicalColumn.outputName_eq] at output
    unfold givenName at output
    split at output
    next => split at output <;> simp_all [Carried.columnName, PhysicalColumn.columnName]
    next => exact output
  | length => simp [Carried.isLength]

def sortItems (s : Consume) : List SortItem :=
  (s.order.map (·.items)).getD []

structure Planned (cx : Context) (s : Consume) (qualifier : String) (reserved : List String)
    (plan : Plan) : Prop where
  projection : ∃ lines, List.Forall₂ (Projects cx) s.columns lines ∧ plan.visible = lines.flatten
  carried : plan.carried = plan.visible ++ plan.hidden
  distinct : (plan.hidden.map (·.name)).Nodup
  fresh : ∀ column ∈ plan.hidden, column.name ∉ plan.visibleNames
  apart : ∀ column ∈ plan.hidden, isTargetColumn qualifier (.named column.source) = false →
    column.name ∉ reserved
  nameless : ∀ column ∈ plan.hidden, column.name = "" → column.columnName = ""
  used : ∀ column ∈ plan.hidden, column.name ∈ plan.order.map (·.name)
  order : ∃ written,
    (∀ context : Context, context.mapping? = cx.mapping? →
      (Emit.all (emitKeys context s.sortItems)).result = .ok written) ∧
    List.Forall₂ (Finds plan.carried) written.flatten plan.order

/-- A property of what each projected column carries is one of all the columns it carries. -/
theorem forall_carried {cx : Context} {columns : List Projected} {lines : List (List Carried)}
    {property : Carried → Prop} (projects : List.Forall₂ (Projects cx) columns lines)
    (each : ∀ column ∈ columns, ∀ line, Projects cx column line → ∀ carried ∈ line, property carried) :
    ∀ carried ∈ lines.flatten, property carried := by
  induction projects with
  | nil => simp
  | cons head _ ih =>
    intro carried mem
    rw [List.flatten_cons, List.mem_append] at mem
    rcases mem with first | later
    · exact each _ (by simp) _ head carried first
    · exact ih (fun column mem => each column (List.mem_cons_of_mem _ mem)) carried later

theorem carried_names {cx : Context} {columns : List Projected} {lines : List (List Carried)}
    (projects : List.Forall₂ (Projects cx) columns lines)
    (agrees : ∀ column ∈ columns, AliasAgrees cx column) :
    lines.flatten.map (·.name) = columns.flatMap cx.outputNames := by
  induction projects with
  | nil => rfl
  | cons head _ ih =>
    rw [List.flatten_cons, List.map_append, List.flatMap_cons, head.names (agrees _ (by simp)),
      ih fun column mem => agrees column (List.mem_cons_of_mem _ mem)]

theorem planned_of_ok {cx : Context} {s : Consume} {qualifier : String} {reserved : List String}
    {plan : Plan} (ok : Plan.ofStatement cx s qualifier reserved = .ok plan) :
    Planned cx s qualifier reserved plan := by
  unfold Plan.ofStatement at ok
  rw [Except.bind_ok] at ok
  obtain ⟨lines, projection, sorted⟩ := ok
  have projects := (Except.mapM_ok.mp projection).imp fun _ _ => projected_ok
  obtain ⟨written, added, keys, valid⟩ :=
    Plan.addItems_invariant (Plan.initial_invariant lines.flatten qualifier reserved) sorted
  have shown := forall_carried projects fun _ _ _ projected => projected.visible
  have visible : plan.visible = lines.flatten := by
    rw [Plan.visible, valid.carried, List.filter_append, List.filter_eq_self.mpr,
      List.filter_eq_nil_iff.mpr, List.append_nil]
    · simpa using valid.hidden
    · simpa using shown
  have hidden : plan.hidden = added := by
    rw [Plan.hidden, valid.carried, List.filter_append, List.filter_eq_nil_iff.mpr,
      List.filter_eq_self.mpr, List.nil_append]
    · exact valid.hidden
    · simpa using shown
  refine ⟨⟨lines, projects, visible⟩, ?_, ?_, ?_, ?_, ?_, ?_, written, keys, valid.order⟩
  · rw [visible, hidden, valid.carried]
  · rw [hidden]; exact valid.distinct
  · rw [hidden, Plan.visibleNames, visible]; exact valid.fresh
  · rw [hidden]; exact valid.apart
  · rw [hidden]; exact valid.nameless
  · rw [hidden]; exact valid.used

namespace Planned

variable {cx : Context} {s : Consume} {qualifier : String} {reserved : List String} {plan : Plan}

theorem names (planned : Planned cx s qualifier reserved plan) :
    plan.names = plan.visibleNames ++ plan.hidden.map (·.name) := by
  rw [Plan.names, planned.carried, List.map_append, Plan.visibleNames]

/-- Under aliases that agree the caller sees the names of the select list. -/
theorem visibleNames (planned : Planned cx s qualifier reserved plan)
    (agrees : ∀ column ∈ s.columns, AliasAgrees cx column) :
    plan.visibleNames = s.columns.flatMap cx.outputNames := by
  obtain ⟨lines, projects, visible⟩ := planned.projection
  rw [Plan.visibleNames, visible, carried_names projects agrees]

theorem carried_nameless (planned : Planned cx s qualifier reserved plan)
    (agrees : ∀ column ∈ s.columns, AliasAgrees cx column) :
    ∀ column ∈ plan.carried, column.isLength = false → column.name = "" → column.columnName = "" := by
  obtain ⟨lines, projects, visible⟩ := planned.projection
  intro column mem
  rw [planned.carried, List.mem_append] at mem
  rcases mem with shown | sorted
  · rw [visible] at shown
    exact forall_carried projects (fun projected present _ projects =>
      projects.nameless (agrees projected present)) column shown
  · exact fun _ => planned.nameless column sorted

theorem hidden_eq_nil (planned : Planned cx s qualifier reserved plan) (unsorted : plan.order = []) :
    plan.hidden = [] := by
  apply List.eq_nil_iff_forall_not_mem.mpr
  intro column mem
  have used := planned.used column mem
  simp [unsorted] at used

theorem key_mem_names (planned : Planned cx s qualifier reserved plan) :
    ∀ key ∈ plan.order, key.name ∈ plan.names := by
  obtain ⟨written, -, finds⟩ := planned.order
  intro key mem
  obtain ⟨i, bound, rfl⟩ := List.mem_iff_getElem.mp mem
  have found := finds.get (by rw [finds.length_eq]; exact bound) bound
  obtain ⟨-, column, carried, name, -⟩ := found
  exact List.mem_map.mpr ⟨column, carried, name⟩

end Planned

end SqlEmit.Consume
