import Mathlib.Data.List.Nodup
import SqlEmit.Proofs.Insert.Lists

/-! How the columns of a mapped reference are given to the columns of a property. As many columns as the
property has are paired by position, any other number by tag. The two agree where the mapping keeps the
order of the property. -/
namespace SqlEmit.Insert

def tags (columns : List PhysicalColumn) : List TypeTag :=
  columns.filterMap (·.tag)

/-- The value that a target column takes from the column of a mapping with its tag. -/
def taggedValue? (source : String) (mapping : List PhysicalColumn) (target : PhysicalColumn) :
    Option InsertValue :=
  (mapping.find? fun entry => entry.tag = target.tag).map fun entry => .copied source entry.outputName

/-- Every target column takes the column of its own tag. -/
def PairsByTag (source : String) (mapping targets : List PhysicalColumn) (values : List InsertValue) :
    Prop :=
  targets.map (taggedValue? source mapping) = values.map some

instance (source : String) (mapping targets : List PhysicalColumn) (values : List InsertValue) :
    Decidable (PairsByTag source mapping targets values) :=
  inferInstanceAs (Decidable (_ = _))

theorem tag_of_mem_propertyTargets {property : Property} {target : PhysicalColumn}
    (mem : target ∈ propertyTargets property) : ∃ kind, target.tag = some kind := by
  obtain ⟨column, -, rfl⟩ := List.mem_map.mp mem
  exact ⟨column.tag, rfl⟩

theorem map_tag_propertyTargets (property : Property) :
    (propertyTargets property).map (·.tag) = (tags (propertyTargets property)).map some := by
  simp [tags, propertyTargets, List.filterMap_map, Function.comp_def]

theorem mem_tags {columns : List PhysicalColumn} {kind : TypeTag} :
    kind ∈ tags columns ↔ ∃ column ∈ columns, column.tag = some kind :=
  List.mem_filterMap

/-- A mapping with the tags of a property has a value for each of its columns. -/
theorem exists_taggedValue {mapping : List PhysicalColumn} {property : Property} {target : PhysicalColumn}
    (source : String) (same : ∀ kind, kind ∈ tags mapping ↔ kind ∈ tags (propertyTargets property))
    (mem : target ∈ propertyTargets property) : ∃ value, taggedValue? source mapping target = some value := by
  obtain ⟨kind, has⟩ := tag_of_mem_propertyTargets mem
  obtain ⟨entry, there, carries⟩ := mem_tags.mp ((same kind).mpr (mem_tags.mpr ⟨target, mem, has⟩))
  have some : (mapping.find? fun entry => entry.tag = target.tag).isSome :=
    List.find?_isSome.mpr ⟨entry, there, by simp [carries, has]⟩
  obtain ⟨first, found⟩ := Option.isSome_iff_exists.mp some
  exact ⟨_, congrArg (Option.map _) found⟩

section

variable {cx : Context} {source : String} {column : Projected} {ref : ColumnRef}
  {mapping targets : List PhysicalColumn}

theorem outputs_of_mapping (is : column.expr = .column ref) (mapped : cx.mapping? ref.id = some mapping)
    (present : mapping ≠ []) : column.outputs cx = mapping.map PhysicalColumn.output := by
  simp [Projected.outputs, is, Context.referenceMapping?, mapped, Option.filter_some, present]

theorem propertyValues_of_column (is : column.expr = .column ref) :
    (propertyValues cx source column targets).result =
      if (column.outputs cx).length = targets.length then
        .ok ((column.outputs cx).map fun output => .copied source output.name)
      else targets.mapM (taggedOutput source column (column.outputs cx)) := by
  have plain : column.sequence? = .ok none := by simp [Projected.sequence?, is]
  simp only [propertyValues, plain, is, Emit.result_bind, Emit.result_lift]
  split <;> rfl

theorem values_by_position (is : column.expr = .column ref) (mapped : cx.mapping? ref.id = some mapping)
    (present : mapping ≠ []) (same : mapping.length = targets.length) :
    (propertyValues cx source column targets).result =
      .ok (mapping.map fun entry => .copied source entry.outputName) := by
  have outputs := outputs_of_mapping is mapped present
  rw [propertyValues_of_column is, outputs, if_pos (by simpa using same), List.map_map]
  rfl

theorem taggedOutput_of_tagged {target : PhysicalColumn} {value : InsertValue}
    (tagged : ∃ kind, target.tag = some kind) (takes : taggedValue? source mapping target = some value) :
    taggedOutput source column (mapping.map PhysicalColumn.output) target = .ok value := by
  obtain ⟨kind, is⟩ := tagged
  obtain ⟨entry, found, rfl⟩ := Option.map_eq_some_iff.mp takes
  have same : (fun output : PhysicalColumn => output.tag.isSome && decide (output.tag = target.tag)) ∘
      PhysicalColumn.output = fun entry => decide (entry.tag = target.tag) := by
    funext entry
    by_cases has : entry.tag = some kind
    · simp [PhysicalColumn.output, is, has]
    · simp [PhysicalColumn.output, is, has]
  rw [taggedOutput, List.find?_map, same, found]
  rfl

theorem values_by_tag (is : column.expr = .column ref) (mapped : cx.mapping? ref.id = some mapping)
    (present : mapping ≠ []) (differs : mapping.length ≠ targets.length)
    (tagged : ∀ target ∈ targets, ∃ kind, target.tag = some kind)
    (found : ∀ target ∈ targets, ∃ value, taggedValue? source mapping target = some value) :
    ∃ values, (propertyValues cx source column targets).result = .ok values ∧
      PairsByTag source mapping targets values := by
  have outputs := outputs_of_mapping is mapped present
  rw [propertyValues_of_column is, outputs, if_neg (by simpa using differs)]
  simp only [Except.mapM_ok]
  clear differs
  induction targets with
  | nil => exact ⟨[], .nil, rfl⟩
  | cons target targets ih =>
    obtain ⟨value, takes⟩ := found target List.mem_cons_self
    obtain ⟨values, rest, pairs⟩ := ih (fun other mem => tagged other (List.mem_cons_of_mem _ mem))
      fun other mem => found other (List.mem_cons_of_mem _ mem)
    refine ⟨value :: values, .cons (taggedOutput_of_tagged (tagged target List.mem_cons_self) takes) rest, ?_⟩
    simpa [PairsByTag, takes] using pairs

/-- A reference without columns gives a property without columns its values. -/
theorem values_of_nothing (is : column.expr = .column ref) (mapped : cx.mapping? ref.id = some []) :
    (propertyValues cx source column []).result = .ok [] := by
  have outputs : column.outputs cx = [.named (column.name.getD "column")] := by
    simp [Projected.outputs, is, Context.referenceMapping?, mapped, Option.filter_some]
  rw [propertyValues_of_column is, outputs]
  rfl

theorem exists_values (is : column.expr = .column ref) (mapped : cx.mapping? ref.id = some mapping)
    (tagged : ∀ target ∈ targets, ∃ kind, target.tag = some kind)
    (found : ∀ target ∈ targets, ∃ value, taggedValue? source mapping target = some value) :
    ∃ values, (propertyValues cx source column targets).result = .ok values ∧
      values.length = targets.length ∧
      (mapping.length = targets.length →
        values = mapping.map fun entry => .copied source entry.outputName) ∧
      (mapping.length ≠ targets.length → PairsByTag source mapping targets values) := by
  by_cases none : mapping = []
  · subst none
    obtain rfl : targets = [] := by
      refine List.eq_nil_iff_forall_not_mem.mpr fun target mem => ?_
      obtain ⟨value, takes⟩ := found target mem
      simp [taggedValue?] at takes
    exact ⟨[], values_of_nothing is mapped, rfl, fun _ => rfl, fun _ => rfl⟩
  by_cases count : mapping.length = targets.length
  · exact ⟨_, values_by_position is mapped none count, by simpa using count, fun _ => rfl,
      fun differs => absurd count differs⟩
  · obtain ⟨values, ok, pairs⟩ := values_by_tag is mapped none count tagged found
    exact ⟨values, ok, by simpa using (congrArg List.length pairs).symm, fun same => absurd same count,
      fun _ => pairs⟩

theorem find?_of_nodup [DecidableEq β] {f : α → β} {xs : List α} (nodup : (xs.map f).Nodup) {x : α}
    (mem : x ∈ xs) : xs.find? (fun y => f y = f x) = some x := by
  have some : (xs.find? fun y => f y = f x).isSome := List.find?_isSome.mpr ⟨x, mem, by simp⟩
  obtain ⟨y, found⟩ := Option.isSome_iff_exists.mp some
  have same : f y = f x := by simpa using List.find?_some found
  rw [found, List.inj_on_of_nodup_map nodup (List.mem_of_find?_eq_some found) mem same]

/-- A mapping in the order of the property is paired alike in both ways. -/
theorem pairsByTag_of_order (distinct : (targets.map (·.tag)).Nodup)
    (order : mapping.map (·.tag) = targets.map (·.tag)) :
    PairsByTag source mapping targets (mapping.map fun entry => .copied source entry.outputName) := by
  let byTag (kind : Option TypeTag) : Option InsertValue :=
    (mapping.find? fun entry => entry.tag = kind).map fun entry => .copied source entry.outputName
  rw [← order] at distinct
  calc targets.map (taggedValue? source mapping)
      = (targets.map (·.tag)).map byTag := by
        rw [List.map_map]
        rfl
    _ = mapping.map fun entry => byTag entry.tag := by
        rw [← order, List.map_map]
        rfl
    _ = mapping.map fun entry => some (.copied source entry.outputName) := by
        refine List.map_congr_left fun entry mem => ?_
        simp only [byTag, find?_of_nodup distinct mem, Option.map_some]
    _ = (mapping.map fun entry => .copied source entry.outputName).map some := by
        rw [List.map_map]
        rfl

/-- Where the names of the columns are distinct, pairing by position agrees with the tags only in the
order of the property. -/
theorem order_of_pairsByTag (same : mapping.length = targets.length)
    (names : (mapping.map (·.outputName)).Nodup)
    (pairs : PairsByTag source mapping targets (mapping.map fun entry => .copied source entry.outputName)) :
    mapping.map (·.tag) = targets.map (·.tag) := by
  refine List.ext_getElem (by simpa using same) fun place inMapping inTargets => ?_
  simp only [List.length_map] at inMapping inTargets
  have here := congrArg (·[place]?) pairs
  simp only [List.getElem?_map, List.getElem?_eq_getElem inTargets, List.getElem?_eq_getElem inMapping,
    Option.map_some, Option.some.injEq] at here
  obtain ⟨entry, found, is⟩ := Option.map_eq_some_iff.mp here
  have named : entry.outputName = mapping[place].outputName := (InsertValue.copied.inj is).2
  have tagged : entry.tag = targets[place].tag := by simpa using List.find?_some found
  have one : entry = mapping[place] :=
    List.inj_on_of_nodup_map names (List.mem_of_find?_eq_some found) (List.getElem_mem inMapping) named
  rw [List.getElem_map, List.getElem_map, ← one, tagged]

end

theorem propertyLists_of_supplier {cx : Context} {source : String} {projection : List Projected}
    {property : Property} {column : Projected} {values : List InsertValue}
    (supplier : supplier? projection property = some column)
    (ok : (propertyValues cx source column (propertyTargets property)).result = .ok values) :
    (propertyLists cx source projection property).result =
      .ok ⟨(propertyTargets property).map (·.name), values⟩ := by
  obtain ⟨kept, present, found⟩ := supplier?_some supplier
  simp only [propertyLists, kept, Bool.false_eq_true, if_false, found]
  cases targets : propertyTargets property with
  | nil => exact absurd targets present
  | cons first others =>
    rw [targets] at ok
    exact Emit.bind_ok.mpr ⟨values, ok, rfl⟩

/-- A mapped reference whose tags are those of a property, each of them there only once, gives every
column of the property a value. As many columns as the property has are paired by position, another
number by tag. The columns take the values of their tags where the numbers differ or the mapping keeps
the order of the property and, if the names in the mapping are distinct, only there. -/
theorem values_pair_by_tag_iff {cx : Context} {column : Projected} {ref : ColumnRef}
    {mapping : List PhysicalColumn} {property : Property} (source : String) (is : column.expr = .column ref)
    (mapped : cx.mapping? ref.id = some mapping) (distinct : (tags (propertyTargets property)).Nodup)
    (same : ∀ kind, kind ∈ tags mapping ↔ kind ∈ tags (propertyTargets property)) :
    ∃ values, (propertyValues cx source column (propertyTargets property)).result = .ok values ∧
      (∀ projection, supplier? projection property = some column →
        (propertyLists cx source projection property).result =
          .ok ⟨(propertyTargets property).map (·.name), values⟩) ∧
      values.length = (propertyTargets property).length ∧
      (mapping.length = (propertyTargets property).length →
        values = mapping.map fun entry => .copied source entry.outputName) ∧
      (mapping.length ≠ (propertyTargets property).length ∨
          mapping.map (·.tag) = (propertyTargets property).map (·.tag) →
        PairsByTag source mapping (propertyTargets property) values) ∧
      ((mapping.map (·.outputName)).Nodup → PairsByTag source mapping (propertyTargets property) values →
        mapping.length ≠ (propertyTargets property).length ∨
          mapping.map (·.tag) = (propertyTargets property).map (·.tag)) := by
  have nodup : ((propertyTargets property).map (·.tag)).Nodup := by
    rw [map_tag_propertyTargets]
    exact distinct.map fun _ _ => Option.some.inj
  obtain ⟨values, ok, length, placed, paired⟩ := exists_values is mapped
    (fun _ => tag_of_mem_propertyTargets) fun _ => exists_taggedValue source same
  refine ⟨values, ok, fun projection supplier => propertyLists_of_supplier supplier ok, length, placed, ?_, ?_⟩
  · rintro (differs | order)
    · exact paired differs
    · rw [placed (by simpa using congrArg List.length order)]
      exact pairsByTag_of_order nodup order
  · intro names pairs
    by_cases count : mapping.length = (propertyTargets property).length
    · rw [placed count] at pairs
      exact .inr (order_of_pairsByTag count names pairs)
    · exact .inl count

end SqlEmit.Insert

namespace SqlEmit.Documents

/-- The owner of a document as the rows of a draft give it, its identity in front. -/
def identityFirst : List PhysicalColumn :=
  [⟨"t._OwnerRRef", some "Owner_RRef", some .entity, none⟩,
    ⟨"t._OwnerTRef", some "Owner_TRef", some .typeCode, none⟩]

def draft (mapping : List PhysicalColumn) : Context :=
  .ofStatements .sqlServer ⟨Dict.empty, Dict.ofList [(⟨3⟩, mapping)]⟩ Catalog.empty Registry.standard 0
    (fun _ => default) []

def draftOwner : Projected := ⟨⟨4⟩, .column ⟨⟨3⟩, "t.Owner"⟩, none⟩

def ownerValues (mapping : List PhysicalColumn) : Except Error (List InsertValue) :=
  (Insert.propertyValues (draft mapping) "source" draftOwner (Insert.propertyTargets (reference "Owner"))).result

theorem draft_mapping (mapping : List PhysicalColumn) : (draft mapping).mapping? ⟨3⟩ = some mapping := rfl

theorem distinct_owner : (Insert.tags (Insert.propertyTargets (reference "Owner"))).Nodup := by
  decide +kernel

end SqlEmit.Documents

namespace SqlEmit

/-- A reference in the order of the property, and one with a column more in any order. -/
theorem Insert.values_pair_by_tag_of_owner :
    (∃ values, Documents.ownerValues Documents.identityFirst.reverse = .ok values ∧
      PairsByTag "source" Documents.identityFirst.reverse (propertyTargets (Documents.reference "Owner"))
        values) ∧
    ∃ values, Documents.ownerValues (.named "t._Owner" :: Documents.identityFirst) = .ok values ∧
      PairsByTag "source" (.named "t._Owner" :: Documents.identityFirst)
        (propertyTargets (Documents.reference "Owner")) values := by
  have owner : tags (propertyTargets (Documents.reference "Owner")) = [.typeCode, .entity] := by decide +kernel
  have reversed : tags Documents.identityFirst.reverse = [.typeCode, .entity] := by decide
  have more : tags (.named "t._Owner" :: Documents.identityFirst) = [.entity, .typeCode] := by decide
  have is : Documents.draftOwner.expr = .column ⟨⟨3⟩, "t.Owner"⟩ := rfl
  constructor
  · have same : ∀ kind, kind ∈ tags Documents.identityFirst.reverse ↔
        kind ∈ tags (propertyTargets (Documents.reference "Owner")) := by simp [owner, reversed]
    obtain ⟨values, ok, -, -, -, paired, -⟩ := values_pair_by_tag_iff "source" is
      (Documents.draft_mapping Documents.identityFirst.reverse) Documents.distinct_owner same
    exact ⟨values, ok, paired (.inr (by decide +kernel))⟩
  · have same : ∀ kind, kind ∈ tags (.named "t._Owner" :: Documents.identityFirst) ↔
        kind ∈ tags (propertyTargets (Documents.reference "Owner")) := by simp [owner, more, or_comm]
    obtain ⟨values, ok, -, -, -, paired, -⟩ := values_pair_by_tag_iff "source" is
      (Documents.draft_mapping (.named "t._Owner" :: Documents.identityFirst)) Documents.distinct_owner same
    exact ⟨values, ok, paired (.inl (by decide +kernel))⟩

/-- An owner with its identity in front has the tags of the property, and the identity is written into the
column of the type code. -/
theorem Insert.identity_pairs_with_type_code :
    (Documents.draft Documents.identityFirst).mapping? ⟨3⟩ = some Documents.identityFirst ∧
    (tags (propertyTargets (Documents.reference "Owner"))).Nodup ∧
    (∀ kind, kind ∈ tags Documents.identityFirst ↔
      kind ∈ tags (propertyTargets (Documents.reference "Owner"))) ∧
    (propertyTargets (Documents.reference "Owner")).map (·.name) = ["_OwnerTRef", "_OwnerRRef"] ∧
    ∃ values, Documents.ownerValues Documents.identityFirst = .ok values ∧
      values = [.copied "source" "Owner_RRef", .copied "source" "Owner_TRef"] ∧
      ¬PairsByTag "source" Documents.identityFirst (propertyTargets (Documents.reference "Owner")) values := by
  have owner : tags (propertyTargets (Documents.reference "Owner")) = [.typeCode, .entity] := by decide +kernel
  have first : tags Documents.identityFirst = [.entity, .typeCode] := by decide
  refine ⟨rfl, Documents.distinct_owner, fun kind => by simp [owner, first, or_comm], by decide +kernel, ?_⟩
  exact Except.exists_ok (by decide +kernel)

end SqlEmit
