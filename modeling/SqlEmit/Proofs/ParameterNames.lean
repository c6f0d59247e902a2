import SqlEmit.Proofs.DeferredCalls
import SqlEmit.Proofs.GluedNames

/-! The parameters of a statement and the values they stand for. A parameter for the type code of an entity is
named after the entity, with underscores for dots, and one for a member after its object and itself with an
underscore between them. Both names can be read in two ways, so one parameter may be asked to carry two
values. -/
namespace SqlEmit

namespace MemberRef

theorem Overlaps.objectName_ne {a b : MemberRef} (overlaps : a.Overlaps b) : a.objectName ≠ b.objectName := by
  obtain ⟨between, object, -⟩ := overlaps
  intro same
  have lengths := congrArg List.length (same.trans object)
  simp at lengths

end MemberRef

namespace Deferred

/-- The deferred call is this call of a statement, which asks for the type code of the entity. -/
structure StandsFor (deferred : Deferred) (call : Call) (entity : String) : Prop where
  function : call.upperName = "TYPEOF"
  asks : entityOf call.args = some entity
  same : deferred = ⟨"TYPEOF", Call.typeParameter entity, call.args⟩

theorem StandsFor.entityOf_args {deferred : Deferred} {call : Call} {entity : String}
    (origin : deferred.StandsFor call entity) : entityOf deferred.args = some entity := by
  rw [origin.same]
  exact origin.asks

theorem StandsFor.target_eq_iff {first second : Deferred} {call call' : Call} {a b : String}
    (one : first.StandsFor call a) (other : second.StandsFor call' b) :
    first.target = second.target ↔ Text.Blurs a b := by
  rw [one.same, other.same]
  exact Call.typeParameter_eq_iff

end Deferred

namespace Statement

/-- What the standard registry defers for a statement that is written are its TYPEOF calls. -/
theorem deferred_standsFor {cx : Context} (standard : cx.registry = .standard) {statement : Statement} {sql : Sql}
    (ok : (statement.emit cx).result = .ok sql) :
    ∀ deferred ∈ (statement.emit cx).deferred,
      ∃ call entity, .call call ∈ statement.expressions ∧ deferred.StandsFor call entity := by
  refine (Statement.defers (fun node mem call there deferred defers => ?_) sql ok).2
  have within : .call call ∈ statement.expressions := by
    refine List.mem_flatMap.mpr ⟨node, mem, ?_⟩
    unfold Node.calls at there
    split at there
    · rw [List.mem_singleton.mp there]
      exact List.mem_singleton.mpr rfl
    · cases there
  rw [standard] at defers
  cases defers with
  | typeOf found asks =>
    have upper : call.upperName = "TYPEOF" := (Registry.of_standard found).1
    exact ⟨call, _, within, upper, asks, by rw [upper]⟩
  | custom found => cases (Registry.of_standard found).2

/-- No parameter stands for two values: deferred calls with one parameter ask for one entity, and members with
one parameter are the same member of one object. -/
def NamesApart (statement : Statement) (functions : List Deferred) : Prop :=
  (∀ first ∈ functions, ∀ second ∈ functions, first.target = second.target →
    entityOf first.args = entityOf second.args) ∧
  ∀ a b, .memberRef a ∈ statement.expressions → .memberRef b ∈ statement.expressions →
    a.parameterName = b.parameterName → a.objectName = b.objectName ∧ a.member = b.member

/-- No name can be read in two ways: entities differ in more than dots against underscores, and members do not
overlap. -/
structure NamesClear (statement : Statement) (functions : List Deferred) : Prop where
  entities : ∀ first ∈ functions, ∀ second ∈ functions, ∀ a b, entityOf first.args = some a →
    entityOf second.args = some b → Text.Blurs a b → a = b
  members : ∀ a b, .memberRef a ∈ statement.expressions → .memberRef b ∈ statement.expressions → ¬a.Overlaps b

theorem namesApart_iff {statement : Statement} {functions : List Deferred}
    (origins : ∀ deferred ∈ functions, ∃ call entity, deferred.StandsFor call entity) :
    statement.NamesApart functions ↔ statement.NamesClear functions := by
  constructor
  · rintro ⟨entities, members⟩
    constructor
    · intro first mem second mem' a b asks asks' blurs
      obtain ⟨call, entity, one⟩ := origins first mem
      obtain ⟨call', entity', other⟩ := origins second mem'
      obtain rfl := Option.some.inj (one.entityOf_args.symm.trans asks)
      obtain rfl := Option.some.inj (other.entityOf_args.symm.trans asks')
      have same := entities first mem second mem' ((one.target_eq_iff other).mpr blurs)
      exact Option.some.inj (asks.symm.trans (same.trans asks'))
    · intro a b mem mem' overlaps
      have same := members a b mem mem' (MemberRef.parameterName_eq_iff.mpr (.inr (.inl overlaps)))
      exact overlaps.objectName_ne same.1
  · intro clear
    constructor
    · intro first mem second mem' same
      obtain ⟨call, a, one⟩ := origins first mem
      obtain ⟨call', b, other⟩ := origins second mem'
      have blurs := (one.target_eq_iff other).mp same
      rw [one.entityOf_args, other.entityOf_args,
        clear.entities first mem second mem' a b one.entityOf_args other.entityOf_args blurs]
    · intro a b mem mem' same
      rcases MemberRef.parameterName_eq_iff.mp same with parts | overlaps | overlaps
      · exact parts
      · exact absurd overlaps (clear.members a b mem mem')
      · exact absurd overlaps (clear.members b a mem' mem)

end Statement

/-- Each call that a written statement leaves to the caller is a TYPEOF of the statement, under a parameter that
is named after its entity. No parameter of the statement stands for two values exactly if none of its names can
be read in two ways. -/
theorem Script.parameter_names_apart_iff {script : Script} {settings : Settings} {metadata : Metadata}
    {fresh : NodeId → Uuid} {emitted : Emitted}
    (ok : script.emit settings metadata Registry.standard fresh = .ok emitted) :
    List.Forall₂ (fun statement written =>
        (∀ deferred ∈ written.functions,
          ∃ call entity, .call call ∈ statement.expressions ∧ deferred.StandsFor call entity) ∧
        (statement.NamesApart written.functions ↔ statement.NamesClear written.functions))
      script.statements emitted.statements := by
  refine (Script.emit_ok.mp ok).imp fun statement written alone => ?_
  obtain ⟨sql, is, rfl⟩ := Statement.alone_ok.mp alone
  have standard : (script.context settings metadata .standard fresh).registry = .standard := rfl
  have origins := Statement.deferred_standsFor standard is
  refine ⟨origins, Statement.namesApart_iff fun deferred mem => ?_⟩
  obtain ⟨call, entity, -, origin⟩ := origins deferred mem
  exact ⟨call, entity, origin⟩

namespace Orders

/-- `TYPEOF('name')`. -/
def kind (column call : NodeId) (name asName : String) : Projected :=
  ⟨column, .call ⟨call, "TYPEOF", [.literal ⟨.entity, name⟩], false, none⟩, some asName⟩

def order : MemberRef := ⟨⟨10⟩, "@order", "line_id"⟩

def line : MemberRef := ⟨⟨12⟩, "@order_line", "id"⟩

/-- The lines of an order are a part of one document and a document of their own. -/
def statement : Statement :=
  .select ⟨⟨1⟩, [], .select (.plain ⟨2⟩
    [kind ⟨3⟩ ⟨4⟩ "Document.Order.Lines" "A", kind ⟨5⟩ ⟨6⟩ "Document.Order_Lines" "B",
      ⟨⟨9⟩, .memberRef order, some "C"⟩, ⟨⟨11⟩, .memberRef line, some "D"⟩] none)⟩

def emit : Except Error Emitted :=
  Script.emit ⟨[statement], Bindings.empty⟩ ⟨.sqlServer, 0, true⟩ Catalog.empty Registry.standard fun _ => default

end Orders

/-- One parameter is to carry the type codes of two entities, and another the members of two objects. -/
theorem Script.parameter_names_apart_iff_of_orders :
    ∃ written, Orders.emit = .ok ⟨[written]⟩ ∧
      written.functions.map (·.target) = ["@TYPEOF_Document_Order_Lines", "@TYPEOF_Document_Order_Lines"] ∧
      Orders.order.parameterName = Orders.line.parameterName ∧ ¬Orders.statement.NamesApart written.functions := by
  obtain ⟨emitted, ok, targets⟩ : ∃ emitted, Orders.emit = .ok emitted ∧
      emitted.statements.map (fun written => written.functions.map (·.target)) =
        [["@TYPEOF_Document_Order_Lines", "@TYPEOF_Document_Order_Lines"]] :=
    Except.exists_ok (by decide +kernel)
  have each := Script.parameter_names_apart_iff ok
  obtain ⟨statements⟩ := emitted
  obtain ⟨written, rest, ⟨-, apartIff⟩, none, rfl⟩ := List.forall₂_cons_left_iff.mp each
  obtain rfl := List.forall₂_nil_left_iff.mp none
  have overlaps : Orders.order.Overlaps Orders.line := ⟨"line".toList, by decide, by decide⟩
  refine ⟨written, ok, by simpa using targets, MemberRef.parameterName_eq_iff.mpr (.inr (.inl overlaps)), ?_⟩
  intro apart
  refine (apartIff.mp apart).members Orders.order Orders.line ?_ ?_ overlaps
  · exact .tail _ (.tail _ (.tail _ (.tail _ (.head _))))
  · exact .tail _ (.tail _ (.tail _ (.tail _ (.tail _ (.head _)))))

end SqlEmit
