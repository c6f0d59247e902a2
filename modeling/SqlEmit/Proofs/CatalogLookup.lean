import SqlEmit.Catalog
import SqlEmit.Proofs.LetterCase

/-!
Which spellings of a name the catalog takes for one. Index lists are kept under lower-case names,
so a spelling finds them when its lower case is the table's. Entities are compared up to the case
of ASCII letters only, so two spellings of a name with other letters can lead to an entity and to
nothing.
-/
namespace SqlEmit

theorem Decoder.record_fields {α β : Type} {names : List String} {read : Nat → List Field → Option α}
    {n : Nat} {json : Json} {a : α} (ok : record names read n json = some a) :
    ∃ m fields, read m fields = some a ∧
      ∀ other : Nat → List Field → Option β, record names other n json = other m fields := by
  cases n with
  | zero => simp [record] at ok
  | succ n =>
    cases json with
    | obj members plain =>
      obtain ⟨fields, is, ok⟩ := Option.bind_eq_some_iff.mp ok
      exact ⟨n, fields, ok, fun other => by rw [record, is, Option.bind_some]⟩
    | arr items =>
      obtain ⟨fields, is, ok⟩ := Option.bind_eq_some_iff.mp ok
      exact ⟨n, fields, ok, fun other => by rw [record, is, Option.bind_some]⟩
    | _ => simp [record] at ok

namespace Catalog

/-- The index lists of a catalog document under the table names that the document spells. -/
def listedTables (text : String) : Option (Dict String (List Index)) :=
  (Json.parse text).bind <| Decoder.record ["year_offset", "entities", "indexes"]
    (fun n fields => fields[2]?.bind (·.orElse Dict.empty (Decoder.dict (Decoder.list Index.decode)) n))
    Decoder.maxNesting

/-- A catalog is read from a document with its index lists under the lower-case names. -/
theorem parse_indexes {text : String} {catalog : Catalog} (ok : parse text = some catalog) :
    ∃ listed, listedTables text = some listed ∧ catalog.indexes =
      Dict.ofList (listed.entries.map fun entry => (Text.lower entry.1, entry.2)) := by
  obtain ⟨json, tokens, ok⟩ := Option.bind_eq_some_iff.mp ok
  obtain ⟨n, fields, read, same⟩ := Decoder.record_fields ok
  rw [listedTables, tokens, Option.bind_some, same]
  rcases fields with _ | ⟨yearOffset, _ | ⟨entities, _ | ⟨indexes, _ | ⟨more, rest⟩⟩⟩⟩
  · cases read
  · cases read
  · cases read
  · obtain ⟨listed, given, read⟩ := Option.bind_eq_some_iff.mp read
    obtain ⟨years, -, read⟩ := Option.bind_eq_some_iff.mp read
    obtain ⟨kept, -, read⟩ := Option.bind_eq_some_iff.mp read
    refine ⟨listed, given, ?_⟩
    rw [← Option.some.inj read]
  · cases read

/-- A catalog document whose tables differ in more than the case of letters. -/
structure Document where
  text : String
  catalog : Catalog
  tables : Dict String (List Index)
  parsed : parse text = some catalog
  listed : listedTables text = some tables
  apart : (tables.entries.map fun entry => Text.lower entry.1).Nodup

/-- The index list of a document for a name, in whichever case the document spells it. -/
def Document.indexesFor (document : Document) (name : String) : List Index :=
  ((document.tables.entries.find? fun entry => Text.lower entry.1 = Text.lower name).map (·.2)).getD []

theorem Document.indexesOf_catalog (document : Document) (name : String) :
    document.catalog.indexesOf name = document.indexesFor name := by
  obtain ⟨listed, is, indexes⟩ := parse_indexes document.parsed
  obtain rfl : document.tables = listed := Option.some.inj (document.listed.symm.trans is)
  have nodup : ((document.tables.entries.map fun entry => (Text.lower entry.1, entry.2)).map (·.1)).Nodup := by
    simpa [List.map_map, Function.comp_def] using document.apart
  rw [indexesOf, indexes, Dict.find?_ofList_of_nodup nodup, List.find?_map, Option.map_map]
  rfl

inductive Addition where
  | entity (entity : Entity)
  | index (tableName : String) (index : Index)
  | yearOffset (years : Int32)

def Addition.apply (catalog : Catalog) : Addition → Catalog
  | .entity added => catalog.withEntity added
  | .index tableName added => catalog.withIndex tableName added
  | .yearOffset years => catalog.withYearOffset years

/-- The index that an addition gives the table of that name. -/
def Addition.indexFor? (name : String) : Addition → Option Index
  | .index tableName added => if Text.lower tableName = Text.lower name then some added else none
  | _ => none

def extend (catalog : Catalog) (additions : List Addition) : Catalog :=
  additions.foldl Addition.apply catalog

def Document.after (document : Document) (additions : List Addition) : Catalog :=
  document.catalog.extend additions

theorem indexesOf_withIndex (catalog : Catalog) (tableName : String) (index : Index) (name : String) :
    (catalog.withIndex tableName index).indexesOf name =
      if Text.lower tableName = Text.lower name then catalog.indexesOf name ++ [index]
      else catalog.indexesOf name := by
  rw [indexesOf, withIndex, Dict.find?_insert]
  by_cases same : Text.lower tableName = Text.lower name
  · simp [same, indexesOf]
  · simp [same, indexesOf]

theorem indexesOf_apply (catalog : Catalog) (addition : Addition) (name : String) :
    (addition.apply catalog).indexesOf name = catalog.indexesOf name ++ (addition.indexFor? name).toList := by
  cases addition with
  | entity entity => simp [Addition.apply, Addition.indexFor?, withEntity, indexesOf]
  | index tableName index =>
    rw [Addition.apply, indexesOf_withIndex, Addition.indexFor?]
    by_cases same : Text.lower tableName = Text.lower name <;> simp [same]
  | yearOffset years => simp [Addition.apply, Addition.indexFor?, withYearOffset, indexesOf]

/-- The indexes of a table are those it had and those added to it, in the order of the additions. -/
theorem indexesOf_extend (catalog : Catalog) (additions : List Addition) (name : String) :
    (catalog.extend additions).indexesOf name =
      catalog.indexesOf name ++ additions.filterMap (Addition.indexFor? name) := by
  induction additions generalizing catalog with
  | nil => simp [extend]
  | cons addition rest ih =>
    have step : catalog.extend (addition :: rest) = (addition.apply catalog).extend rest := rfl
    rw [step, ih, indexesOf_apply, List.append_assoc]
    cases given : addition.indexFor? name <;> simp [given]

theorem indexesOf_of_lower (catalog : Catalog) {a b : String} (same : Text.lower a = Text.lower b) :
    catalog.indexesOf a = catalog.indexesOf b := by
  rw [indexesOf, indexesOf, same]

/-- Looking up the lower-case name is looking up the name. -/
theorem indexesOf_lower (catalog : Catalog) (name : String) :
    catalog.indexesOf (Text.lower name) = catalog.indexesOf name :=
  catalog.indexesOf_of_lower (Text.lower_lower name)

theorem resolve_of_sameName (catalog : Catalog) {a b : String} (same : Text.sameName a b = true) :
    catalog.resolve a = catalog.resolve b := by
  have alike : ∀ name, Text.sameName name a = Text.sameName name b := fun name => by
    rw [Text.sameName, Text.sameName, (Text.sameName_iff a b).mp same]
  simp only [resolve, alike]

/-- Adding an entity to a catalog that does not know a name: exactly the spellings that differ in
the case of ASCII letters lead to it. -/
theorem resolve_withEntity (catalog : Catalog) {entity : Entity} {name : String}
    (unknown : catalog.resolve name = none) :
    (catalog.withEntity entity).resolve name =
      if Text.sameName entity.name name || Text.sameName entity.tableName name then some (.entity entity)
      else none := by
  have passed := Option.map_eq_none_iff.mp unknown
  rw [resolve, withEntity, List.find?_append, passed, Option.none_or, List.find?_singleton]
  split <;> rfl

def Document.blank : Document where
  text := "{}"
  catalog := empty
  tables := Dict.empty
  parsed := by rfl
  listed := by rfl
  apart := List.nodup_nil

/-- Some catalog has an index for exactly the names with the lower case of `a`. -/
theorem lower_of_indexesOf {a b : String} (same : ∀ (document : Document) (additions : List Addition),
    (document.after additions).indexesOf a = (document.after additions).indexesOf b) :
    Text.lower a = Text.lower b := by
  have found := same .blank [.index a ⟨"", false, false, false, []⟩]
  simp only [Document.after, indexesOf_extend, List.filterMap_cons, List.filterMap_nil, Addition.indexFor?,
    if_true] at found
  by_cases alike : Text.lower a = Text.lower b
  · exact alike
  · simp [alike, Document.blank, indexesOf, empty] at found

/-- Some catalog has an entity for exactly the names that are `a` up to the case of ASCII letters. -/
theorem sameName_of_resolve {a b : String} (same : ∀ (document : Document) (additions : List Addition),
    (document.after additions).resolve a = (document.after additions).resolve b) :
    Text.sameName a b = true := by
  have found : (empty.withEntity ⟨a, a, 0, []⟩).resolve a = (empty.withEntity ⟨a, a, 0, []⟩).resolve b :=
    same .blank [.entity ⟨a, a, 0, []⟩]
  rw [resolve_withEntity _ rfl, resolve_withEntity _ rfl, Bool.or_self, Bool.or_self,
    (Text.sameName_iff a a).mpr rfl, if_pos rfl] at found
  by_cases alike : Text.sameName a b = true
  · exact alike
  · simp [alike] at found

/-- Two names lead to the same indexes in every catalog exactly if they have the same lower case,
and to the same entity exactly if they are equal up to the case of ASCII letters, which is less. The
indexes of a table are those its document lists and those added under any name with its lower case,
which finds them too; adding one changes no other look-up. -/
theorem lookups_by_letter_case (a b : String) :
    (Text.lower a = Text.lower b ↔ ∀ (document : Document) (additions : List Addition),
      (document.after additions).indexesOf a = (document.after additions).indexesOf b) ∧
    (Text.sameName a b = true ↔ ∀ (document : Document) (additions : List Addition),
      (document.after additions).resolve a = (document.after additions).resolve b) ∧
    (Text.sameName a b = true → Text.lower a = Text.lower b) ∧
    ∀ (document : Document) (additions : List Addition),
      (document.after additions).indexesOf a =
        document.indexesFor a ++ additions.filterMap (Addition.indexFor? a) ∧
      (document.after additions).indexesOf (Text.lower a) = (document.after additions).indexesOf a ∧
      ∀ index, ((document.after additions).withIndex a index).indexesOf b =
          (if Text.lower a = Text.lower b then (document.after additions).indexesOf b ++ [index]
           else (document.after additions).indexesOf b) ∧
        ((document.after additions).withIndex a index).resolve b = (document.after additions).resolve b ∧
        ((document.after additions).withIndex a index).yearOffset = (document.after additions).yearOffset := by
  refine ⟨⟨?_, lower_of_indexesOf⟩, ⟨?_, sameName_of_resolve⟩, Text.lower_of_sameName, ?_⟩
  · intro same document additions
    exact indexesOf_of_lower _ same
  · intro same document additions
    exact resolve_of_sameName _ same
  · intro document additions
    refine ⟨?_, indexesOf_lower _ a, fun index => ⟨indexesOf_withIndex _ a index b, rfl, rfl⟩⟩
    rw [Document.after, indexesOf_extend, document.indexesOf_catalog]

/-- A name in capital and in small Cyrillic letters: one table for its indexes, two names of
entities. -/
theorem lookups_by_letter_case_cyrillic :
    Text.lower "Очередь" = Text.lower "очередь" ∧ Text.sameName "Очередь" "очередь" = false ∧
    (∀ (document : Document) (additions : List Addition),
      (document.after additions).indexesOf "Очередь" = (document.after additions).indexesOf "очередь") ∧
    ¬ ∀ (document : Document) (additions : List Addition),
      (document.after additions).resolve "Очередь" = (document.after additions).resolve "очередь" := by
  have lower : Text.lower "Очередь" = Text.lower "очередь" := by decide +kernel
  have apart : Text.sameName "Очередь" "очередь" = false := by decide +kernel
  obtain ⟨indexes, entities, -⟩ := lookups_by_letter_case "Очередь" "очередь"
  refine ⟨lower, apart, indexes.mp lower, fun same => ?_⟩
  rw [entities.mpr same] at apart
  cases apart

end Catalog

end SqlEmit
