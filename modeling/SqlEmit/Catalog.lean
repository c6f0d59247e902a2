import SqlEmit.Binding
import SqlEmit.Json.Reader
import SqlEmit.Text.Case

/-! What is known about a database: tables by name, indexes by physical table, and the year offset of
the stored datetimes. A catalog knows it from a document. -/
namespace SqlEmit

/-- The questions that are asked about a database. Whatever answers them will do. -/
structure Metadata where
  resolve : String → Option Binding
  indexesOf : String → List Index
  yearOffset : Int32

structure Catalog where
  yearOffset : Int32
  entities : List Entity
  /-- Indexes by lower-case table name. -/
  indexes : Dict String (List Index)

namespace Catalog

def empty : Catalog := ⟨0, [], Dict.empty⟩

/-- The entity with that name or table name, up to ASCII case. -/
def resolve (catalog : Catalog) (identifier : String) : Option Binding :=
  (catalog.entities.find? fun entity =>
    Text.sameName entity.name identifier || Text.sameName entity.tableName identifier).map .entity

def indexesOf (catalog : Catalog) (tableName : String) : List Index :=
  (catalog.indexes.find? (Text.lower tableName)).getD []

def metadata (catalog : Catalog) : Metadata where
  resolve := catalog.resolve
  indexesOf := catalog.indexesOf
  yearOffset := catalog.yearOffset

instance : Coe Catalog Metadata := ⟨metadata⟩

def withEntity (catalog : Catalog) (entity : Entity) : Catalog :=
  { catalog with entities := catalog.entities ++ [entity] }

def withIndex (catalog : Catalog) (tableName : String) (index : Index) : Catalog :=
  { catalog with
    indexes := catalog.indexes.insert (Text.lower tableName) (catalog.indexesOf tableName ++ [index]) }

def withYearOffset (catalog : Catalog) (years : Int32) : Catalog :=
  { catalog with yearOffset := years }

def tables (catalog : Catalog) : List String :=
  catalog.indexes.entries.map (·.1)

def decode : Decoder Catalog :=
  Decoder.record ["year_offset", "entities", "indexes"] fun n fields =>
    match fields with
    | [yearOffset, entities, indexes] => do
      let indexes ← indexes.orElse (Dict.empty : Dict String (List Index))
        (Decoder.dict (Decoder.list Index.decode)) n
      return {
        yearOffset := ← yearOffset.orElse 0 Decoder.int32 n
        entities := ← entities.orElse [] (Decoder.list Entity.decode) n
        indexes := Dict.ofList (indexes.entries.map fun (table, list) => (Text.lower table, list)) }
    | _ => none

def ofJson (json : Json) : Option Catalog :=
  decode Decoder.maxNesting json

def parse (text : String) : Option Catalog :=
  (Json.parse text).bind ofJson

end Catalog

end SqlEmit
