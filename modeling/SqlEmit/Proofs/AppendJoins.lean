import SqlEmit.Proofs.Agreement

/-! Appended row sources. An APPEND is written as what it is appended to, so a query is written as it would
be without any, wherever in joins, derived tables and subqueries they stand. A function of the caller is handed its
call with everything in it; that it does not look at what is appended there has to be known. -/
namespace SqlEmit

namespace Absent

def stock (asName : String) : Source := .table ⟨⟨1⟩, "Stock", some asName⟩

def absent : Source :=
  .derived ⟨⟨2⟩, .select (.plain ⟨3⟩ [⟨⟨4⟩, .call ⟨⟨5⟩, "NO_SUCH", [], false, none⟩, some "X"⟩]
    (some (.table ⟨⟨6⟩, "Absent", none⟩))), "a"⟩

/-- Something is appended on the left of a join and in a subquery. -/
def query (appended : Source) : Query :=
  let one : Select := .plain ⟨7⟩ [⟨⟨8⟩, .literal ⟨.number, "1"⟩, some "One"⟩]
    (some (.join .append (stock "u") appended none))
  .select (.plain ⟨9⟩ [⟨⟨10⟩, .subquery (.select one), some "First"⟩]
    (some (.join .crossApply (.join .append (stock "s") appended none) (stock "t") none)))

def context (dialect : Dialect) : Context :=
  .ofStatements dialect (Bindings.empty.bind ⟨1⟩ (.entity ⟨"Stock", "_Stock5", 5, []⟩)) Catalog.empty
    Registry.standard 0 (fun _ => default) []

end Absent

end SqlEmit
