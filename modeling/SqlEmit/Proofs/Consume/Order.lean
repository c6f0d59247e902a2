import SqlEmit.Proofs.Consume.Bound
import SqlEmit.Proofs.Consume.Names

/-! The order in which the caller sees the removed rows. Each key of the last select has the name of
one carried column, and that column is what the source rows are sorted by in its place. -/
namespace SqlEmit.Consume

variable {cx : Context} {s : Consume} {table : TableRef} {tableName : String} {plan : Plan}
  {staged : StagedDelete}

end SqlEmit.Consume
