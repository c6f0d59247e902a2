import SqlEmit.Binding
import SqlEmit.Builder
import SqlEmit.Catalog
import SqlEmit.ColumnType
import SqlEmit.Command
import SqlEmit.Config
import SqlEmit.Context
import SqlEmit.Dialect
import SqlEmit.Dict
import SqlEmit.Emission
import SqlEmit.Emit
import SqlEmit.Emit.Call
import SqlEmit.Emit.Query
import SqlEmit.Error
import SqlEmit.Functions
import SqlEmit.SelectSql
import SqlEmit.Json
import SqlEmit.Json.Reader
import SqlEmit.Json.Token
import SqlEmit.Json.Writer
import SqlEmit.Literal
import SqlEmit.Main
import SqlEmit.Moment
import SqlEmit.RowMapper
import SqlEmit.Schema
import SqlEmit.Script.Decode
import SqlEmit.Script.Encode
import SqlEmit.Script.Expr
import SqlEmit.Script.Operator
import SqlEmit.Script.Statement
import SqlEmit.Script.Walk
import SqlEmit.Sql
import SqlEmit.Statement
import SqlEmit.Statement.Change
import SqlEmit.Statement.Consume
import SqlEmit.Statement.Consume.Plan
import SqlEmit.Statement.Consume.Stage
import SqlEmit.Statement.Insert
import SqlEmit.Statement.Sequence
import SqlEmit.Statement.Upsert
import SqlEmit.Statement.UserType
import SqlEmit.Text
import SqlEmit.Text.Case
import SqlEmit.Text.Visible
import SqlEmit.Toml
import SqlEmit.Toml.Reader
import SqlEmit.Toml.Scalar
import SqlEmit.Uuid
import SqlEmit.Proofs.Dotted
import SqlEmit.Proofs.Success
import SqlEmit.Proofs.Query
import SqlEmit.Proofs.Consume.Plan
import SqlEmit.Proofs.Consume.Shape
import SqlEmit.Proofs.Consume.Names
import SqlEmit.Proofs.Consume.Closure
import SqlEmit.Proofs.Consume.Bound
import SqlEmit.Proofs.Consume.Order
import SqlEmit.Proofs.Isolation
import SqlEmit.Proofs.ResultRows
import SqlEmit.Proofs.Nodes
import SqlEmit.Proofs.Pruned
import SqlEmit.Proofs.Agreement
import SqlEmit.Proofs.Reindexed
import SqlEmit.Proofs.Appending
import SqlEmit.Proofs.Quoting.Scan
import SqlEmit.Proofs.Quoting.Spelling
import SqlEmit.Proofs.Quoting.RawText
import SqlEmit.Proofs.Composition
import SqlEmit.Proofs.Quoting.Query
import SqlEmit.Proofs.Grouping
import SqlEmit.Proofs.UnionRows
import SqlEmit.Proofs.BuilderRun
import SqlEmit.Proofs.Digits
import SqlEmit.Proofs.Json.Scanning
import SqlEmit.Proofs.Json.Reading
import SqlEmit.Proofs.Json.Decoding
import SqlEmit.Proofs.Transport.Binding
import SqlEmit.Proofs.Transport.Syntax
import SqlEmit.Proofs.Transport.Script
import SqlEmit.Proofs.BuilderMappings
import SqlEmit.Proofs.Insert.Lists
import SqlEmit.Proofs.Insert.Rows
import SqlEmit.Proofs.Insert.Draws
import SqlEmit.Proofs.Insert.Pairing
import SqlEmit.Proofs.Sequence
import SqlEmit.Proofs.Insert.Generated
import SqlEmit.Proofs.References
import SqlEmit.Proofs.Guard
import SqlEmit.Proofs.SequenceObjects
import SqlEmit.Proofs.Consume.Returned
import SqlEmit.Proofs.Consume.ResultTable
import SqlEmit.Proofs.Locks
import SqlEmit.Proofs.Consume.Locking
import SqlEmit.Proofs.DerivedLevels
import SqlEmit.Proofs.EntityText
import SqlEmit.Proofs.SetClause
import SqlEmit.Proofs.Fragments
import SqlEmit.Proofs.ScalarPositions
import SqlEmit.Proofs.Inference
import SqlEmit.Proofs.LocalTables
import SqlEmit.Proofs.InferenceEnds
import SqlEmit.Proofs.DerivedTypes
import SqlEmit.Proofs.AppendJoins
import SqlEmit.Proofs.Parameters
import SqlEmit.Proofs.DeferredCalls
import SqlEmit.Proofs.LetterCase
import SqlEmit.Proofs.GluedNames
import SqlEmit.Proofs.CatalogLookup
import SqlEmit.Proofs.ColumnIndex
import SqlEmit.Proofs.UserTypeColumns
import SqlEmit.Proofs.ParameterNames
import SqlEmit.Proofs.Quoting.ReadBack
import SqlEmit.Proofs.EntityEncoding
import SqlEmit.Proofs.YearShift
import SqlEmit.Proofs.Comments
import SqlEmit.Proofs.Consume.Fresh
import SqlEmit.Proofs.Terminators
