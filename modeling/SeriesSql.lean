import SeriesSql.Builder.Insert
import SeriesSql.Builder.Select
import SeriesSql.Builder.Update
import SeriesSql.Client
import SeriesSql.ColumnType
import SeriesSql.Encoding.Base64
import SeriesSql.Encoding.Percent
import SeriesSql.Encoding.Punycode
import SeriesSql.Error
import SeriesSql.Http.Config
import SeriesSql.Http.Exchange
import SeriesSql.Json.Basic
import SeriesSql.Json.Document
import SeriesSql.Json.Record
import SeriesSql.Keyed
import SeriesSql.Number.Decimal
import SeriesSql.Number.Double
import SeriesSql.Number.Integer
import SeriesSql.Number.Shortest
import SeriesSql.Proofs.Builder.Alias
import SeriesSql.Proofs.Builder.Condition
import SeriesSql.Proofs.Builder.FirstJoin
import SeriesSql.Proofs.Builder.FirstRow
import SeriesSql.Proofs.Builder.FromPosition
import SeriesSql.Proofs.Builder.Insert
import SeriesSql.Proofs.Builder.JoinOrder
import SeriesSql.Proofs.Builder.StoredLiteral
import SeriesSql.Proofs.Builder.Update
import SeriesSql.Proofs.Check
import SeriesSql.Proofs.Client
import SeriesSql.Proofs.Encoding.Form
import SeriesSql.Proofs.Http.ErrorBody
import SeriesSql.Proofs.Http.Exec
import SeriesSql.Proofs.Http.Retry
import SeriesSql.Proofs.Json.Document
import SeriesSql.Proofs.Json.Number
import SeriesSql.Proofs.Json.NumberValue
import SeriesSql.Proofs.Json.Record
import SeriesSql.Proofs.Json.Value
import SeriesSql.Proofs.Json.Written
import SeriesSql.Proofs.Keyed
import SeriesSql.Proofs.Number.Integer
import SeriesSql.Proofs.Number.Nearest
import SeriesSql.Proofs.Number.Numeral
import SeriesSql.Proofs.Number.Rounding
import SeriesSql.Proofs.Number.Spaced
import SeriesSql.Proofs.Result.Cell
import SeriesSql.Proofs.Result.IntegerText
import SeriesSql.Proofs.Result.Quoted
import SeriesSql.Proofs.Result.ReadBack
import SeriesSql.Proofs.Result.Rows
import SeriesSql.Proofs.Result.SmallInteger
import SeriesSql.Proofs.Result.Timestamp
import SeriesSql.Proofs.Result.WideInteger
import SeriesSql.Proofs.Result.WriteBack
import SeriesSql.Proofs.Schema.Alteration
import SeriesSql.Proofs.Schema.Declaration
import SeriesSql.Proofs.Schema.Definition
import SeriesSql.Proofs.Schema.Lag
import SeriesSql.Proofs.Schema.RepeatedColumn
import SeriesSql.Proofs.Schema.Statement
import SeriesSql.Proofs.Schema.Storage
import SeriesSql.Proofs.Schema.Validity
import SeriesSql.Proofs.Sql.Aggregate
import SeriesSql.Proofs.Sql.Clause
import SeriesSql.Proofs.Sql.Comment
import SeriesSql.Proofs.Sql.DoubleMinus
import SeriesSql.Proofs.Sql.ExprReader
import SeriesSql.Proofs.Sql.Fragment
import SeriesSql.Proofs.Sql.Identifier
import SeriesSql.Proofs.Sql.IntegerLiteral
import SeriesSql.Proofs.Sql.Legible
import SeriesSql.Proofs.Sql.Lexeme
import SeriesSql.Proofs.Sql.Literal
import SeriesSql.Proofs.Sql.Pieces
import SeriesSql.Proofs.Sql.Place
import SeriesSql.Proofs.Sql.Reader
import SeriesSql.Proofs.Sql.Rendering
import SeriesSql.Proofs.Sql.SelectReader
import SeriesSql.Proofs.Sql.Shape
import SeriesSql.Proofs.Sql.Unambiguous
import SeriesSql.Proofs.Sql.WellFormed
import SeriesSql.Proofs.Sql.Writer
import SeriesSql.Proofs.Text.Blank
import SeriesSql.Proofs.Time.Calendar
import SeriesSql.Proofs.Time.Duration
import SeriesSql.Proofs.Time.Iso
import SeriesSql.Proofs.Time.Timestamp
import SeriesSql.Proofs.Url.Path
import SeriesSql.Proofs.Url.Text
import SeriesSql.Result.Cell
import SeriesSql.Result.Response
import SeriesSql.Result.Row
import SeriesSql.Schema.Column
import SeriesSql.Schema.Definition
import SeriesSql.Schema.Operation
import SeriesSql.Schema.Table
import SeriesSql.Sql.Change
import SeriesSql.Sql.ColumnRef
import SeriesSql.Sql.Keyword
import SeriesSql.Sql.Literal
import SeriesSql.Sql.Render
import SeriesSql.Sql.Select
import SeriesSql.Sql.Token
import SeriesSql.Sql.Walk
import SeriesSql.Sql.Writer
import SeriesSql.Text.CaseFold
import SeriesSql.Text.CodeTable
import SeriesSql.Text.Compatibility
import SeriesSql.Text.Composition
import SeriesSql.Text.Direction
import SeriesSql.Text.Extender
import SeriesSql.Text.Joining
import SeriesSql.Text.Mark
import SeriesSql.Text.Property
import SeriesSql.Text.Quoted
import SeriesSql.Text.Unprintable
import SeriesSql.Time.Calendar
import SeriesSql.Time.Duration
import SeriesSql.Time.Iso
import SeriesSql.Time.Timestamp
import SeriesSql.Transport
import SeriesSql.Url.Basic
import SeriesSql.Url.Domain
import SeriesSql.Url.Host
import SeriesSql.Value
