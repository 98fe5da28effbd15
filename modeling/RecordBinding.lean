import RecordBinding.Declaration.AtomReader
import RecordBinding.Declaration.Attribute
import RecordBinding.Declaration.BoundReader
import RecordBinding.Declaration.Classification
import RecordBinding.Declaration.EnumMapping
import RecordBinding.Declaration.ExpressionReader
import RecordBinding.Declaration.FieldOption
import RecordBinding.Declaration.FieldReader
import RecordBinding.Declaration.Grammar
import RecordBinding.Declaration.InnerItemReader
import RecordBinding.Declaration.Item
import RecordBinding.Declaration.ItemReader
import RecordBinding.Declaration.Lexer
import RecordBinding.Declaration.Literal
import RecordBinding.Declaration.Member
import RecordBinding.Declaration.Nested
import RecordBinding.Declaration.Parameters
import RecordBinding.Declaration.PathReader
import RecordBinding.Declaration.PatternReader
import RecordBinding.Declaration.Problem
import RecordBinding.Declaration.Reading
import RecordBinding.Declaration.RenameRule
import RecordBinding.Declaration.RowOption
import RecordBinding.Declaration.SignatureReader
import RecordBinding.Declaration.StatementReader
import RecordBinding.Declaration.StructMapping
import RecordBinding.Declaration.Token
import RecordBinding.Declaration.TypeExpr
import RecordBinding.Declaration.TypeReader
import RecordBinding.Error.Basic
import RecordBinding.Error.Layout
import RecordBinding.Expansion.Code
import RecordBinding.Expansion.Coercion
import RecordBinding.Expansion.EnumCode
import RecordBinding.Expansion.SchemaCode
import RecordBinding.Expansion.Source
import RecordBinding.Expansion.StructCode
import RecordBinding.Field.Category
import RecordBinding.Field.Coercion
import RecordBinding.Field.EnumType
import RecordBinding.Field.Exact
import RecordBinding.Field.FieldType
import RecordBinding.Field.LeafType
import RecordBinding.Number.Binary
import RecordBinding.Number.Decimal
import RecordBinding.Number.DecimalOfBinary
import RecordBinding.Number.Int128
import RecordBinding.Number.IntKind
import RecordBinding.Number.Rounding
import RecordBinding.Number.Shortest
import RecordBinding.Proofs.BinaryValue
import RecordBinding.Proofs.BulkMaterialization
import RecordBinding.Proofs.CaseFolding
import RecordBinding.Proofs.EmittedCoercion
import RecordBinding.Proofs.EnumLanguage
import RecordBinding.Proofs.EnumRepresentation
import RecordBinding.Proofs.ErrorContext
import RecordBinding.Proofs.Exactness
import RecordBinding.Proofs.Extraction
import RecordBinding.Proofs.FieldCoercion
import RecordBinding.Proofs.FinalSigma
import RecordBinding.Proofs.Grouping
import RecordBinding.Proofs.Inlining
import RecordBinding.Proofs.Int128Rounding
import RecordBinding.Proofs.IntegerCarrier
import RecordBinding.Proofs.IntegerConversion
import RecordBinding.Proofs.ItemConversion
import RecordBinding.Proofs.KeptFields
import RecordBinding.Proofs.Locality
import RecordBinding.Proofs.NameCollision
import RecordBinding.Proofs.NearestDatum
import RecordBinding.Proofs.NearestInteger
import RecordBinding.Proofs.OptionForm
import RecordBinding.Proofs.OptionListing
import RecordBinding.Proofs.OptionRegrouping
import RecordBinding.Proofs.OptionSet
import RecordBinding.Proofs.PathLocality
import RecordBinding.Proofs.PlannedBinding
import RecordBinding.Proofs.Position
import RecordBinding.Proofs.Reaching
import RecordBinding.Proofs.RepeatedRounding
import RecordBinding.Proofs.Reported
import RecordBinding.Proofs.RereadArrays
import RecordBinding.Proofs.Respelling
import RecordBinding.Proofs.RoundTrip
import RecordBinding.Proofs.RowBinding
import RecordBinding.Proofs.SchemaAgreement
import RecordBinding.Proofs.SettingByName
import RecordBinding.Proofs.SingleRounding
import RecordBinding.Proofs.SlotBinding
import RecordBinding.Proofs.Slots
import RecordBinding.Proofs.SpanEncoding
import RecordBinding.Proofs.Steadiness
import RecordBinding.Proofs.StrictAndPermissive
import RecordBinding.Proofs.StrictFailure
import RecordBinding.Proofs.StructProblems
import RecordBinding.Proofs.TableReading
import RecordBinding.Proofs.VariantCounter
import RecordBinding.Proofs.VariantFaults
import RecordBinding.Proofs.VariantNumbering
import RecordBinding.Record.Columns
import RecordBinding.Record.Fields
import RecordBinding.Record.Materialize
import RecordBinding.Record.Placing
import RecordBinding.Record.RecordType
import RecordBinding.Record.Row
import RecordBinding.Record.Setting
import RecordBinding.Record.Source
import RecordBinding.Record.Table
import RecordBinding.Sample.Enums
import RecordBinding.Sample.Records
import RecordBinding.Sample.Types
import RecordBinding.Schema.Basic
import RecordBinding.Schema.Event
import RecordBinding.Schema.Extract
import RecordBinding.Text.Alphanumeric
import RecordBinding.Text.CaseMapping
import RecordBinding.Text.Cased
import RecordBinding.Text.CodePoints
import RecordBinding.Text.Folding
import RecordBinding.Text.IdentifierChars
import RecordBinding.Text.Quoted
import RecordBinding.Text.Visible
import RecordBinding.Text.Words
import RecordBinding.Time.DateTime
import RecordBinding.Time.Span
import RecordBinding.Value.Basic
import RecordBinding.Value.Convert
import RecordBinding.Value.Display
import RecordBinding.Value.Guid
import RecordBinding.Value.Scalar
