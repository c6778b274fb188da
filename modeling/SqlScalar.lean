import SqlScalar.Main
import SqlScalar.Proofs.FreshTrees
import SqlScalar.Proofs.TypeSoundness
import SqlScalar.Proofs.FoldingAgreement
import SqlScalar.Proofs.StaticFailures
import SqlScalar.Proofs.Mentions
import SqlScalar.Proofs.NullResults
import SqlScalar.Proofs.DayArithmetic
import SqlScalar.Proofs.OperandOrder
import SqlScalar.Proofs.TemporalFailures
import SqlScalar.Proofs.ReadingBack
import SqlScalar.Proofs.FoldedNulls
import SqlScalar.Proofs.QuotedRegions
import SqlScalar.Proofs.AggregateRuns
import SqlScalar.Proofs.TextConversion
import SqlScalar.Proofs.ForcedDecimals
import SqlScalar.Proofs.ContextAgreement
import SqlScalar.Proofs.FailedRows
import SqlScalar.Proofs.StringArithmetic
import SqlScalar.Proofs.ExactIntegers
import SqlScalar.Proofs.UnitStarts
import SqlScalar.Proofs.TemporalMatrix
import SqlScalar.Proofs.HexadecimalText
import SqlScalar.Proofs.RoundedDecimals
import SqlScalar.Proofs.PlainNumbers
import SqlScalar.Proofs.ExactSums
import SqlScalar.Proofs.FloatingExtremes
import SqlScalar.Proofs.ScaledTimes
import SqlScalar.Proofs.DatesWithTimes
import SqlScalar.Proofs.ConcatenationOrder
import SqlScalar.Proofs.DatesInText
import SqlScalar.Proofs.ColumnBinding
import SqlScalar.Proofs.DayDifferences
import SqlScalar.Proofs.DisplaySizes
import SqlScalar.Proofs.Spellings
import SqlScalar.Proofs.CallSlots
import SqlScalar.Proofs.ClosedExpressions
import SqlScalar.Proofs.NullAbsorption
import SqlScalar.Proofs.MarkedColumns
import SqlScalar.Proofs.RepeatedResolution
