import RecordSieve.Main
import RecordSieve.Proofs.Pattern.Correctness
import RecordSieve.Proofs.Lines
import RecordSieve.Proofs.Decisions
import RecordSieve.Proofs.Run.Basic
import RecordSieve.Proofs.Run.Reliable
import RecordSieve.Proofs.Run.Faults
import RecordSieve.Proofs.Run.Stages
import RecordSieve.Proofs.Run.Complement
import RecordSieve.Proofs.Run.Duality
import RecordSieve.Proofs.Numeric.Rounding
import RecordSieve.Proofs.Numeric.Order
import RecordSieve.Proofs.Numeric.Rank
import RecordSieve.Proofs.Numeric.ExactValue
import RecordSieve.Proofs.Numeric.Nearest
import RecordSieve.Proofs.Json.Decoding
import RecordSieve.Proofs.Json.Numbers
import RecordSieve.Proofs.Json.Values
import RecordSieve.Proofs.Grammar
import RecordSieve.Proofs.Conditions
import RecordSieve.Proofs.Coercion
import RecordSieve.Proofs.NumberTexts
import RecordSieve.Proofs.NumberAgreement
import RecordSieve.Proofs.Phases
import RecordSieve.Proofs.Pattern.Reading
import RecordSieve.Proofs.Pattern.Wrapping
import RecordSieve.Proofs.PrefixMatching
import RecordSieve.Proofs.Renumbering
import RecordSieve.Proofs.Run.Rerun
import RecordSieve.Proofs.Run.Pipeline
import RecordSieve.Proofs.Keys
import RecordSieve.Proofs.Run.Joining
import RecordSieve.Proofs.Run.Writer
import RecordSieve.Proofs.Run.CutShort
import RecordSieve.Proofs.AskedFields
import RecordSieve.Proofs.Comparisons
import RecordSieve.Proofs.WholeNumbers
import RecordSieve.Proofs.Expressions
import RecordSieve.Proofs.Literals
import RecordSieve.Proofs.Run.Reordering
import RecordSieve.Proofs.Warnings
import RecordSieve.Proofs.Json.LineEnds
import RecordSieve.Proofs.Run.LineEnds
import RecordSieve.Proofs.ByteOrder
import RecordSieve.Proofs.KeyAgreement
import RecordSieve.Proofs.Diagnostics
import RecordSieve.Proofs.Invocation
import RecordSieve.Proofs.DiagnosticSettings
import RecordSieve.Proofs.Expansions
import RecordSieve.Proofs.Readings
import RecordSieve.Proofs.EvaluatorAgreement
import RecordSieve.Proofs.QuotedLiterals
import RecordSieve.Proofs.DecimalUnits
import RecordSieve.Proofs.Requests
