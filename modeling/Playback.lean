import Playback.Main
import Playback.Proofs.Negation
import Playback.Proofs.Semantics
import Playback.Proofs.Rules
import Playback.Proofs.Emission
import Playback.Proofs.Stages
import Playback.Proofs.Forest
import Playback.Proofs.Grammar
import Playback.Proofs.ClosingLines
import Playback.Proofs.Reads
import Playback.Proofs.StoreLog
import Playback.Proofs.Times
import Playback.Proofs.Limits
import Playback.Proofs.Misplaced
import Playback.Proofs.Numerals
import Playback.Proofs.Rounding
import Playback.Proofs.Lexemes
import Playback.Proofs.Reading
import Playback.Proofs.ConditionText
import Playback.Proofs.Locality
import Playback.Proofs.Replacement
import Playback.Proofs.DocumentedForm
import Playback.Proofs.Layout
import Playback.Proofs.Nesting
import Playback.Proofs.Ranges
import Playback.Proofs.TraceDocument
import Playback.Proofs.Lineless
import Playback.Proofs.Origins
import Playback.Proofs.Inlining
import Playback.Proofs.Magnitudes
import Playback.Proofs.Literals
import Playback.Proofs.Overflow
import Playback.Proofs.Prefixes
import Playback.Proofs.Iterations
import Playback.Proofs.Rotation
import Playback.Proofs.Counting
import Playback.Proofs.Provenance
import Playback.Proofs.OperandFaults
import Playback.Proofs.Headers
import Playback.Proofs.DoubleNegation
import Playback.Proofs.RunArguments
import Playback.Proofs.StatementLines
import Playback.Proofs.Substrings
import Playback.Proofs.FixtureFiles
import Playback.Proofs.Grading
