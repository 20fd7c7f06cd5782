import Abacus.Expression
import Abacus.Workspace
import Abacus.Shell.Terminal
import Abacus.Main
import Abacus.Proofs.Failure.Outcome
import Abacus.Proofs.Rounding
import Abacus.Proofs.Postfix.Height
import Abacus.Proofs.Postfix.Assembly
import Abacus.Proofs.Conversion.Reading
import Abacus.Proofs.Conversion.Brackets
import Abacus.Proofs.Infix.Minus
import Abacus.Proofs.Infix.Substitution
import Abacus.Proofs.Token.Scanned
import Abacus.Proofs.Stages
import Abacus.Proofs.Grammar.Natural
import Abacus.Proofs.Grammar.Layered
import Abacus.Proofs.Conversion.Precedence
import Abacus.Proofs.Conversion.Borrowing
import Abacus.Proofs.Conversion.Isolation
import Abacus.Proofs.Conversion.Conservation
import Abacus.Proofs.Conversion.Acceptance
import Abacus.Proofs.Conversion.Grouping
import Abacus.Proofs.Binary64.Finite
import Abacus.Proofs.Decimal.Rational
import Abacus.Proofs.Decimal.Spelling
import Abacus.Proofs.Token.Coverage
import Abacus.Proofs.Grammar.Exact
import Abacus.Proofs.Postfix.Failing
import Abacus.Proofs.Failure.Position
import Abacus.Proofs.Conversion.Success
import Abacus.Proofs.Compilation
import Abacus.Proofs.Failure.Stage
import Abacus.Proofs.Failure.Move
import Abacus.Proofs.Conversion.Mapping
import Abacus.Proofs.Layout
import Abacus.Proofs.Shell.Output
import Abacus.Proofs.Shell.Lines
import Abacus.Proofs.Shell.Session
import Abacus.Proofs.Shell.Limits
import Abacus.Proofs.Shell.Agreement
import Abacus.Proofs.Workspace.Tokens
import Abacus.Proofs.Token.Scanning
import Abacus.Proofs.Decimal.Printing
import Abacus.Proofs.RoundTrip
import Abacus.Proofs.Names
import Abacus.Proofs.Conversion.Matching
import Abacus.Proofs.Decimal.Significant
import Abacus.Proofs.Decimal.Quotient
import Abacus.Proofs.Binary64.Bits
import Abacus.Proofs.Binary64.Nearest
import Abacus.Proofs.Decimal.Doubles
import Abacus.Proofs.Postfix.Handover
import Abacus.Proofs.Decimal.Exact
import Abacus.Proofs.Postfix.Leftover
import Abacus.Proofs.Postfix.FirstFailure
import Abacus.Proofs.Grammar.Signs
import Abacus.Proofs.Token.Spacing
import Abacus.Proofs.Infix.Expansion
import Abacus.Proofs.Decimal.Accuracy
import Abacus.Proofs.Conversion.Waiting
