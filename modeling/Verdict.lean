import Verdict.Brackets
import Verdict.Chain
import Verdict.Config.Json
import Verdict.Evaluation.OnePass
import Verdict.Evaluation.Replay
import Verdict.Group.Scan
import Verdict.Json.Grammar
import Verdict.Json.Spelling
import Verdict.Json.Object
import Verdict.Main
import Verdict.Operator.Pieces
import Verdict.Session.History
import Verdict.Tree
import Verdict.Proofs.Acceptance
import Verdict.Proofs.Chain.Evaluation
import Verdict.Proofs.OnePass
import Verdict.Proofs.Tree.Evaluation
import Verdict.Proofs.Group.Matched
import Verdict.Proofs.Parenthesized
import Verdict.Proofs.Group.Reduction
import Verdict.Proofs.Upheld
import Verdict.Proofs.Group.Errors
import Verdict.Proofs.Depth.Reports
import Verdict.Proofs.Depth.Limit
import Verdict.Proofs.Chain.Depth
import Verdict.Proofs.Group.Account
import Verdict.Proofs.Unquoted
import Verdict.Proofs.Faults
import Verdict.Proofs.Session
import Verdict.Proofs.Dangling
import Verdict.Proofs.Decimal.Reading
import Verdict.Proofs.Decimal.Order
import Verdict.Proofs.Boolean.Outcomes
import Verdict.Proofs.Strings
import Verdict.Proofs.Equality
import Verdict.Proofs.Orders
import Verdict.Proofs.Group.Accepted
import Verdict.Proofs.Group.Scan
import Verdict.Proofs.Group.Progress
import Verdict.Proofs.Padded
import Verdict.Proofs.Text.Respelling
import Verdict.Proofs.Config.Members
import Verdict.Proofs.Config.RoundTrip
import Verdict.Proofs.Respelled
