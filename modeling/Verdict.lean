import Verdict.Engine
import Verdict.Rule.Fingerprint
import Verdict.Rule.Printer
import Verdict.Proofs.Rule.Grammar
import Verdict.Proofs.Rule.Soundness
import Verdict.Proofs.Rule.Completeness
import Verdict.Proofs.Number.Spelling
import Verdict.Proofs.Token.Identifiers
import Verdict.Proofs.Token.Lexing
import Verdict.Proofs.Rule.Display
import Verdict.Proofs.Script.Answers
import Verdict.Proofs.Script.Laws
import Verdict.Proofs.Value.Laws
import Verdict.Proofs.Library.Laws
import Verdict.Proofs.Rule.Binding
import Verdict.Proofs.Session.Strategies
import Verdict.Proofs.Session.Memory
import Verdict.Proofs.Engine.Cache
import Verdict.Proofs.Session.Failures
import Verdict.Proofs.Rule.Hashing
import Verdict.Proofs.Session.Batches
import Verdict.Proofs.Rule.Identity
import Verdict.Proofs.Address.Agreement
import Verdict.Proofs.Registry.Execution
import Verdict.Proofs.Registry.Atomicity
import Verdict.Proofs.Session.Locality
import Verdict.Proofs.Session.Reports
import Verdict.Proofs.Rule.Operands
import Verdict.Proofs.Session.Silence
import Verdict.Proofs.Value.Items
import Verdict.Proofs.Rule.Substitution
import Verdict.Proofs.Library.Membership
import Verdict.Proofs.Engine.Capacity
import Verdict.Proofs.Registry.Callable
import Verdict.Proofs.Number.Values
import Verdict.Proofs.Number.Exactness
import Verdict.Proofs.Library.Substrings
import Verdict.Proofs.Pattern.Continuation
import Verdict.Proofs.Pattern.Spans
import Verdict.Proofs.Pattern.Languages
import Verdict.Proofs.Pattern.Anchoring
import Verdict.Proofs.Library.Patterns
import Verdict.Proofs.Token.Lookahead
import Verdict.Proofs.Rule.Expectations
import Verdict.Proofs.Token.Coverage
import Verdict.Proofs.Token.Quoting
import Verdict.Proofs.Rule.Misfits
import Verdict.Proofs.Address.Paths
import Verdict.Proofs.Session.Accounting
import Verdict.Proofs.Value.Flattening
import Verdict.Proofs.Rule.Regrouping
import Verdict.Proofs.Session.Truthfulness
import Verdict.Proofs.Library.Existence
import Verdict.Proofs.Value.Recursion
import Verdict.Proofs.Value.Termination
import Verdict.Proofs.Rule.Termination
import Verdict.Proofs.Registry.Batches
import Verdict.Proofs.Hash.Murmur
import Verdict.Proofs.Hash.Bytes
import Verdict.Proofs.Hash.Rolling
import Verdict.Proofs.Address.Widening
import Verdict.Proofs.Session.Twins
import Verdict.Proofs.Value.Twins
import Verdict.Proofs.Rule.Twins
