import TagSearch.Exec.Session
import TagSearch.Main
import TagSearch.Store.Scripted
import TagSearch.Compiler.Change
import TagSearch.Proofs.TermText
import TagSearch.Proofs.Scoping
import TagSearch.Proofs.RoundTrip
import TagSearch.Proofs.Attempt
import TagSearch.Proofs.Transaction
import TagSearch.Proofs.Ledger
import TagSearch.Proofs.Custody
import TagSearch.Proofs.Tenancy
import TagSearch.Proofs.Precedence
import TagSearch.Proofs.Truth
import TagSearch.Proofs.Outline
import TagSearch.Proofs.Skeleton
import TagSearch.Proofs.Alike
import TagSearch.Proofs.Noninterference
import TagSearch.Proofs.Placeholder
import TagSearch.Proofs.Provenance
import TagSearch.Proofs.Numbering
import TagSearch.Proofs.Accounting
import TagSearch.Proofs.Turns
import TagSearch.Proofs.Retry
import TagSearch.Proofs.Reporting
import TagSearch.Proofs.Agreement
import TagSearch.Proofs.Disclosure
import TagSearch.Proofs.StandIn
import TagSearch.Proofs.Discretion
import TagSearch.Proofs.Cancellation
import TagSearch.Proofs.WellFormed
import TagSearch.Proofs.Alignment
import TagSearch.Proofs.ReadBack
import TagSearch.Proofs.Embedding
import TagSearch.Proofs.Storage
import TagSearch.Proofs.Inert
import TagSearch.Proofs.Wildcard
import TagSearch.Proofs.Paging
import TagSearch.Proofs.DurationOverflow
import TagSearch.Proofs.DurationText
import TagSearch.Proofs.DocumentWildcard
import TagSearch.Proofs.DocumentArrows
import TagSearch.Proofs.Joining
import TagSearch.Proofs.Grammar
import TagSearch.Proofs.Visits
import TagSearch.Proofs.Fidelity
import TagSearch.Proofs.Projection
import TagSearch.Proofs.Wire
import TagSearch.Proofs.NumericOrder
import TagSearch.Proofs.Pointing
import TagSearch.Proofs.Ordering
import TagSearch.Proofs.JsonText
import TagSearch.Proofs.TreeJson
import TagSearch.Proofs.Descent
import TagSearch.Compiler.Plan
import TagSearch.Proofs.Framing
import TagSearch.Proofs.GlobText
