import EdgeSieve.Options.Environment
import EdgeSieve.Session
import EdgeSieve.Survey
import EdgeSieve.Regex.CharSet.Folded
import EdgeSieve.Proofs.Survey.Lookup
import EdgeSieve.Proofs.Survey.Outcome
import EdgeSieve.Proofs.Criteria.History
import EdgeSieve.Proofs.Criteria.Making
import EdgeSieve.Proofs.Session.Replies
import EdgeSieve.Proofs.Options.Gathered
import EdgeSieve.Proofs.Options.Reports
import EdgeSieve.Proofs.Options.Modes
import EdgeSieve.Proofs.Sieve.Scanning
import EdgeSieve.Proofs.Options.Outcome
import EdgeSieve.Proofs.Options.Roots
import EdgeSieve.Proofs.Options.Expansion
import EdgeSieve.Proofs.Survey.Batches
import EdgeSieve.Proofs.Survey.StageOrder
import EdgeSieve.Proofs.Survey.Worlds
import EdgeSieve.Proofs.Criteria.Separation
import EdgeSieve.Proofs.Session.SystemModules
import EdgeSieve.Proofs.Options.Complaints
import EdgeSieve.Proofs.Options.SameSets
import EdgeSieve.Proofs.Sieve.Nesting
import EdgeSieve.Proofs.Text.Quoted
import EdgeSieve.Proofs.ClassName
import EdgeSieve.Proofs.Sieve.Display
