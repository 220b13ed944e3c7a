import StallGuard.Scenario.Play
import StallGuard.Proofs.Scan
import StallGuard.Proofs.Catalogue
import StallGuard.Proofs.Frame
import StallGuard.Proofs.Tending
import StallGuard.Proofs.Move
import StallGuard.Proofs.Acting
import StallGuard.Proofs.Standing
import StallGuard.Proofs.Announcing
import StallGuard.Proofs.Lasting
import StallGuard.Proofs.Resolution
import StallGuard.Proofs.Verdict
import StallGuard.Proofs.Operation
import StallGuard.Proofs.Substitution
import StallGuard.Proofs.Binding
import StallGuard.Proofs.Exchange
import StallGuard.Proofs.FailOpen
import StallGuard.Proofs.Keeping
import StallGuard.Proofs.Judging
import StallGuard.Proofs.Calm
import StallGuard.Proofs.Shielding
import StallGuard.Proofs.Reentry
import StallGuard.Proofs.Holding
import StallGuard.Proofs.Footing
import StallGuard.Proofs.Rebuilding
import StallGuard.Proofs.Enduring
import StallGuard.Proofs.Learning
import StallGuard.Proofs.Roster
import StallGuard.Proofs.Round
import StallGuard.Proofs.Breakpoint
import StallGuard.Proofs.Unkept
import StallGuard.Proofs.Polling
import StallGuard.Proofs.Capturing
import StallGuard.Proofs.Classifying
import StallGuard.Proofs.Remembering
import StallGuard.Proofs.Declaring
import StallGuard.Proofs.Reporting
import StallGuard.Proofs.Listing
import StallGuard.Proofs.Accounting
import StallGuard.Proofs.Wrapping
import StallGuard.Proofs.Owning
import StallGuard.Proofs.Balancing
import StallGuard.Proofs.Mirroring
import StallGuard.Proofs.Residue
import StallGuard.Proofs.Twins
import StallGuard.Proofs.Vanishing
import StallGuard.Proofs.Overriding
import StallGuard.Proofs.Interception
import StallGuard.Proofs.Adopting
import StallGuard.Proofs.Looking
import StallGuard.Proofs.Bulk
import StallGuard.Proofs.Spelling
import StallGuard.Proofs.Paging
import StallGuard.Proofs.Arranging
