import Federation.Main
import Federation.Trust
import Federation.Proofs.Index.Search
import Federation.Proofs.Cycle.History
import Federation.Proofs.Trust.Malformed
import Federation.Proofs.Trust.Metadata
import Federation.Proofs.Source.Unchanged
import Federation.Proofs.Source.Backup
import Federation.Proofs.Cycle.Failure
import Federation.Proofs.Index.Aging
import Federation.Proofs.Index.Pruning
import Federation.Proofs.Trust.Credentials
import Federation.Proofs.Trust.Chain
import Federation.Proofs.Sharing.Steps
import Federation.Proofs.Sharing.Serial
import Federation.Proofs.Sharing.Shutdown
import Federation.Proofs.Cycle.Validity
import Federation.Proofs.Document.Parsing
import Federation.Proofs.Cycle.Reporting
import Federation.Proofs.Cycle.Starting
import Federation.Proofs.Resolver.Rescheduling
import Federation.Proofs.Document.Positions
import Federation.Proofs.Document.Retaining
import Federation.Proofs.Filter.Order
import Federation.Proofs.Filter.Roles
import Federation.Proofs.Resolver.Single
import Federation.Proofs.Document.Expiring
import Federation.Proofs.Settings.Delays
import Federation.Proofs.Filter.Lasting
import Federation.Proofs.Source.Mirroring
import Federation.Proofs.Document.Blaming
import Federation.Proofs.Command.Resolving
