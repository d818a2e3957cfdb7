import RepositoryAccess.Permission.Shared
import RepositoryAccess.Cache.Recent
import RepositoryAccess.Target.Register
import RepositoryAccess.Fault
import RepositoryAccess.Directory.Descriptor
import RepositoryAccess.Document.Moment
import RepositoryAccess.Document.Reader
import RepositoryAccess.Settings.Load
import RepositoryAccess.Service.Perform
import RepositoryAccess.Proofs.Course
import RepositoryAccess.Proofs.Conferral
import RepositoryAccess.Proofs.Coherence
import RepositoryAccess.Proofs.Upkeep
import RepositoryAccess.Proofs.Answers
import RepositoryAccess.Proofs.Walk
import RepositoryAccess.Proofs.Resolution
import RepositoryAccess.Proofs.RealmSets
import RepositoryAccess.Proofs.Steps
import RepositoryAccess.Proofs.Freshness
import RepositoryAccess.Proofs.Decision
import RepositoryAccess.Proofs.Constants
import RepositoryAccess.Proofs.Deeds
import RepositoryAccess.Proofs.DirtyCheck
import RepositoryAccess.Proofs.Implication
import RepositoryAccess.Proofs.Seclusion
import RepositoryAccess.Proofs.Recall
import RepositoryAccess.Proofs.RequestMemory
import RepositoryAccess.Proofs.Notification
import RepositoryAccess.Proofs.Draining
import RepositoryAccess.Proofs.Spans
import RepositoryAccess.Proofs.Ends
import RepositoryAccess.Proofs.Trailing
import RepositoryAccess.Proofs.TrailingParts
import RepositoryAccess.Proofs.TrailingSteps
import RepositoryAccess.Proofs.Anchoring
import RepositoryAccess.Proofs.Literals
import RepositoryAccess.Proofs.Exclusion
import RepositoryAccess.Proofs.PathShapes
import RepositoryAccess.Proofs.Enclosure
import RepositoryAccess.Proofs.RealmNames
import RepositoryAccess.Proofs.Grammar
import RepositoryAccess.Proofs.Traversal
import RepositoryAccess.Proofs.Failure
import RepositoryAccess.Proofs.Gathering
import RepositoryAccess.Proofs.Escaping
import RepositoryAccess.Proofs.Inquiries
import RepositoryAccess.Proofs.Outcomes
import RepositoryAccess.Proofs.Recency
import RepositoryAccess.Proofs.Guarding
import RepositoryAccess.Proofs.Stocks
import RepositoryAccess.Proofs.Containment
import RepositoryAccess.Proofs.Retention
import RepositoryAccess.Proofs.Minting
import RepositoryAccess.Proofs.Forms
import RepositoryAccess.Proofs.Privileges
import RepositoryAccess.Proofs.Overrides
