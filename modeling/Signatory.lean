import Signatory.Proofs.Admission
import Signatory.Proofs.Agreement
import Signatory.Proofs.Collection
import Signatory.Proofs.Dependence
import Signatory.Proofs.FailClosed
import Signatory.Proofs.MapAsSet
import Signatory.Proofs.Verdicts
import Signatory.Proofs.Wire.BodyNesting
import Signatory.Proofs.Wire.SigningDomains
import Signatory.Service
import Signatory.Proofs.Wire.NormalForm
import Signatory.Proofs.Wire.Acceptance
import Signatory.Proofs.Wire.Lengths
import Signatory.Proofs.Wire.Extent
import Signatory.Proofs.Arrival
import Signatory.Proofs.Stepwise
import Signatory.Proofs.Wire.Unambiguity
import Signatory.Proofs.Evaluation
import Signatory.Proofs.LeafStatus
import Signatory.Proofs.SigningTable
import Signatory.Proofs.Validity
import Signatory.Proofs.Deferral
import Signatory.Proofs.Unreadable
import Signatory.Proofs.IngestOutcomes
import Signatory.Proofs.ConsensusOutcomes
import Signatory.Proofs.FirstFailure
import Signatory.Proofs.Descent
import Signatory.Proofs.Flagged
import Signatory.Proofs.ScheduledMessage
import Signatory.Proofs.Preference
import Signatory.Proofs.Lookups
import Signatory.Proofs.ScheduleViews
import Signatory.Proofs.FirstFit
import Signatory.Proofs.StrongestStatus
import Signatory.Proofs.LedgerHistory
import Signatory.Proofs.RecordTraversal
import Signatory.Proofs.RecordLifecycle
import Signatory.Proofs.Wire.OpenLevels
