import SequenceLog.Proofs.Closing
import SequenceLog.Proofs.Connectivity
import SequenceLog.Proofs.Contention
import SequenceLog.Proofs.Instant
import SequenceLog.Proofs.Isolation
import SequenceLog.Proofs.LastSetup
import SequenceLog.Proofs.Linearization
import SequenceLog.Proofs.Loading
import SequenceLog.Proofs.LockStep
import SequenceLog.Proofs.Mapping
import SequenceLog.Proofs.Printing
import SequenceLog.Proofs.Procedure
import SequenceLog.Proofs.Refusal
import SequenceLog.Proofs.SingleFlight
import SequenceLog.Proofs.Tenure
import SequenceLog.Proofs.Scheduling
import SequenceLog.Version
