import Signalweave.QueueHistories
import Signalweave.AdmissionHolds
import Signalweave.AdmissionIsolation
import Signalweave.AdmissionMemory
import Signalweave.AdmissionTargets
import Signalweave.UsageBilling
import Signalweave.UsageGauges
import Signalweave.UsageIdentity
import Signalweave.UsageSinks
import Signalweave.Core.Exact
import Signalweave.Core.Cells
import Signalweave.Core.Integrity
import Signalweave.Core.Leaks
import Signalweave.Core.Projections
import Signalweave.Core.RateLimit
import Signalweave.Core.Refines
import Signalweave.Inference.Encodable
import Signalweave.Inference.StatusUpdate
import Signalweave.Client.Decoding
import Signalweave.Client.Requests
import Signalweave.Transport.Cleanup
import Signalweave.Transport.Draining
import Signalweave.Transport.Provenance
import Signalweave.Transport.Metrics
import Signalweave.Transport.Reader
import Signalweave.Transport.Truth
