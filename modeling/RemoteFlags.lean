import RemoteFlags.Main
import RemoteFlags.Time.Timestamp
import RemoteFlags.Proofs.Bulk.Ledger
import RemoteFlags.Proofs.Exchange
import RemoteFlags.Proofs.Bulk.Refetch
import RemoteFlags.Proofs.Bulk.Run
import RemoteFlags.Proofs.Bulk.Snapshot
import RemoteFlags.Proofs.Bulk.Isolation
import RemoteFlags.Proofs.Bulk.Freshness
import RemoteFlags.Proofs.Bulk.Revalidation
import RemoteFlags.Proofs.Single
import RemoteFlags.Proofs.Smoke.Wire
import RemoteFlags.Proofs.Pause.Contact
import RemoteFlags.Proofs.Pause.Run
import RemoteFlags.Proofs.Pause.Refusal
import RemoteFlags.Proofs.Smoke.FirstFailure
import RemoteFlags.Proofs.Bulk.Agreement
import RemoteFlags.Proofs.Registration
import RemoteFlags.Proofs.Smoke.Effect
import RemoteFlags.Proofs.Concurrent.System
import RemoteFlags.Proofs.Concurrent.Silence
import RemoteFlags.Proofs.Url.Path
import RemoteFlags.Proofs.Endpoint
import RemoteFlags.Proofs.Bulk.Atomicity
import RemoteFlags.Proofs.Attempts
import RemoteFlags.Proofs.Evaluation
import RemoteFlags.Proofs.Bulk.Listing
import RemoteFlags.Proofs.Typed
import RemoteFlags.Proofs.Flag.Grammar
import RemoteFlags.Proofs.Flag.Readings
import RemoteFlags.Proofs.Context.Wire
import RemoteFlags.Proofs.Smoke.Output
import RemoteFlags.Proofs.Smoke.Configuration
import RemoteFlags.Proofs.Pause.Length
import RemoteFlags.Proofs.Settings.Building
import RemoteFlags.Proofs.Bulk.Representation
import RemoteFlags.Proofs.Context.Canonical
