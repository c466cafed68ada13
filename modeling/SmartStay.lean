import SmartStay.Queue.Fencing
import SmartStay.Queue.Cancellation
import SmartStay.Idempotency.SingleExecution
import SmartStay.Continuation.Stranding
import SmartStay.Idempotency.Accounting
import SmartStay.Session.Updates
import SmartStay.Continuation.Attempts
import SmartStay.Capacity.InMemory
import SmartStay.Capacity.Coordinator
import SmartStay.Idempotency.InMemory
import SmartStay.Session.Compatibility
import SmartStay.Pareto.Soundness
import SmartStay.Ranking.Feedback
import SmartStay.Geometry.SensiblePrice
import SmartStay.Scale.SafePruning
import SmartStay.Outcome.Deletion
import SmartStay.Booking.Redemption
import SmartStay.Orchestrator.PriceSafety
import SmartStay.Safety.FailSafe
import SmartStay.Session.FreshLease
import SmartStay.Idempotency.Fingerprint
import SmartStay.Request.Occupancy
import SmartStay.Health.ProbeRelease
import SmartStay.Merge.Identity
import SmartStay.Integrity.Tiling
import SmartStay.Safety.OwnValidation
import SmartStay.Upgrade.Marginal
import SmartStay.Offers.Selection
import SmartStay.Intent.Floors
import SmartStay.Utility.Mean
import SmartStay.Promotion.Readiness
import SmartStay.Promotion.Evidence
import SmartStay.Integrity.Recheck
import SmartStay.SplitF0.Stability
import SmartStay.SplitF0.BruteForce
import SmartStay.Contextual.WellDefined
import SmartStay.LiteApi.Disclosure
import SmartStay.LiteApi.Prebook
import SmartStay.RateLimit.SharedLimiter
