import LogThrottle.Drill.Capture
import LogThrottle.Drill.CommonUse
import LogThrottle.Drill.Contention
import LogThrottle.Drill.Fitting
import LogThrottle.Drill.Flood
import LogThrottle.Proofs.Catalogues.Identity
import LogThrottle.Proofs.Counting.Elapsed
import LogThrottle.Proofs.Digests.Reading
import LogThrottle.Proofs.Enrolment.Agreement
import LogThrottle.Proofs.Enrolment.Stranding
import LogThrottle.Proofs.Failures.Overflows
import LogThrottle.Proofs.Failures.Runs
import LogThrottle.Proofs.Firing.Periods
import LogThrottle.Proofs.Hoisting.Runs
import LogThrottle.Proofs.Interleaving.Forestalling
import LogThrottle.Proofs.Interleaving.Locking
import LogThrottle.Proofs.Interleaving.Marking
import LogThrottle.Proofs.Interleaving.Overtaking
import LogThrottle.Proofs.Interleaving.Sharing
import LogThrottle.Proofs.Isolation.Runs
import LogThrottle.Proofs.Refinement.Runs
import LogThrottle.Proofs.Reporting.Conservation
import LogThrottle.Proofs.Shutdown.Aftermath
import LogThrottle.Proofs.Stores.FirstWrites
import LogThrottle.Proofs.Tallying.Totals
import LogThrottle.Proofs.Teardown.Orders
import LogThrottle.Proofs.Templates.Filling
import LogThrottle.Session.Report
