import ClusterClient.Config.Builder
import ClusterClient.Main
import ClusterClient.Proofs.Frame
import ClusterClient.Proofs.Candidates
import ClusterClient.Proofs.Course
import ClusterClient.Proofs.Search
import ClusterClient.Proofs.CallSearch
import ClusterClient.Proofs.RefreshSearch
import ClusterClient.Proofs.Lookup
import ClusterClient.Proofs.SameRequest
import ClusterClient.Proofs.Newest
import ClusterClient.Proofs.Retention
import ClusterClient.Proofs.Sweeping
import ClusterClient.Proofs.CacheUse
import ClusterClient.Proofs.Tasks
import ClusterClient.Proofs.Provenance
import ClusterClient.Proofs.Indifference
import ClusterClient.Proofs.Confirmation
import ClusterClient.Proofs.Decoding
import ClusterClient.Proofs.Writes
import ClusterClient.Proofs.Reads
import ClusterClient.Proofs.ReadEffects
import ClusterClient.Proofs.Signals
import ClusterClient.Proofs.FirstUse
import ClusterClient.Proofs.Closing
import ClusterClient.Proofs.Bootstrap
import ClusterClient.Proofs.Coalescing
import ClusterClient.Proofs.Punctual
import ClusterClient.Proofs.RoundTrip
import ClusterClient.Proofs.Overriding
import ClusterClient.Proofs.Accounts
import ClusterClient.Proofs.Rotation
import ClusterClient.Proofs.FirstChoice
import ClusterClient.Proofs.ErrorBodies
import ClusterClient.Proofs.Bookkeeping
import ClusterClient.Proofs.Addressing
import ClusterClient.Proofs.Conversion
import ClusterClient.Proofs.Issuing
import ClusterClient.Proofs.Scripting
import ClusterClient.Proofs.Driving
import ClusterClient.Proofs.Milliseconds
import ClusterClient.Proofs.Tables
import ClusterClient.Proofs.Adequacy
