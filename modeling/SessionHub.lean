import SessionHub.Deployment.Machine
import SessionHub.Http.Front
import SessionHub.Remote.Follower
import SessionHub.Remote.Scan
import SessionHub.Remote.Target
import SessionHub.Settings.Load
import SessionHub.Proofs.Cluster.Autonomy
import SessionHub.Proofs.Cluster.Detection
import SessionHub.Proofs.Cluster.FanOut
import SessionHub.Proofs.Cluster.Health
import SessionHub.Proofs.Cluster.Orphans
import SessionHub.Proofs.Cluster.Parting
import SessionHub.Proofs.Cluster.Reckoning
import SessionHub.Proofs.Cluster.Seclusion
import SessionHub.Proofs.Cluster.Takeover
import SessionHub.Proofs.Cluster.Trespass
import SessionHub.Proofs.Cluster.Verdicts
import SessionHub.Proofs.Connection.Inflow
import SessionHub.Proofs.Connection.Outflow
import SessionHub.Proofs.Hub.Accounts
import SessionHub.Proofs.Hub.Callbacks
import SessionHub.Proofs.Hub.Eviction
import SessionHub.Proofs.Json.Merge
import SessionHub.Proofs.KeyLayout.Reading
import SessionHub.Proofs.Remote.Reconnection
import SessionHub.Proofs.Remote.Redaction
import SessionHub.Proofs.Remote.Scan
import SessionHub.Proofs.Settings.Layers
import SessionHub.Proofs.Settings.Timers
import SessionHub.Proofs.Store.Following
import SessionHub.Proofs.Store.Lifetimes
