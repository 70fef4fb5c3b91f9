import PulseRTC.Cluster.Backends
import PulseRTC.Cluster.Ownership
import PulseRTC.Cluster.Lifecycle
import PulseRTC.Cluster.Scans
import PulseRTC.Cluster.Selection
import PulseRTC.Cluster.NodeRecovery
import PulseRTC.Cluster.Takeover
import PulseRTC.Cluster.Orphans
import PulseRTC.Cluster.Locations
import PulseRTC.Cluster.Sending
import PulseRTC.Cluster.Routing
import PulseRTC.Cluster.RouteCalls
import PulseRTC.Media.Codec
import PulseRTC.Media.Handshake
import PulseRTC.Media.Mirroring
import PulseRTC.Media.Feedback
import PulseRTC.Signaling.Membership
import PulseRTC.Signaling.Hosting
import PulseRTC.Signaling.Joining
import PulseRTC.Sfu.Progress
import PulseRTC.Sfu.Defaults
import PulseRTC.Sfu.Negotiation
import PulseRTC.Signaling.Departure
import PulseRTC.Signaling.Forwarding
import PulseRTC.Signaling.Interest
import PulseRTC.Signaling.Fencing
import PulseRTC.Auth.Expiry
import PulseRTC.Api.Closing
import PulseRTC.Sdk.Snapshot
import PulseRTC.Sdk.Membership
import PulseRTC.Sdk.SocketLoss
import PulseRTC.Sdk.Identity
import PulseRTC.Sdk.Frames
import PulseRTC.Sdk.Republishing
import PulseRTC.Signaling.Recovering
import PulseRTC.Signaling.CallHistory
import PulseRTC.Sfu.Keyframes
import PulseRTC.Sfu.MirrorHandles
import PulseRTC.Quality.Hysteresis
import PulseRTC.Quality.Verdicts
import PulseRTC.Sdk.StreamKeys
import PulseRTC.Auth.Acceptance
import PulseRTC.Api.Lifetimes
import PulseRTC.Sdk.Pump
import PulseRTC.Signaling.Backoff
