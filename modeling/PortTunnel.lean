import PortTunnel.Cluster.Patch
import PortTunnel.Forward.Rehearsal
import PortTunnel.Inspect
import PortTunnel.Logging.Settings
import PortTunnel.Main
import PortTunnel.Payload
import PortTunnel.Proofs.Text.Utf8
import PortTunnel.Surroundings
import PortTunnel.Worker
import PortTunnel.Proofs.Text.Base64
import PortTunnel.Proofs.Json.Compact
import PortTunnel.Proofs.Schema.Sound
import PortTunnel.Proofs.Schema.RoundTrip
import PortTunnel.Proofs.Payload
import PortTunnel.Proofs.Cluster.Patch
import PortTunnel.Proofs.Open
import PortTunnel.Proofs.Forward.Step
import PortTunnel.Proofs.Forward.Run
import PortTunnel.Proofs.Teardown
import PortTunnel.Proofs.Launcher
import PortTunnel.Proofs.Leftover
import PortTunnel.Proofs.Handoff
import PortTunnel.Proofs.Engine
import PortTunnel.Proofs.Worker
import PortTunnel.Proofs.Json.Meaning
import PortTunnel.Proofs.Cluster.Compose
import PortTunnel.Proofs.Cluster.Frame
import PortTunnel.Lifecycle.Shared
import PortTunnel.Proofs.Lifecycle
import PortTunnel.Proofs.Inspect
import PortTunnel.Proofs.Watchdog
import PortTunnel.Proofs.Opened
import PortTunnel.Proofs.Session.Plugin
import PortTunnel.Proofs.Schema.Defaults
import PortTunnel.Proofs.Schema.Members
import PortTunnel.Proofs.Schema.Variation
import PortTunnel.Proofs.Schema.Flaw
import PortTunnel.Proofs.Tolerance
import PortTunnel.Proofs.Launched
import PortTunnel.Proofs.Closing
import PortTunnel.Proofs.Cluster.Traffic
import PortTunnel.Proofs.Session.Played
import PortTunnel.Proofs.Preflight
import PortTunnel.Proofs.Cluster.Loading
import PortTunnel.Proofs.Validation
import PortTunnel.Proofs.Escalation
import PortTunnel.Proofs.Launch
import PortTunnel.Proofs.LogName
import PortTunnel.Proofs.Cluster.Selector
import PortTunnel.Proofs.Session.Answer
import PortTunnel.Proofs.Cluster.InPlace
import PortTunnel.Proofs.CommandLine.Access
