import DualServer.Basic
import DualServer.Cli.Arguments
import DualServer.Cli.Program
import DualServer.Cli.Usage
import DualServer.Config.Decode
import DualServer.Config.Document
import DualServer.Config.Encode
import DualServer.Config.Handles
import DualServer.Config.Live
import DualServer.Config.Loading
import DualServer.Config.Settings
import DualServer.Config.Validation
import DualServer.Http.Message
import DualServer.Http.Pattern
import DualServer.Http.Target
import DualServer.Http.Wire
import DualServer.Identity
import DualServer.Lifecycle.Progress
import DualServer.Lifecycle.Setup
import DualServer.Lifecycle.Shutdown
import DualServer.Log.Event
import DualServer.Log.Filter
import DualServer.Main
import DualServer.Metrics.Series
import DualServer.Net.Address
import DualServer.Net.Address.Text
import DualServer.Net.IpRange
import DualServer.Pipeline.AccessLog
import DualServer.Pipeline.Canned
import DualServer.Pipeline.Collector
import DualServer.Pipeline.Compose
import DualServer.Pipeline.Conduct
import DualServer.Pipeline.Cors
import DualServer.Pipeline.Gate
import DualServer.Pipeline.History
import DualServer.Pipeline.Paths
import DualServer.Pipeline.RouteTable
import DualServer.Pipeline.Service
import DualServer.Pipeline.Tracer
import DualServer.Serve.Client
import DualServer.Serve.ConnectionLoop
import DualServer.Serve.Connections
import DualServer.Serve.Coordinator
import DualServer.Serve.Failure
import DualServer.Serve.Session
import DualServer.Serve.Summary
import DualServer.Serve.Task
import DualServer.Serve.Visits
import DualServer.Text.Base64
import DualServer.Text.Blank
import DualServer.Text.Bytes
import DualServer.Text.Printable
import DualServer.Text.Quoted
import DualServer.Text.Sha256
import DualServer.Text.Similar
import DualServer.Text.Split
import DualServer.Tls.Certificates
import DualServer.Tls.Context
import DualServer.Tls.Der
import DualServer.Tls.Handshakes
import DualServer.Tls.Pem
import DualServer.Toml.Lexical
import DualServer.Toml.Node
import DualServer.Toml.Parse
import DualServer.Transport.Duplex
import DualServer.Transport.FileSystem
import DualServer.Transport.Listeners
import DualServer.Transport.Resolver
import DualServer.Transport.System
import DualServer.Transport.Target
import DualServer.Transport.Tunnel
import DualServer.Transport.TunnelLines
import DualServer.Url.Host
import DualServer.Url.Mapping
import DualServer.Url.Parse
import DualServer.Url.Punycode
import DualServer.Proofs.Config.Enforcement
import DualServer.Proofs.Config.ListenAddress
import DualServer.Proofs.Config.Overlay
import DualServer.Proofs.Config.Overwriting
import DualServer.Proofs.Config.ReadingBack
import DualServer.Proofs.Config.Reloading
import DualServer.Proofs.Config.TrustedRanges
import DualServer.Proofs.Config.Violations
import DualServer.Proofs.Http.Fields
import DualServer.Proofs.Lifecycle.Isolation
import DualServer.Proofs.Lifecycle.Setup
import DualServer.Proofs.Lifecycle.Signalling
import DualServer.Proofs.Metrics.Tallies
import DualServer.Proofs.Net.Membership
import DualServer.Proofs.Net.Printing
import DualServer.Proofs.Net.RangeText
import DualServer.Proofs.Net.Reading
import DualServer.Proofs.Pipeline.AccessLogging
import DualServer.Proofs.Pipeline.Admission
import DualServer.Proofs.Pipeline.CorsClash
import DualServer.Proofs.Pipeline.CorsFrame
import DualServer.Proofs.Pipeline.Counting
import DualServer.Proofs.Pipeline.Finishing
import DualServer.Proofs.Pipeline.Labels
import DualServer.Proofs.Pipeline.Nesting
import DualServer.Proofs.Pipeline.OriginGrant
import DualServer.Proofs.Pipeline.Reload
import DualServer.Proofs.Serve.AcceptLoop
import DualServer.Proofs.Serve.Binding
import DualServer.Proofs.Serve.Draining
import DualServer.Proofs.Serve.Following
import DualServer.Proofs.Serve.Joining
import DualServer.Proofs.Serve.Marking
import DualServer.Proofs.Serve.Ownership
import DualServer.Proofs.Serve.SessionMoves
import DualServer.Proofs.Serve.SessionRuns
import DualServer.Proofs.Serve.Swapping
import DualServer.Proofs.Serve.TaskStates
import DualServer.Proofs.Text.Base64Forms
import DualServer.Proofs.Tls.Handshaking
import DualServer.Proofs.Tls.Sources
import DualServer.Proofs.Transport.FileSocket
import DualServer.Proofs.Transport.Files
import DualServer.Proofs.Transport.Permits
import DualServer.Proofs.Transport.Selection
import DualServer.Proofs.Transport.SocketHost
import DualServer.Proofs.Transport.TcpAddress
