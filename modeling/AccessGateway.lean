import AccessGateway.Audit.Entry
import AccessGateway.Audit.Log
import AccessGateway.CommandLine.Invocation
import AccessGateway.CommandLine.Options
import AccessGateway.CommandLine.Outcome
import AccessGateway.Config.Basic
import AccessGateway.Config.Check
import AccessGateway.Config.Load
import AccessGateway.Config.Record
import AccessGateway.Crypto.Curve
import AccessGateway.Crypto.Der
import AccessGateway.Crypto.Pem
import AccessGateway.Crypto.Rsa
import AccessGateway.Crypto.Sha2
import AccessGateway.Dialogue
import AccessGateway.Encapsulation
import AccessGateway.Failure
import AccessGateway.Firewall
import AccessGateway.Gateway.Engine
import AccessGateway.Gateway.Router
import AccessGateway.Gateway.Startup
import AccessGateway.Http.Authority
import AccessGateway.Http.ClientCache
import AccessGateway.Http.Exchange
import AccessGateway.Http.Header
import AccessGateway.Http.Message
import AccessGateway.Http.RequestTarget
import AccessGateway.Http.Target
import AccessGateway.Identity.Login
import AccessGateway.Identity.User
import AccessGateway.Json.Basic
import AccessGateway.Json.Reader
import AccessGateway.Json.Scan
import AccessGateway.Json.Writer
import AccessGateway.Main
import AccessGateway.Metrics
import AccessGateway.Mirror.Delivery
import AccessGateway.Mirror.Detection
import AccessGateway.Mirror.Engine
import AccessGateway.Mirror.Event
import AccessGateway.Mirror.Packet
import AccessGateway.Port.Announcement
import AccessGateway.Port.Dynamic
import AccessGateway.Port.Polling
import AccessGateway.Port.Range
import AccessGateway.Port.Set
import AccessGateway.Preamble.Basic
import AccessGateway.Preamble.Stream
import AccessGateway.Proofs.Dialogue
import AccessGateway.Proofs.Endpoint
import AccessGateway.Proofs.Feed.Audit
import AccessGateway.Proofs.Feed.Detection
import AccessGateway.Proofs.Feed.Framing
import AccessGateway.Proofs.Firewall
import AccessGateway.Proofs.Http.Canonical
import AccessGateway.Proofs.Http.ClientCache
import AccessGateway.Proofs.Http.Target
import AccessGateway.Proofs.Json.Number
import AccessGateway.Proofs.Json.Quoting
import AccessGateway.Proofs.Json.RoundTrip
import AccessGateway.Proofs.Json.Scan
import AccessGateway.Proofs.Json.Spelling
import AccessGateway.Proofs.Mirror.Counters
import AccessGateway.Proofs.Port.Announcement
import AccessGateway.Proofs.Port.Grammar
import AccessGateway.Proofs.Port.Listening
import AccessGateway.Proofs.Port.Polling
import AccessGateway.Proofs.Port.Reconfiguration
import AccessGateway.Proofs.Port.Set
import AccessGateway.Proofs.Port.Teardown
import AccessGateway.Proofs.Preamble.Buffer
import AccessGateway.Proofs.Preamble.Decision
import AccessGateway.Proofs.Preamble.Encoding
import AccessGateway.Proofs.Preamble.Extension
import AccessGateway.Proofs.Preamble.Grammar
import AccessGateway.Proofs.Preamble.Stream
import AccessGateway.Proofs.Relay.Address
import AccessGateway.Proofs.Relay.Audit
import AccessGateway.Proofs.Relay.Datagram
import AccessGateway.Proofs.Relay.Mediation
import AccessGateway.Proofs.Relay.NonInterference
import AccessGateway.Proofs.Relay.Peer
import AccessGateway.Proofs.Relay.Response
import AccessGateway.Proofs.Relay.Routing
import AccessGateway.Proofs.Relay.Stream
import AccessGateway.Proofs.Text.Ascii
import AccessGateway.Proofs.Text.Decimal
import AccessGateway.Proofs.Text.Numeral
import AccessGateway.Proofs.Token.Acceptance
import AccessGateway.Proofs.Token.KeySystem
import AccessGateway.Relay.Call
import AccessGateway.Relay.Datagram
import AccessGateway.Relay.Duplex
import AccessGateway.Relay.Forwarding
import AccessGateway.Relay.Stream
import AccessGateway.Relay.Web
import AccessGateway.Route
import AccessGateway.Settings.Basic
import AccessGateway.Settings.Decode
import AccessGateway.Settings.EnvFile
import AccessGateway.Settings.Environment
import AccessGateway.Settings.OfYaml
import AccessGateway.Settings.Placeholder
import AccessGateway.SocketAddress
import AccessGateway.Text.Alphanumeric
import AccessGateway.Text.Base64
import AccessGateway.Text.Blank
import AccessGateway.Text.Decimal
import AccessGateway.Text.Numeral
import AccessGateway.Text.Shapeless
import AccessGateway.Text.Split
import AccessGateway.Text.Utf8
import AccessGateway.Time.Calendar
import AccessGateway.Time.Duration
import AccessGateway.Token.Algorithm
import AccessGateway.Token.Claims
import AccessGateway.Token.Header
import AccessGateway.Token.Key
import AccessGateway.Token.KeyCache
import AccessGateway.Token.Signed
import AccessGateway.Token.Verifier
import AccessGateway.Url.Basic
import AccessGateway.Url.Escape
import AccessGateway.Url.Host
import AccessGateway.Url.Punycode
import AccessGateway.Yaml.Cursor
import AccessGateway.Yaml.Document
import AccessGateway.Yaml.Scalar
import AccessGateway.Proofs.Port.Expansion
import AccessGateway.Proofs.Encapsulation
import AccessGateway.Proofs.Time.Duration
import AccessGateway.Proofs.Config.Load
import AccessGateway.Proofs.Config.Startup
import AccessGateway.Proofs.Feed.Event
