import AccessGateway.Audit.Log
import AccessGateway.Firewall
import AccessGateway.Gateway.Router
import AccessGateway.Port.Dynamic
import AccessGateway.Relay.Datagram
import AccessGateway.Token.Verifier

/-!
# The engine

The parts of a running gateway that units of traffic share, and how they answer the calls of a unit. What lies
outside, such as the backend, the policy service, clients and targets, is a network with a state of its own.
-/

namespace AccessGateway

/-- What lies outside the gateway. -/
structure Network (σ : Type) where
  /-- The present. -/
  present : σ → Instant
  /-- A request for the key under an address. -/
  backend : String → σ → Exchange × σ
  /-- A question to the policy service. -/
  policy : PolicyQuery → σ → Exchange × σ
  /-- What goes wrong when a client for a target is made. -/
  clientFault : String → σ → Option String × σ
  /-- A request to a target, its address normalised. -/
  request : TargetClient → TargetRequest → σ → Except FetchError TargetAnswer × σ
  /-- How many chunks of a response a client takes. -/
  respond : WebResponse → σ → Nat × σ
  connect : String → σ → Except String Unit × σ
  sendFirst : List UInt8 → σ → Except SystemError Unit × σ
  join : σ → List DuplexEvent × σ
  lookup : String → σ → Except SystemError (Option SocketAddress) × σ
  openSocket : SocketAddress → σ → Except SystemError Unit × σ
  send : List UInt8 → σ → Except SystemError Unit × σ
  receive : σ → Receipt × σ
  reply : List UInt8 → σ → Except SystemError Unit × σ

/-- The parts that units of traffic share. -/
structure Engine where
  verifier : Verifier
  firewall : Firewall := .allowAll
  clients : ClientCache := {}
  mirror : Option MirrorEngine := none
  audit : AuditLog := {}

namespace Engine

variable {σ : Type}

/-- The answer to a call, with the engine and the network after it. -/
def answer (net : Network σ) (c : RelayCall) (s : Engine × σ) : c.Answer × Engine × σ :=
  let (e, w) := s
  match c with
  | .validate token =>
    let (r, verifier, w) := e.verifier.validate (net.present w).seconds.toNat net.backend token w
    (r, { e with verifier }, w)
  | .decide user target =>
    let (r, w) := e.firewall.check net.policy user.id target w
    (r, e, w)
  | .audit entry => ((), { e with audit := e.audit.record (net.present w) entry }, w)
  | .mirror packet => ((), { e with mirror := e.mirror.map (·.enqueue ⟨net.present w, packet⟩) }, w)
  | .client host pin =>
    let (fault, w) := net.clientFault host w
    let (r, clients) := e.clients.get host pin fault
    (r, { e with clients }, w)
  | .request client q =>
    match requestAddress q.address with
    | .error f => (.error f, e, w)
    | .ok address =>
      let (r, w) := net.request client { q with address } w
      (r, e, w)
  | .respond r => let (n, w) := net.respond r w; (n, e, w)
  | .connect address => let (r, w) := net.connect address w; (r, e, w)
  | .sendFirst bytes => let (r, w) := net.sendFirst bytes w; (r, e, w)
  | .join => let (r, w) := net.join w; (r, e, w)
  | .lookup address => let (r, w) := net.lookup address w; (r, e, w)
  | .openSocket remote => let (r, w) := net.openSocket remote w; (r, e, w)
  | .send payload => let (r, w) := net.send payload w; (r, e, w)
  | .receive => let (r, w) := net.receive w; (r, e, w)
  | .reply payload => let (r, w) := net.reply payload w; (r, e, w)

/-- Runs a unit of traffic. -/
def run {α : Type} (net : Network σ) (task : RelayTask α) (e : Engine) (w : σ) : α × Engine × σ :=
  task.run (answer net) (e, w)

/-- What the health page shows of the engine. -/
def status (e : Engine) : GatewayStatus where
  mirror := e.mirror.map fun m => ⟨m.isRunning, m.config.encapsulation, m.stats⟩
  clients := e.clients.size

end Engine

/-- Listeners as the health page shows them. -/
def DynamicPorts.status (d : DynamicPorts) : PortStatus := ⟨d.listenerCount, d.configuredPorts.length⟩

end AccessGateway
