import AccessGateway.Config.Check
import AccessGateway.Gateway.Engine
import AccessGateway.Port.Polling

/-!
# Start-up and teardown

A gateway starts from a checked configuration. Its parts come up one after the other, and the first that cannot come
up ends the start: the web listener, the verifier, the firewall, the mirror, the static ports and the dynamic ports.
A key that cannot be fetched yet, or dynamic ports that cannot be bound yet, do not.
-/

namespace AccessGateway

/-- What a start finds: the environment, what the operating system says to the web listener and to ports, and what
the backend answers to the first request for a key. -/
structure StartConditions where
  environment : Settings.Variables
  webFault : SocketAddress → Option SystemError
  binding : Binding
  present : Nat
  firstKey : String → Exchange

/-- A gateway that runs. -/
structure RunningGateway where
  address : SocketAddress
  site : Site
  engine : Engine
  /-- Where audit lines are shipped to. -/
  collector : Option String
  staticPorts : Option DynamicPorts
  dynamicPorts : Option DynamicPorts
  /-- Where announcements of ports are asked for. -/
  portSource : Option PortSource

namespace Config

/-- The address of the web listener. -/
def webAddress (c : Config) : Except Failure SocketAddress :=
  match IpAddress.read? c.server.host with
  | none => .error (.config "Invalid host: invalid IP address syntax")
  | some ip => .ok ⟨ip, c.server.httpPort, 0⟩

/-- The expression of a single port; a port of zero is none. -/
def singlePort (port : Nat) : String := if port = 0 then "" else s!"{port}"

/-- Assigns ranges to new ports. -/
def assigned (tcp udp : String) : Except Failure DynamicPorts :=
  let (r, d) := DynamicPorts.assign tcp udp {}
  r.map fun _ => d

/-- The listeners of the fixed relay ports. -/
def startStaticPorts (c : Config) (bind : Binding) : Except Failure (Option DynamicPorts) := do
  let tcp := singlePort c.server.tcpPort
  let udp := singlePort c.server.udpPort
  if tcp.isEmpty && udp.isEmpty then return none
  let (r, d) := (← assigned tcp udp).start bind
  let _ ← r
  return some d

/-- The dynamic ports, opened from the initial ranges as far as they can be, and where they are announced. -/
def startDynamicPorts (c : Config) (bind : Binding) : Except Failure (Option (DynamicPorts × PortSource)) := do
  if !c.dynamicPorts.enabled then return none
  let (_, d) := (← assigned c.dynamicPorts.tcpRanges c.dynamicPorts.udpRanges).start bind
  let source ← PortSource.ofConfig c.dynamicPorts
  return some (d, source)

/-- The verifier, after the first attempt to fetch its key. -/
def startVerifier (c : Config) (s : StartConditions) : Except Failure Verifier := do
  let v ← Verifier.ofConfig c.auth
  return (v.run s.present (fun url _ => (s.firstKey url, ())) (Verifier.refreshTask true) ()).2.1

/-- The mirror, started if it is switched on. -/
def startMirror (c : Config) : Except Failure (Option MirrorEngine) :=
  if c.mirror.enabled then
    let (r, m) := MirrorEngine.start { config := c.mirror, gatewayId := c.server.gatewayId }
    r.map fun _ => some m
  else .ok none

/-- What the router is told of the configuration. -/
def site (c : Config) (vs : Settings.Variables) : Site where
  server := c.server
  routes := ⟨c.routing.peers⟩
  mode := c.auth.mode
  backendUrl := c.auth.backendUrl
  firewallEnabled := c.firewall.enabled
  metricsToken := c.metrics.resolvedToken vs

/-- Starts a gateway from a checked configuration. -/
def start (c : Config) (s : StartConditions) : Except Failure RunningGateway := do
  let address ← c.webAddress
  if let some e := s.webFault address then throw (.io e)
  let verifier ← c.startVerifier s
  let collector := c.audit.collectorAddress?
  let audit := if collector.isSome then AuditLog.withCollector c.audit.queueSize else {}
  let firewall ← Firewall.ofConfig c.firewall s.environment
  let mirror ← c.startMirror
  let staticPorts ← c.startStaticPorts s.binding
  let dynamic ← c.startDynamicPorts s.binding
  return {
    address, collector, staticPorts
    site := c.site s.environment
    engine := { verifier, firewall, mirror, audit }
    dynamicPorts := dynamic.map (·.1)
    portSource := dynamic.map (·.2) }

end Config

/-- The gateway after its teardown: dynamic ports first, then static ports, then the mirror. -/
def RunningGateway.teardown (g : RunningGateway) : RunningGateway :=
  { g with
    dynamicPorts := g.dynamicPorts.map DynamicPorts.stop
    staticPorts := g.staticPorts.map DynamicPorts.stop
    engine := { g.engine with mirror := g.engine.mirror.map MirrorEngine.stop } }

end AccessGateway
