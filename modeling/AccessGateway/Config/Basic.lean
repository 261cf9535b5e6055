import AccessGateway.Encapsulation
import AccessGateway.Failure
import AccessGateway.Identity.Login
import AccessGateway.Json.Basic
import AccessGateway.Settings.Environment
import AccessGateway.Time.Duration

/-!
# The configuration

One record per section, each with its defaults, and the values that follow from a section: the encapsulation of the
mirror, the addresses of collectors, and secrets that are named by a variable. How the program calls itself cannot be
configured.
-/

namespace AccessGateway

/-- The name of the program. -/
def Product.name : String := "ztna-headend"

/-- The version of the program. -/
def Product.version : String := "0.4.0"

/-- Listeners and relays. A port of zero means no listener. -/
structure ServerConfig where
  host : String := "0.0.0.0"
  httpPort : Nat := 8443
  tcpPort : Nat := 8444
  udpPort : Nat := 8445
  requestTimeout : Duration := .ofSeconds 30
  idleTimeout : Duration := .ofSeconds 90
  shutdownTimeout : Duration := .ofSeconds 30
  maxBodySize : Nat := 10485760
  mirrorBodyLimit : Nat := 61440
  targetScheme : String := "https"
  udpResponseTimeout : Duration := .ofSeconds 30
  preambleTimeout : Duration := .ofSeconds 10
  connectTimeout : Duration := .ofSeconds 10
  gatewayId : String := "headend"
deriving DecidableEq, Repr, Inhabited

/-- How tokens are verified. -/
structure AuthConfig where
  mode : AuthMode := .jwt
  backendUrl : String := ""
  algorithm : String := "RS256"
  keyRefreshInterval : Duration := .ofSeconds 3600
deriving DecidableEq, Repr, Inhabited

/-- Where copies of the traffic go, and how. -/
structure MirrorConfig where
  enabled : Bool := false
  destinations : List String := []
  protocol : String := "vxlan"
  queueSize : Nat := 10000
  workers : Nat := 4
  vni : Nat := 1
  erspanSessionId : Nat := 1
  erspanVlan : Nat := 0
  idsHost : Option String := none
  idsPort : Nat := 9555
  statsInterval : Duration := .ofSeconds 60
deriving DecidableEq, Repr, Inhabited

/-- The policy service. -/
structure FirewallConfig where
  enabled : Bool := false
  url : String := ""
  token : Option String := none
  timeout : Duration := .ofSeconds 5
deriving DecidableEq, Repr, Inhabited

/-- The collector of the audit log. -/
structure AuditConfig where
  host : Option String := none
  port : Nat := 5170
  queueSize : Nat := 4096
deriving DecidableEq, Repr, Inhabited

/-- Listeners that the backend decides on. -/
structure DynamicPortsConfig where
  enabled : Bool := false
  backendUrl : String := ""
  gatewayId : String := ""
  clusterId : String := ""
  refreshInterval : Duration := .ofSeconds 30
  bindHost : String := "0.0.0.0"
  tcpRanges : String := ""
  udpRanges : String := ""
deriving DecidableEq, Repr, Inhabited

/-- The metrics endpoint. -/
structure MetricsConfig where
  token : Option String := none
deriving DecidableEq, Repr, Inhabited

/-- Targets that are reached through a peer. -/
structure RoutingConfig where
  peers : List (String × String) := []
deriving DecidableEq, Repr, Inhabited

/-- The whole configuration. -/
structure Config where
  envFiles : List String := []
  server : ServerConfig := {}
  auth : AuthConfig := {}
  mirror : MirrorConfig := {}
  firewall : FirewallConfig := {}
  audit : AuditConfig := {}
  dynamicPorts : DynamicPortsConfig := {}
  metrics : MetricsConfig := {}
  routing : RoutingConfig := {}
deriving DecidableEq, Repr, Inhabited

/-- The address of a collector, if its host is given and not empty. -/
def collectorAddress? (host : Option String) (port : Nat) : Option String :=
  (host.filter (!·.isEmpty)).map fun h => s!"{h}:{port}"

/-- The encapsulation named by the mirror's protocol, with the parameters set beside it. -/
def MirrorConfig.encapsulation (c : MirrorConfig) : Encapsulation :=
  match Encapsulation.ofTag c.protocol with
  | .vxlan _ => .vxlan (UInt32.ofNat c.vni)
  | .erspan _ _ => .erspan (UInt16.ofNat c.erspanVlan) (UInt16.ofNat c.erspanSessionId)
  | e => e

/-- The address of the intrusion detection collector. -/
def MirrorConfig.idsAddress? (c : MirrorConfig) : Option String := collectorAddress? c.idsHost c.idsPort

def AuditConfig.collectorAddress? (c : AuditConfig) : Option String := AccessGateway.collectorAddress? c.host c.port

/-- A secret: behind `env:` stands a variable; if it is not set the text stays as it is. -/
def resolveSecret (vs : Settings.Variables) (value : String) : String :=
  match Text.strip? "env:".toList value.toList with
  | some name => (vs.get? (String.ofList name)).getD value
  | none => value

/-- The token shown to the policy service. -/
def FirewallConfig.resolvedToken (c : FirewallConfig) (vs : Settings.Variables) : Option String :=
  c.token.map (resolveSecret vs)

/-- The token that guards the metrics; an empty one is none. -/
def MetricsConfig.resolvedToken (c : MetricsConfig) (vs : Settings.Variables) : Option String :=
  (c.token.map (resolveSecret vs)).filter (!·.isEmpty)

end AccessGateway
