import AccessGateway.Config.Basic
import AccessGateway.Port.Set

/-!
# Requirements across fields

What a configuration must give for the gateway to start. The requirements are checked in the order of the sections,
and those of a feature only where the feature is switched on.
-/

namespace AccessGateway.Config

/-- Fails with a configuration error unless a condition holds. -/
def require (holds : Bool) (text : String) : Except Failure Unit :=
  if holds then .ok () else .error (.config text)

/-- A text has something in it beside blanks. -/
def isGiven (s : String) : Bool := !(Text.trimmed s).isEmpty

/-- The requirements on the mirror. -/
def checkMirror (c : MirrorConfig) : Except Failure Unit := do
  require (!c.destinations.isEmpty || c.idsAddress?.isSome)
    "mirror.enabled requires at least one destination or an IDS collector"
  require (c.queueSize ≠ 0 && c.workers ≠ 0) "mirror.queue_size and mirror.workers must be positive"

/-- The requirements on dynamic ports. -/
def checkDynamicPorts (c : DynamicPortsConfig) : Except Failure Unit := do
  require (isGiven c.backendUrl) "dynamic_ports.enabled requires dynamic_ports.backend_url"
  require (isGiven c.gatewayId) "dynamic_ports.enabled requires dynamic_ports.gateway_id"
  match PortSet.readChecked c.tcpRanges c.udpRanges with
  | .ok _ => return
  | .error e => throw (.portRange e)

/-- All requirements. -/
def check (c : Config) : Except Failure Unit := do
  require (isGiven c.auth.backendUrl) "auth.backend_url is required"
  if c.mirror.enabled then checkMirror c.mirror
  require (!c.firewall.enabled || isGiven c.firewall.url) "firewall.enabled requires firewall.url"
  if c.dynamicPorts.enabled then checkDynamicPorts c.dynamicPorts

end AccessGateway.Config
