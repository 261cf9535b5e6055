import AccessGateway.Config.Basic
import AccessGateway.Mirror.Packet
import AccessGateway.Route
import AccessGateway.Time.Calendar

/-!
# EVE events

The record an intrusion-detection collector gets for a mirrored packet. An endpoint that does not split into host
and port stands as the address, with port 0. The flow id is the time of the packet in microseconds, or 0 before
1970.
-/

namespace AccessGateway

/-- An event for the intrusion-detection feed. -/
structure EveEvent where
  timestamp : String
  flowId : Nat
  sourceAddress : String
  sourcePort : Nat
  destinationAddress : String
  destinationPort : Nat
  transport : String
  application : Option String
  payloadSize : Nat
  metadata : List (String × Json)
  host : String
deriving Repr, BEq

namespace EveEvent

/-- Host and port of an endpoint text, or the whole text and port 0. -/
def endpoint (address : String) : String × Nat :=
  match splitHostPort? address.toList with
  | some (host, port) => (String.ofList host, port)
  | none => (address, 0)

/-- The event for a packet observed at a moment by a gateway. -/
def ofPacket (p : MirrorPacket) (observed : Instant) (gatewayId : String) : EveEvent :=
  let source := endpoint p.source
  let destination := endpoint p.destination
  { timestamp := observed.render
    flowId := observed.micros.toNat
    sourceAddress := source.1
    sourcePort := source.2
    destinationAddress := destination.1
    destinationPort := destination.2
    transport := if p.traffic = .udp then "UDP" else "TCP"
    application := if p.traffic = .http then some "http" else none
    payloadSize := p.payload.length
    metadata := p.metadata
    host := gatewayId }

/-- The fields that do not depend on the moment. -/
def lasting (e : EveEvent) : List (String × Json) :=
  [("event_type", .text "mirror"), ("src_ip", .text e.sourceAddress), ("src_port", .nat e.sourcePort),
    ("dest_ip", .text e.destinationAddress), ("dest_port", .nat e.destinationPort), ("proto", .text e.transport)] ++
  (match e.application with
    | some a => [("app_proto", .text a)]
    | none => []) ++
  [("payload_size", .nat e.payloadSize), ("metadata", .object e.metadata), ("host", .text e.host),
    ("platform", .text Product.name)]

/-- The event as a record; a missing application is left out. -/
def toJson (e : EveEvent) : Json :=
  .object (("timestamp", .text e.timestamp) :: ("flow_id", .nat e.flowId) :: lasting e)

/-- The event as a record without the fields that depend on the moment. -/
def toUndatedJson (e : EveEvent) : Json := .object (lasting e)

end EveEvent

end AccessGateway
