import AccessGateway.Config.Basic
import AccessGateway.Http.Exchange
import AccessGateway.Json.Reader
import AccessGateway.Port.Set

/-!
# Announced ports

The backend announces which ports a gateway is to listen on. An announcement is taken only if it is meant for this
gateway, is not blank, and holds up to the checks of every port set. An expression of commas is not blank, but it names
no port.
-/

namespace AccessGateway

/-- What the backend announces. The entries of `detail` describe single ports and have no effect. -/
structure PortAnnouncement where
  gatewayId : Option String
  tcpRanges : String
  udpRanges : String
  detail : List Json

namespace PortAnnouncement

/-- The value of a field that may be missing. -/
private def orMissing {α : Type} (missing : α) (read : Json → Option α) : Option Json → Option α
  | none => some missing
  | some j => read j

/-- An addressee: a text or null. -/
private def addressee? : Json → Option (Option String)
  | .null => some none
  | .text s => some (some s)
  | _ => none

/-- The entries of a list that are fit to be kept; they are two levels deep already. -/
private def details? : Json → Option (List Json)
  | .list xs => if (Json.list [.list xs]).isKept then some xs else none
  | _ => none

/-- An announcement from the values of its four fields. -/
private def ofValues? (gatewayId tcp udp detail : Option Json) : Option PortAnnouncement := do
  return {
    gatewayId := ← orMissing none addressee? gatewayId
    tcpRanges := ← orMissing "" Json.text? tcp
    udpRanges := ← orMissing "" Json.text? udp
    detail := ← orMissing [] details? detail }

/-- Reads an announcement from a record that gives no field twice, or from a list of its fields in order. -/
def ofJson? : Json → Option PortAnnouncement
  | .object ms =>
    let value (name : String) : Option Json := (ms.find? (·.1 == name)).map (·.2)
    if ["gateway_id", "tcp_ranges", "udp_ranges", "detail"].all fun name => (ms.filter (·.1 == name)).length ≤ 1 then
      ofValues? (value "gateway_id") (value "tcp_ranges") (value "udp_ranges") (value "detail")
    else none
  | .list xs => if xs.length ≤ 4 then ofValues? xs[0]? xs[1]? xs[2]? xs[3]? else none
  | _ => none

/-- The port set that an announcement gives to the gateway of an id. -/
def accept (gatewayId : String) (a : PortAnnouncement) : Except Failure PortSet :=
  match a.gatewayId.filter fun id => !id.isEmpty && id ≠ gatewayId with
  | some other => .error (.config s!"port config addressed to gateway '{other}', this is '{gatewayId}'")
  | none =>
    if (Text.trimmed a.tcpRanges).isEmpty && (Text.trimmed a.udpRanges).isEmpty then
      .error (.config "port config has no ranges")
    else (PortSet.readChecked a.tcpRanges a.udpRanges).mapError .portRange

end PortAnnouncement

/-- Where announcements are asked for, for whom, and how often. -/
structure PortSource where
  address : String
  gatewayId : String
  clusterId : String
  interval : Duration
deriving DecidableEq, Repr

namespace PortSource

/-- The source of a configuration; it is asked once a second at most. -/
def ofConfig (c : DynamicPortsConfig) : Except Failure PortSource :=
  let base := withoutTrailingSlashes c.backendUrl
  if base.isEmpty then .error (.config "dynamic_ports.backend_url is required")
  else .ok ⟨s!"{base}/port-config", c.gatewayId, c.clusterId, ⟨max c.refreshInterval.millis 1000⟩⟩

/-- The normalised address that is asked, with gateway and cluster as form fields, or why there is none. -/
def requestUrl (p : PortSource) : Except FetchError String :=
  match Url.read? p.address with
  | none => .error (.builder none)
  | some u =>
    let u := (u.addField "gateway_id" p.gatewayId).addField "cluster_id" p.clusterId
    if u.isWeb then .ok u.write else .error (.builder (some u.write))

/-- The port set that follows from an exchange with the backend. -/
def received (p : PortSource) (address : String) (e : Exchange) : Except Failure PortSet :=
  match e.body address with
  | .error f => .error (.http f)
  | .ok body =>
    match ((Text.text? body).bind Json.read?).bind PortAnnouncement.ofJson? with
    | none => .error (.http .decode)
    | some a => a.accept p.gatewayId

/-- Asks the backend. -/
def fetch {σ : Type} (p : PortSource) (backend : String → σ → Exchange × σ) (s : σ) : Except Failure PortSet × σ :=
  match p.requestUrl with
  | .error f => (.error (.http f), s)
  | .ok url => (backend url s).map (p.received url) id

end PortSource

end AccessGateway
