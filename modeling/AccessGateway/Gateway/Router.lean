import AccessGateway.Mirror.Engine
import AccessGateway.Relay.Web

/-!
# The router

A few pages of the gateway itself are open to everybody; every other request needs a good token and is forwarded. So
a request on an open path is never forwarded, and no other request is forwarded without a user. Every response
carries the id of its request.
-/

namespace AccessGateway

/-- What the router needs to know of the configuration. -/
structure Site where
  server : ServerConfig := {}
  routes : RouteTable := ⟨[]⟩
  mode : AuthMode := .jwt
  backendUrl : String := ""
  firewallEnabled : Bool := false
  metricsToken : Option String := none

/-- The mirror as the health page shows it. -/
structure MirrorStatus where
  isRunning : Bool
  encapsulation : Encapsulation
  stats : MirrorStats

/-- A set of listeners as the health page shows it. -/
structure PortStatus where
  listeners : Nat
  configured : Nat

/-- What the pages show of the running gateway at the moment of a request. -/
structure GatewayStatus where
  mirror : Option MirrorStatus := none
  staticPorts : Option PortStatus := none
  dynamicPorts : Option PortStatus := none
  clients : Nat := 0
  /-- The text of the metrics, if they are collected. -/
  exposition : Option String := none

namespace Site

/-- The paths open to everybody. -/
def openPaths : List String := ["/health", "/metrics", "/auth/login", "/auth/logout"]

/-- The record on the health page, its members in alphabetical order. -/
def health (site : Site) (s : GatewayStatus) : Json :=
  let orNull {α : Type} (f : α → Json) (a : Option α) : Json := (a.map f).getD .null
  let ports (p : PortStatus) : Json := .object [("configured", .nat p.configured), ("listeners", .nat p.listeners)]
  let mirror (m : MirrorStatus) : Json :=
    .object [("protocol", .text m.encapsulation.tag), ("running", .bool m.isRunning),
      ("stats", .object [("bytes_sent", .nat m.stats.bytes), ("errors", .nat m.stats.errors),
        ("packets_dropped", .nat m.stats.dropped), ("packets_sent", .nat m.stats.sent)])]
  .object [
    ("components", .object [("auth", .text site.mode.name), ("dynamic_ports", orNull ports s.dynamicPorts),
      ("firewall", .bool site.firewallEnabled), ("mirror", orNull mirror s.mirror),
      ("static_ports", orNull ports s.staticPorts), ("upstream_clients", .nat s.clients)]),
    ("status", .text "healthy"), ("version", .text Product.version)]

/-- The metrics page: there is none without a token to guard it. -/
def metricsPage (site : Site) (s : GatewayStatus) (hs : Headers) : WebResponse :=
  match site.metricsToken with
  | none => .empty 404 []
  | some expected =>
    if bearerToken hs = some expected then
      match s.exposition with
      | some text => .text 200 "text/plain; version=0.0.4" text
      | none => .empty 404 []
    else .empty 401 [.ofText "www-authenticate" "Bearer"]

/-- A redirection to an address of the identity service; without one there is no such page. -/
def redirection : Option String → WebResponse
  | none => .error 404 "interactive login is not available in this auth mode"
  | some url =>
    if (Text.bytes url).all HeaderField.isValueByte then .empty 307 [.ofText "location" url]
    else .text 500 "text/plain; charset=utf-8" "failed to parse header value"

/-- The login page; the address to return to may be given once. -/
def loginPage (site : Site) (t : RequestTarget) : WebResponse :=
  match (Url.formFields (t.query?.getD "")).filter (·.1 == "return_to") with
  | [] => redirection (loginUrl site.mode site.backendUrl none)
  | [(_, returnTo)] => redirection (loginUrl site.mode site.backendUrl (some returnTo))
  | _ =>
    .text 400 "text/plain; charset=utf-8" "Failed to deserialize query string: duplicate field \x60return_to\x60"

/-- An open page. -/
def page (site : Site) (s : GatewayStatus) (r : WebRequest) : WebResponse :=
  if r.method ≠ "GET" && r.method ≠ "HEAD" then .empty 405 [.ofText "allow" "GET,HEAD"]
  else if r.target.path = "/health" then .json 200 (site.health s)
  else if r.target.path = "/metrics" then site.metricsPage s r.headers
  else if r.target.path = "/auth/login" then site.loginPage r.target
  else redirection (logoutUrl site.mode site.backendUrl)

def userOf (r : WebRequest) : RelayTask (Except TokenError User) :=
  match bearerToken r.headers with
  | some token => RelayTask.ask (.validate token)
  | none => return .error .missing

/-- The response to a request on a path that is not open. -/
def guarded (site : Site) (r : WebRequest) : RelayTask WebResponse := do
  match ← userOf r with
  | .ok user => RelayTask.forward site.server site.routes user r
  | .error e =>
    let f := Failure.authentication e
    let target := (targetHost r.headers).toOption.getD ""
    RelayTask.ask (.audit (.request none r.source target (RelayTask.summary r 401) (.denied f.auditReason)))
    return (RelayTask.failureResponse f).withHeader (.ofText "www-authenticate" "Bearer")

/-- The header that carries the id of a request. -/
def idHeader : String := "x-request-id"

/-- The request with an id, which is the given one unless the client has sent its own. -/
def identified (freshId : String) (r : WebRequest) : WebRequest :=
  if (r.headers.first? idHeader).isSome then r
  else { r with headers := r.headers ++ [.ofText idHeader freshId] }

/-- The response with the id of its request, unless it has one. -/
def tagged (r : WebRequest) (w : WebResponse) : WebResponse :=
  match w.headers.first? idHeader, r.headers.first? idHeader with
  | none, some id => w.withHeader id
  | _, _ => w

def respond (site : Site) (s : GatewayStatus) (freshId : String) (r : WebRequest) : RelayTask WebResponse := do
  let r := identified freshId r
  let w ← if openPaths.contains r.target.path then pure (page site s r) else guarded site r
  return tagged r (w.sized (r.method = "HEAD"))

end Site

end AccessGateway
