import AccessGateway.Config.Basic
import AccessGateway.Failure
import AccessGateway.Http.ClientCache
import AccessGateway.Http.Message
import AccessGateway.Http.Target
import AccessGateway.Route

/-!
# Forwarded requests

What of a request goes on to its target, and what of the answer comes back. Fields that concern one hop go no
further, credentials and the name of the target stay here, and every answer carries the security fields of the
gateway in place of any others.
-/

namespace AccessGateway

/-- The request that goes to a target. -/
structure TargetRequest where
  method : String
  address : String
  headers : Headers
  body : List UInt8
deriving DecidableEq, Repr

/-- The answer of a target: its head, and its body as it comes. -/
structure TargetAnswer where
  status : Nat
  headers : Headers
  chunks : List BodyChunk
deriving DecidableEq, Repr

namespace Forwarding

/-- Fields that describe one hop. -/
def hopByHop : List String :=
  ["connection", "keep-alive", "proxy-authenticate", "proxy-authorization", "te", "trailer", "transfer-encoding",
    "upgrade"]

/-- Fields of a request that are not forwarded. -/
def keptBack : List String := hopByHop ++ ["host", "authorization", "content-length", targetHeader]

/-- The security fields of every forwarded answer. -/
def securityFields : Headers :=
  [.ofText "x-frame-options" "DENY", .ofText "x-content-type-options" "nosniff",
    .ofText "x-xss-protection" "1; mode=block"]

/-- The fields that go to the target. -/
def requestHeaders (hs : Headers) : Headers := hs.without keptBack

/-- The fields that come back from the target. -/
def responseHeaders (hs : Headers) : Headers :=
  securityFields.foldl Headers.replace (hs.without (hopByHop ++ ["content-length"]))

/-- The address asked for: the target behind the scheme, then path and query. -/
def address (scheme host : String) (t : RequestTarget) : String := s!"{scheme}://{host}{t.forwarded}"

/-- The address a client for a target is pinned to: that of its peer, if it is a numeric one. -/
def pin (routes : RouteTable) (host : String) : Option SocketAddress := (routes.route host).bind SocketAddress.read?

/-- The request that goes to a target; none if its body is too long. -/
def request? (c : ServerConfig) (host : String) (r : WebRequest) : Option TargetRequest :=
  if c.maxBodySize < r.body.length then none
  else some ⟨r.method, address c.targetScheme host r.target, requestHeaders r.headers, r.body⟩

/-- The first bytes of chunks, up to a limit. -/
def captured (limit : Nat) (chunks : List BodyChunk) : List UInt8 :=
  chunks.foldl (fun kept c => kept ++ c.bytes.take (limit - kept.length)) []

end Forwarding

end AccessGateway
