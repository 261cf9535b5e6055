import AccessGateway.Relay.Call

/-!
# Web requests

A request of an authenticated user goes to the target its header names, if the user may reach it. The answer is
passed through as it comes; when its body is finished or dropped, its beginning is mirrored and the request is
logged.
-/

namespace AccessGateway.RelayTask

/-- The response that tells a client of a failure. -/
def failureResponse (f : Failure) : WebResponse := .error f.status f.message

/-- What the log says of a request. -/
def summary (r : WebRequest) (status : Nat) : HttpSummary := ⟨r.method, r.target.path, status⟩

/-- Sends a request to a target. -/
def send (c : ServerConfig) (routes : RouteTable) (host : String) (r : WebRequest) :
    RelayTask (Except Failure TargetAnswer) := do
  match ← ask (.client host (Forwarding.pin routes host)) with
  | .error f => return .error f
  | .ok client =>
    match Forwarding.request? c host r with
    | none => return .error (.internal "request body: length limit exceeded")
    | some q =>
      match ← ask (.request client q) with
      | .error e => return .error (.targetUnavailable host e.message)
      | .ok a => return .ok a

/-- The chunks of an answer that are offered to the client: none if it asked for the head alone. -/
def offered (r : WebRequest) (a : TargetAnswer) : List BodyChunk := if r.method = "HEAD" then [] else a.chunks

/-- Gives an answer to the client and records it once its body is finished or dropped. -/
def passOn (c : ServerConfig) (user : User) (host : String) (r : WebRequest) (a : TargetAnswer) :
    RelayTask WebResponse := do
  let headers := Forwarding.responseHeaders a.headers
  let taken ← ask (.respond ⟨a.status, headers, .passed (offered r a)⟩)
  let chunks := (offered r a).take taken
  let line := s!"{r.method} {r.target.path} {host}"
  ask (.mirror (.exchange r.source host line a.status (Forwarding.captured c.mirrorBodyLimit chunks)))
  ask (.audit (.request (some user) r.source host (summary r a.status) .allowed))
  return ⟨a.status, headers, .passed chunks⟩

def forward (c : ServerConfig) (routes : RouteTable) (user : User) (r : WebRequest) : RelayTask WebResponse := do
  let log (target : String) (f : Failure) (v : Verdict) : RelayTask WebResponse := do
    ask (.audit (.request (some user) r.source target (summary r f.status) v))
    return failureResponse f
  match targetHost r.headers with
  | .error f =>
    match f with
    | .invalidTarget raw => log raw f (.denied f.auditReason)
    | f => return failureResponse f
  | .ok host =>
    match ← authorize user host with
    | .error f => log host f (.denied f.auditReason)
    | .ok () =>
      match ← send c routes host r with
      | .error f => log host f .allowed
      | .ok a => passOn c user host r a

end AccessGateway.RelayTask
