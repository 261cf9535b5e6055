import AccessGateway.Relay.Stream

/-!
# Datagrams

A datagram carries a whole preamble and a payload. If token and target are good the payload is sent to the target
from a socket of its own, and the first datagram that comes back in time goes to the client.
-/

namespace AccessGateway.RelayTask

/-- Sends a payload and passes one answer back. After a failure nothing counts as transferred. -/
def exchange (routes : RouteTable) (source target : String) (payload : List UInt8) : RelayTask Transfer := do
  match ← ask (.lookup (dialAddress routes target)) with
  | .error _ | .ok none => return {}
  | .ok (some remote) =>
    match ← ask (.openSocket remote) with
    | .error _ => return {}
    | .ok () =>
      match ← ask (.send payload) with
      | .error _ => return {}
      | .ok () =>
        ask (.mirror (.datagram source target payload))
        match ← ask .receive with
        | .failed _ => return {}
        | .timedOut => return ⟨payload.length, 0⟩
        | .datagram answer =>
          match ← ask (.reply answer) with
          | .error _ => return {}
          | .ok () =>
            ask (.mirror (.datagram target source answer))
            return ⟨payload.length, answer.length⟩

/-- Relays a datagram from an address. -/
def datagram (routes : RouteTable) (source : String) (bytes : List UInt8) : RelayTask Unit := do
  match Preamble.readComplete bytes with
  | .error e => ask (.audit (.datagram none source "" {} (.denied (Failure.framing e).auditReason)))
  | .ok p =>
    match ← authenticate p.token p.target with
    | .error e => ask (.audit (.datagram e.user source p.target {} (.denied e.failure.auditReason)))
    | .ok user =>
      let transfer ← exchange routes source p.target (bytes.drop p.headerLength)
      ask (.audit (.datagram (some user) source p.target transfer .allowed))

end AccessGateway.RelayTask
