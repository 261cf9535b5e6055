import AccessGateway.Preamble.Stream
import AccessGateway.Relay.Call

/-!
# Streams

A stream opens with a preamble that carries its token and names its target. If both are good the target is dialed,
the bytes that came with the preamble go first, and then the two streams are joined.
-/

namespace AccessGateway.RelayTask

/-- How a stream starts: with the bytes that come in time, or too slowly. -/
inductive Arrival where
  | inTime (bytes : ByteStream)
  | tooSlow
deriving Repr

def dialAddress (routes : RouteTable) (target : String) : String := (routes.route target).getD target

/-- The packet of a chunk that was written. -/
def chunkPacket (source target : String) : Direction × List UInt8 → MirrorPacket
  | (.up, bytes) => .stream source target bytes
  | (.down, bytes) => .stream target source bytes

/-- Joins the client with the stream that was opened, after the first bytes. An error ends the stream; what was
written until then counts. -/
def join (source target : String) (early : List UInt8) : RelayTask Transfer := do
  let first ← if early.isEmpty then pure (.ok ()) else ask (.sendFirst early)
  match first with
  | .error _ => return {}
  | .ok () =>
    if !early.isEmpty then ask (.mirror (.stream source target early))
    let d := Duplex.run (← ask .join)
    Dialogue.callAll (fun m => .mirror (chunkPacket source target m)) d.mirrored
    return ⟨early.length + d.up.written.length, d.down.written.length⟩

/-- Relays a stream from an address. -/
def stream (routes : RouteTable) (source : String) (arrival : Arrival) : RelayTask Unit := do
  match arrival with
  | .tooSlow => return
  | .inTime bytes =>
    match (Preamble.readStream [] bytes).1 with
    | .error f => ask (.audit (.stream none source "" {} (.denied f.auditReason)))
    | .ok o =>
      let target := o.preamble.target
      match ← authenticate o.preamble.token target with
      | .error e => ask (.audit (.stream e.user source target {} (.denied e.failure.auditReason)))
      | .ok user =>
        match ← ask (.connect (dialAddress routes target)) with
        | .error _ => ask (.audit (.stream (some user) source target {} .allowed))
        | .ok () =>
          let transfer ← join source target o.early
          ask (.audit (.stream (some user) source target transfer .allowed))

end AccessGateway.RelayTask
