import AccessGateway.Audit.Entry
import AccessGateway.Dialogue
import AccessGateway.Mirror.Packet
import AccessGateway.Relay.Duplex
import AccessGateway.Relay.Forwarding

/-!
# Calls of the relay

Everything a unit of traffic asks of its surroundings: verdicts on tokens and targets, the connections to targets and
what goes over them, and the records kept of it. The records are calls without an answer, so nothing that a unit does
can depend on them.
-/

namespace AccessGateway

inductive RelayCall where
  /-- A verdict on a token. -/
  | validate (token : String)
  /-- A decision whether a user may reach a target. -/
  | decide (user : User) (target : String)
  /-- An entry for the audit log. -/
  | audit (entry : AccessEntry)
  /-- A packet for the mirror. -/
  | mirror (packet : MirrorPacket)
  /-- The client for a target. -/
  | client (host : String) (pin : Option SocketAddress)
  /-- A request sent to a target with a client. -/
  | request (client : TargetClient) (r : TargetRequest)
  /-- A response given to the client, its body offered chunk by chunk. -/
  | respond (r : WebResponse)
  /-- A stream opened to an address. -/
  | connect (address : String)
  /-- The first bytes written to the stream that was opened. -/
  | sendFirst (bytes : List UInt8)
  /-- The streams of client and target joined until both have ended. -/
  | join
  /-- The first numeric address of a name. -/
  | lookup (address : String)
  /-- A datagram socket opened and connected to an address. -/
  | openSocket (remote : SocketAddress)
  /-- A datagram sent to the address connected to. -/
  | send (payload : List UInt8)
  /-- The first datagram that comes back in time. -/
  | receive
  /-- A datagram sent back to the client. -/
  | reply (payload : List UInt8)

/-- What becomes of waiting for a datagram. -/
inductive Receipt where
  | datagram (payload : List UInt8)
  | failed (e : SystemError)
  | timedOut
deriving DecidableEq, Repr

abbrev RelayCall.Answer : RelayCall → Type
  | .validate _ => Except TokenError User
  | .decide _ _ => Bool
  | .audit _ => Unit
  | .mirror _ => Unit
  | .client _ _ => Except Failure TargetClient
  | .request _ _ => Except FetchError TargetAnswer
  -- The number of chunks the client took before the body was finished or dropped.
  | .respond _ => Nat
  | .connect _ => Except String Unit
  | .sendFirst _ => Except SystemError Unit
  | .join => List DuplexEvent
  | .lookup _ => Except SystemError (Option SocketAddress)
  | .openSocket _ => Except SystemError Unit
  | .send _ => Except SystemError Unit
  | .receive => Receipt
  | .reply _ => Except SystemError Unit

/-- A unit of traffic as it goes through the gateway. -/
abbrev RelayTask (α : Type) := Dialogue RelayCall RelayCall.Answer α

namespace RelayTask

/-- Makes a call. -/
def ask (c : RelayCall) : RelayTask c.Answer := Dialogue.call c

/-- Why a unit of traffic is turned away, and the user if there is one. -/
structure Refusal where
  user : Option User
  failure : Failure

/-- Whether a user may reach a target. -/
def authorize (user : User) (target : String) : RelayTask (Except Failure Unit) := do
  let allowed ← ask (.decide user target)
  return if allowed then .ok () else .error (.authorization user.id target)

/-- The user of a token, if the token is good and the user may reach the target. -/
def authenticate (token target : String) : RelayTask (Except Refusal User) := do
  match ← ask (.validate token) with
  | .error e => return .error ⟨none, .authentication e⟩
  | .ok user =>
    match ← authorize user target with
    | .error f => return .error ⟨some user, f⟩
    | .ok () => return .ok user

end RelayTask

end AccessGateway
