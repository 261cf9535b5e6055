import AccessGateway.Json.Basic
import AccessGateway.Text.Utf8

/-!
# Mirrored packets

The gateway relays HTTP requests, byte streams and datagrams. A packet is one observed unit of such traffic: a chunk
of a stream, a datagram, or the beginning of an HTTP answer under its request line and status.
-/

namespace AccessGateway

/-- A kind of traffic. -/
inductive Traffic where
  | http
  | tcp
  | udp
deriving DecidableEq, Repr, Inhabited

/-- The lower-case name of a kind of traffic. -/
def Traffic.name : Traffic → String
  | .http => "http"
  | .tcp => "tcp"
  | .udp => "udp"

structure MirrorPacket where
  traffic : Traffic
  source : String
  destination : String
  payload : List UInt8
  metadata : List (String × Json)
deriving Repr, BEq

namespace MirrorPacket

/-- A chunk of a stream. -/
def stream (source destination : String) (data : List UInt8) : MirrorPacket :=
  ⟨.tcp, source, destination, data, []⟩

def datagram (source destination : String) (data : List UInt8) : MirrorPacket :=
  ⟨.udp, source, destination, data, []⟩

/-- An HTTP answer: the request line, the status, an empty line, and as much of the body as is mirrored. -/
def exchange (source target summary : String) (status : Nat) (body : List UInt8) : MirrorPacket :=
  ⟨.http, source, target, Text.bytes s!"{summary} {status}\r\n\r\n" ++ body,
    [("http_status", .nat status), ("summary", .text summary)]⟩

end MirrorPacket

end AccessGateway
