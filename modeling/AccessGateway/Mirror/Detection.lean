import AccessGateway.Mirror.Delivery

/-!
# The connection to the intrusion detection

The events go over one connection, a line at a time. A write that fails ends the connection and schedules an attempt
to connect anew, unless one is under way. A line that finds no connection fails as well; no line is kept for later.
-/

namespace AccessGateway

/-- What becomes of a line that is written over a connection. -/
inductive LineOutcome where
  | written
  /-- The connection broke after some bytes. -/
  | broken (bytes : Nat)
deriving DecidableEq, Repr

/-- How far the attempt to connect anew is. -/
inductive Reconnection where
  | idle
  | waiting
  /-- The attempt was made, and no other can be scheduled before it ends. -/
  | ending
deriving DecidableEq, Repr

/-- The bytes written over each connection, the latest first, and whether the latest still stands. -/
structure DetectionSink where
  connections : List (List UInt8) := []
  connected : Bool := false
  reconnection : Reconnection := .idle
deriving DecidableEq, Repr

namespace DetectionSink

/-- Schedules an attempt to connect. -/
def schedule (s : DetectionSink) : DetectionSink :=
  if s.reconnection = .idle then { s with reconnection := .waiting } else s

/-- A new connection stands. -/
def connect (s : DetectionSink) : DetectionSink := { s with connections := [] :: s.connections, connected := true }

/-- The sink after its first attempt to connect. -/
def opened (reachable : Bool) : DetectionSink := if reachable then connect {} else schedule {}

/-- The latest connection after some bytes. -/
def append (s : DetectionSink) (bytes : List UInt8) : List (List UInt8) :=
  match s.connections with
  | c :: cs => (c ++ bytes) :: cs
  | [] => []

/-- Sends a line: whether it was written, and the sink afterwards. -/
def send (line : List UInt8) (outcome : LineOutcome) (s : DetectionSink) : Bool × DetectionSink :=
  if s.connected then
    match outcome with
    | .written => (true, { s with connections := s.append line })
    | .broken n => (false, schedule { s with connections := s.append (line.take n), connected := false })
  else (false, s.schedule)

/-- What may happen. -/
inductive Event where
  /-- A worker sends a packet. -/
  | send (o : Observation) (outcome : LineOutcome)
  /-- The scheduled attempt to connect is made. -/
  | reconnect (reachable : Bool)
  /-- The attempt ends. -/
  | endAttempt
deriving Repr

/-- One event. An attempt that is not due does not happen. -/
def step (p : MirrorPipeline) (s : DetectionSink) : Event → DetectionSink
  | .send o outcome => (s.send (p.eventLine o) outcome).2
  | .reconnect reachable =>
    if s.reconnection = .waiting then { (if reachable then s.connect else s) with reconnection := .ending } else s
  | .endAttempt => if s.reconnection = .ending then { s with reconnection := .idle } else s

/-- The sink after a sequence of events. -/
def run (p : MirrorPipeline) (s : DetectionSink) (events : List Event) : DetectionSink := events.foldl (step p) s

end DetectionSink

end AccessGateway
