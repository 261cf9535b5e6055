import AccessGateway.Config.Basic
import AccessGateway.Json.Writer
import AccessGateway.Metrics
import AccessGateway.Mirror.Event

/-!
# Delivery of mirrored packets

A packet goes to every collector as a frame and then to the intrusion detection as an event on a line of its own. A
write that fails is counted and not repeated. The counters are kept twice, as numbers and as metrics; like these the
numbers have no upper bound, where the program has 64 bits that wrap around.
-/

namespace AccessGateway

/-- A packet with the moment it was observed. -/
structure Observation where
  moment : Instant
  packet : MirrorPacket
deriving Repr, BEq

/-- What the mirror counts. -/
structure MirrorStats where
  sent : Nat := 0
  dropped : Nat := 0
  bytes : Nat := 0
  errors : Nat := 0
deriving DecidableEq, Repr, Inhabited

/-- The counters as a record. -/
def MirrorStats.toJson (s : MirrorStats) : Json :=
  .object [("packets_sent", .nat s.sent), ("packets_dropped", .nat s.dropped), ("bytes_sent", .nat s.bytes),
    ("errors", .nat s.errors)]

/-- The counters and the metrics that go with them. -/
structure MirrorTally where
  stats : MirrorStats := {}
  metrics : Metrics := []
deriving Repr

namespace MirrorTally

/-- Frames written to collectors. -/
def sentCounter : Counter := ⟨"headend_mirror_packets_sent_total", []⟩

/-- Bytes written to collectors. -/
def bytesCounter : Counter := ⟨"headend_mirror_bytes_sent_total", []⟩

/-- Packets dropped before delivery. -/
def droppedCounter : Counter := ⟨"headend_mirror_packets_dropped_total", []⟩

/-- Writes that failed. -/
def errorCounter : Counter := ⟨"headend_mirror_errors_total", []⟩

/-- Counts a frame of some bytes. -/
def addSent (n : Nat) (t : MirrorTally) : MirrorTally where
  stats := { t.stats with sent := t.stats.sent + 1, bytes := t.stats.bytes + n }
  metrics := (t.metrics.add sentCounter 1).add bytesCounter n

/-- Counts a dropped packet. -/
def addDropped (t : MirrorTally) : MirrorTally where
  stats := { t.stats with dropped := t.stats.dropped + 1 }
  metrics := t.metrics.add droppedCounter 1

/-- Counts a failed write. -/
def addError (t : MirrorTally) : MirrorTally where
  stats := { t.stats with errors := t.stats.errors + 1 }
  metrics := t.metrics.add errorCounter 1

end MirrorTally

/-- Where packets are written to. -/
inductive Sink where
  | collector (address : String)
  | detection (address : String)
deriving DecidableEq, Repr

/-- How packets are written, and where to. -/
structure MirrorPipeline where
  encapsulation : Encapsulation
  collectors : List String
  detection : Option String
  gatewayId : String
deriving DecidableEq, Repr

namespace MirrorPipeline

def ofConfig (c : MirrorConfig) (gatewayId : String) : MirrorPipeline :=
  ⟨c.encapsulation, c.destinations, c.idsAddress?, gatewayId⟩

/-- The port of a collector that names none. -/
def defaultCollectorPort : Nat := 4789

/-- The address of a collector with its port. -/
def collectorEndpoint (address : String) : String :=
  if (splitHostPort? address.toList).isSome then address else s!"{address}:{defaultCollectorPort}"

/-- The sinks in the order in which a packet is written to them. -/
def sinks (p : MirrorPipeline) : List Sink := p.collectors.map .collector ++ p.detection.toList.map .detection

/-- The frame for the collectors; the present in seconds stands in some headers. -/
def frame (p : MirrorPipeline) (present : UInt64) (o : Observation) : List UInt8 :=
  p.encapsulation.encapsulate o.packet.payload present

/-- The line for the intrusion detection. -/
def eventLine (p : MirrorPipeline) (o : Observation) : List UInt8 :=
  Text.bytes (EveEvent.ofPacket o.packet o.moment p.gatewayId).toJson.render ++ [10]

/-- What is written to a sink. -/
def bytesFor (p : MirrorPipeline) (present : UInt64) (o : Observation) : Sink → List UInt8
  | .collector _ => p.frame present o
  | .detection _ => p.eventLine o

/-- Counts the outcome of a write: the number of bytes written, or none for a failure. -/
def count (sink : Sink) (written : Option Nat) (t : MirrorTally) : MirrorTally :=
  match sink, written with
  | .collector _, some n => t.addSent n
  | .detection _, some _ => t
  | _, none => t.addError

/-- Writes a packet to every sink in turn; `write` gives the outcome of a write. -/
def deliver {σ : Type} (p : MirrorPipeline) (present : UInt64) (write : Sink → List UInt8 → σ → Option Nat × σ)
    (o : Observation) (t : MirrorTally) (s : σ) : MirrorTally × σ :=
  p.sinks.foldl (fun (t, s) sink =>
    let (written, s) := write sink (p.bytesFor present o sink) s
    (count sink written t, s)) (t, s)

end MirrorPipeline

end AccessGateway
