import AccessGateway.Audit.Entry
import AccessGateway.Metrics

/-!
# The audit log

Every entry is recorded and counted by kind and verdict. Where there is a collector its line is also queued for
shipping; a full queue drops the line, so recording never waits. The shipper takes one line after the other: if the
collector cannot be connected the line is dropped, and if writing breaks off the connection is given up.
-/

namespace AccessGateway

/-- The lines on their way to the collector. -/
structure AuditQueue where
  capacity : Nat
  lines : List (List UInt8) := []
deriving DecidableEq, Repr

/-- The audit log: the entries recorded, the counters, and the queue if there is a collector. -/
structure AuditLog where
  recorded : List AccessEntry := []
  metrics : Metrics := []
  queue : Option AuditQueue := none
deriving Repr

namespace AuditLog

/-- The counter of the entries of a kind and a verdict. -/
def accessCounter (kind : Traffic) (allowed : Bool) : Counter :=
  ⟨"headend_access_total", [("kind", kind.name), ("allowed", if allowed then "true" else "false")]⟩

/-- A log that ships to a collector; its queue has room for one line at least. -/
def withCollector (queueSize : Nat) : AuditLog := { queue := some ⟨max queueSize 1, []⟩ }

/-- Puts a line into the queue if there is room. -/
def enqueue (line : List UInt8) (q : AuditQueue) : AuditQueue :=
  if q.lines.length < q.capacity then { q with lines := q.lines ++ [line] } else q

def record (moment : Instant) (e : AccessEntry) (l : AuditLog) : AuditLog where
  recorded := l.recorded ++ [e]
  metrics := l.metrics.add (accessCounter e.kind e.isAllowed) 1
  queue := l.queue.map (enqueue (e.line moment))

end AuditLog

/-- What becomes of a line that the shipper takes. -/
inductive ShipOutcome where
  /-- There was no connection and none could be made. -/
  | unreachable
  /-- The line was written, over a new connection if there was none. -/
  | written
  /-- The connection broke after some bytes. -/
  | broken (bytes : Nat)
deriving DecidableEq, Repr

/-- The shipper: the bytes written over each connection, the latest first, and whether the latest still stands. -/
structure AuditShipper where
  connections : List (List UInt8) := []
  connected : Bool := false
deriving DecidableEq, Repr

namespace AuditShipper

/-- The latest connection after some bytes; a connection is made if there is none. -/
def write (s : AuditShipper) (bytes : List UInt8) : List (List UInt8) :=
  match s.connected, s.connections with
  | true, c :: cs => (c ++ bytes) :: cs
  | _, cs => bytes :: cs

/-- Ships one line. A connection that stands is used without connecting anew. -/
def ship (line : List UInt8) (outcome : ShipOutcome) (s : AuditShipper) : AuditShipper :=
  let framed := line ++ [10]
  match outcome with
  | .unreachable => s
  | .written => ⟨s.write framed, true⟩
  | .broken n => ⟨s.write (framed.take n), false⟩

end AuditShipper

/-- The log together with its shipper. -/
structure AuditFeed where
  log : AuditLog
  shipper : AuditShipper := {}
deriving Repr

namespace AuditFeed

/-- What may happen to the feed. -/
inductive Event where
  | record (moment : Instant) (e : AccessEntry)
  /-- The shipper takes the first line of the queue. -/
  | ship (outcome : ShipOutcome)
deriving DecidableEq, Repr

/-- One event. A shipper without a line to take does nothing, and one with a connection does not fail to connect. -/
def step (f : AuditFeed) : Event → AuditFeed
  | .record moment e => { f with log := f.log.record moment e }
  | .ship outcome =>
    match f.log.queue with
    | some ⟨capacity, line :: rest⟩ =>
      if outcome = .unreachable ∧ f.shipper.connected then f
      else ⟨{ f.log with queue := some ⟨capacity, rest⟩ }, f.shipper.ship line outcome⟩
    | _ => f

/-- The feed after a sequence of events. -/
def run (f : AuditFeed) (events : List Event) : AuditFeed := events.foldl step f

end AuditFeed

end AccessGateway
