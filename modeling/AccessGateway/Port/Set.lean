import AccessGateway.Json.Basic
import AccessGateway.Port.Range

/-!
# Port sets

The ranges of both transports. Key facts: expansion, counting and the search for a repeated port look at the same
list of ports, and the search reports the first port in expansion order that occurred before.
-/

namespace AccessGateway

abbrev Endpoint := Transport × Nat

/-- The configured ranges of both transports. -/
structure PortSet where
  tcp : List PortRange
  udp : List PortRange
deriving DecidableEq, Repr

namespace PortSet

/-- No range at all. -/
def empty : PortSet := ⟨[], []⟩

/-- All ranges, stream ports first. -/
def ranges (s : PortSet) : List PortRange := s.tcp ++ s.udp

/-- Reads the expressions of both transports; repeated ports are not looked for. -/
def read (tcp udp : String) : Except PortError PortSet := do
  let t ← readRanges .tcp tcp.toList
  let u ← readRanges .udp udp.toList
  return ⟨t, u⟩

/-- Every port, in the order of the ranges. -/
def expand (s : PortSet) : List Endpoint :=
  s.ranges.flatMap fun r => r.ports.map (r.transport, ·)

/-- The number of ports, each range counted for itself. -/
def count (s : PortSet) : Nat := (s.ranges.map PortRange.size).foldr (· + ·) 0

/-- Neither transport has a range. -/
def isEmpty (s : PortSet) : Bool := s.tcp.isEmpty && s.udp.isEmpty

/-- The least port of `r` that some earlier range of its transport also covers. -/
def firstShared (earlier : List PortRange) (r : PortRange) : Option Nat :=
  (earlier.filterMap fun e =>
    if e.transport = r.transport ∧ e.first ≤ r.last ∧ r.first ≤ e.last then some (max e.first r.first)
    else none).min?

/-- The first port, in expansion order, that an earlier range already covers. -/
def duplicateAmong (earlier : List PortRange) : List PortRange → Option Endpoint
  | [] => none
  | r :: rs =>
    match firstShared earlier r with
    | some p => some (r.transport, p)
    | none => duplicateAmong (r :: earlier) rs

/-- Refuses a set in which a port of one transport occurs twice. -/
def check (s : PortSet) : Except PortError Unit :=
  match duplicateAmong [] s.ranges with
  | some (t, p) => .error (.duplicate t p)
  | none => .ok ()

/-- Reads and checks in one step. -/
def readChecked (tcp udp : String) : Except PortError PortSet := do
  let s ← read tcp udp
  s.check
  return s

/-- The stream ranges as an expression. -/
def tcpExpression (s : PortSet) : String := String.ofList (renderRanges s.tcp)

/-- The datagram ranges as an expression. -/
def udpExpression (s : PortSet) : String := String.ofList (renderRanges s.udp)

/-- A range as a record. -/
def rangeJson (r : PortRange) : Json :=
  .object [("start", .nat r.first), ("end", .nat r.last), ("protocol", .text r.transport.name)]

/-- The set as a record of two lists. -/
def toJson (s : PortSet) : Json :=
  .object [("tcp", .list (s.tcp.map rangeJson)), ("udp", .list (s.udp.map rangeJson))]

end PortSet

end AccessGateway
