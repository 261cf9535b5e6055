import AccessGateway.Text.Blank
import AccessGateway.Text.Numeral
import AccessGateway.Text.Split

/-!
# Port ranges

An expression is a comma-separated list of pieces, each a port (`8080`) or an inclusive range (`9000-9010`).
Blanks around pieces and around the hyphen are ignored and blank pieces are skipped, so the empty expression has
no range. Key facts: a range holds valid ports in order by construction, and an expression with a fault is
refused for the leftmost one.
-/

namespace AccessGateway

/-- The transport a port belongs to. -/
inductive Transport where
  | tcp
  | udp
deriving DecidableEq, Repr, Inhabited

/-- The lower-case name of a transport. -/
def Transport.name : Transport → String
  | .tcp => "tcp"
  | .udp => "udp"

/-- Why a port configuration is refused. -/
inductive PortError where
  /-- A piece is neither a port nor a range of two ports. -/
  | malformed (transport : Transport) (piece : String)
  /-- A port is not between 1 and 65535; the value is capped at 2^64 - 1. -/
  | outOfRange (transport : Transport) (value : Nat)
  /-- A range ends before it starts. -/
  | reversed (transport : Transport) (first last : Nat)
  /-- A port of one transport occurs twice. -/
  | duplicate (transport : Transport) (port : Nat)
deriving DecidableEq, Repr

/-- The wording of a refusal. -/
def PortError.message : PortError → String
  | .malformed t piece => s!"invalid {t.name} port range token '{piece}'"
  | .outOfRange t value => s!"{t.name} port {value} out of range (1-65535)"
  | .reversed t first last => s!"{t.name} port range {first}-{last} is reversed"
  | .duplicate t port => s!"duplicate {t.name} port {port}"

/-- An inclusive range of ports of one transport. -/
structure PortRange where
  transport : Transport
  first : Nat
  last : Nat
  one_le_first : 1 ≤ first
  first_le_last : first ≤ last
  last_le : last ≤ 65535
deriving DecidableEq, Repr

namespace PortRange

def size (r : PortRange) : Nat := r.last - r.first + 1

/-- The ports of the range in ascending order. -/
def ports (r : PortRange) : List Nat := List.range' r.first r.size

/-- A single port as one numeral, any other range as two joined by a hyphen. -/
def render (r : PortRange) : List Char :=
  if r.first = r.last then Text.digits r.first else Text.digits r.first ++ '-' :: Text.digits r.last

@[simp] theorem length_ports (r : PortRange) : r.ports.length = r.size := by
  simp [ports]

@[simp] theorem mem_ports {r : PortRange} {p : Nat} : p ∈ r.ports ↔ r.first ≤ p ∧ p ≤ r.last := by
  have := r.first_le_last
  simp only [ports, size, List.mem_range'_1]
  omega

theorem nodup_ports (r : PortRange) : r.ports.Nodup := List.nodup_range'

end PortRange

/-- A number between 1 and 65535. -/
abbrev PortNumber := { n : Nat // 1 ≤ n ∧ n ≤ 65535 }

/-- Reads one numeral of a piece as a port. -/
def readPort (t : Transport) (piece numeral : List Char) : Except PortError PortNumber :=
  match Text.natural? numeral with
  | none => .error (.malformed t (String.ofList piece))
  | some n =>
    if h : 1 ≤ n ∧ n ≤ 65535 then .ok ⟨n, h⟩ else .error (.outOfRange t (min n (UInt64.size - 1)))

/-- Reads a trimmed piece as a range; the numerals around the first hyphen are read from the left. -/
def readPiece (t : Transport) (piece : List Char) : Except PortError PortRange := do
  let (a, b) ← match Text.splitFirst? '-' piece with
    | some (a, b) =>
      let a ← readPort t piece (Text.trim a)
      let b ← readPort t piece (Text.trim b)
      pure (a, b)
    | none =>
      let a ← readPort t piece piece
      pure (a, a)
  if h : a.1 ≤ b.1 then return ⟨t, a.1, b.1, a.2.1, h, b.2.2⟩ else throw (.reversed t a.1 b.1)

/-- The trimmed pieces between commas that are not blank. -/
def rangePieces (expr : List Char) : List (List Char) :=
  ((expr.splitOn ',').map Text.trim).filter (· ≠ [])

def readRanges (t : Transport) (expr : List Char) : Except PortError (List PortRange) :=
  (rangePieces expr).mapM (readPiece t)

/-- Ranges as an expression, with commas and no blanks. -/
def renderRanges (rs : List PortRange) : List Char :=
  List.intercalate [','] (rs.map PortRange.render)

end AccessGateway
