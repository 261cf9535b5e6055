import AccessGateway.Url.Host

/-!
# Socket addresses

Numeric addresses in their strict spelling: four decimal bytes without leading zeros, or the groups of an IPv6
address, in brackets when a port follows.
-/

namespace AccessGateway

/-- A numeric address. -/
inductive IpAddress where
  | v4 (address : Nat)
  | v6 (groups : List Nat)
deriving DecidableEq, Repr

/-- A numeric address with a port; an IPv6 address may carry a scope. -/
structure SocketAddress where
  ip : IpAddress
  port : Nat
  scope : Nat := 0
deriving DecidableEq, Repr

namespace IpAddress

/-- A byte in decimal without leading zeros. -/
def byte? (cs : List Char) : Option Nat :=
  if 1 < cs.length && cs.head? == some '0' then none else (Text.natural? cs).filter (· ≤ 255)

/-- Reads four decimal bytes. -/
def readV4? (cs : List Char) : Option Nat := do
  match ← (cs.splitOn '.').mapM byte? with
  | [a, b, c, d] => return ((a * 256 + b) * 256 + c) * 256 + d
  | _ => none

/-- Reads a numeric address. -/
def read? (s : String) : Option IpAddress :=
  match readV4? s.toList with
  | some a => some (.v4 a)
  | none => (Url.Host.ipv6? s.toList).map .v6

/-- The written form of an address. An IPv4 address inside IPv6 stands in decimal. -/
def write : IpAddress → List Char
  | .v4 a => Url.Host.writeIpv4 a
  | .v6 [0, 0, 0, 0, 0, 0xFFFF, a, b] => "::ffff:".toList ++ Url.Host.writeIpv4 (a * 65536 + b)
  | .v6 gs => Url.Host.writeIpv6 gs

end IpAddress

namespace SocketAddress

/-- A number of at most `top`, without a sign. -/
private def number? (top : Nat) (cs : List Char) : Option Nat := (Text.natural? cs).filter (· ≤ top)

/-- Reads an IPv6 address with an optional scope behind a percent sign. -/
private def scoped? (cs : List Char) : Option (List Nat × Nat) :=
  match Text.splitFirst? '%' cs with
  | none => (Url.Host.ipv6? cs).map (·, 0)
  | some (address, scope) => do return (← Url.Host.ipv6? address, ← number? (UInt32.size - 1) scope)

/-- Reads an address with a port. -/
def read? (s : String) : Option SocketAddress := do
  let (host, port) ← Text.splitLast? ':' s.toList
  let port ← number? 65535 port
  match host with
  | '[' :: rest =>
    if rest.getLast? = some ']' then
      let (groups, scope) ← scoped? rest.dropLast
      return ⟨.v6 groups, port, scope⟩
    else none
  | _ => return ⟨.v4 (← IpAddress.readV4? host), port, 0⟩

/-- The written form of an address with a port. -/
def render (a : SocketAddress) : String :=
  match a.ip with
  | .v4 _ => String.ofList (a.ip.write ++ ':' :: Text.digits a.port)
  | .v6 _ =>
    let scope := if a.scope = 0 then [] else '%' :: Text.digits a.scope
    String.ofList ('[' :: a.ip.write ++ scope ++ ']' :: ':' :: Text.digits a.port)

end SocketAddress

end AccessGateway
