import AccessGateway.Text.Numeral
import AccessGateway.Text.Split

/-!
# Endpoints and peer routes

An endpoint text splits at its last colon into a host and a port below 65536, which may be written with a plus
sign and leading zeros. A host in brackets loses them; a host with a colon is one only in a text that starts with a
bracket, which need not be closed.

Some targets are reached through a tunnel peer. The table is looked up by the whole `host:port` target first and
by its host alone second; a peer found by host that names no port inherits the target's.
-/

namespace AccessGateway

/-- The content of a bracketed text, or the text itself. -/
def unbracketed (cs : List Char) : List Char :=
  match cs with
  | '[' :: r => if r.getLast? = some ']' then r.dropLast else cs
  | _ => cs

/-- Splits an endpoint text into host and port. -/
def splitHostPort? (endpoint : List Char) : Option (List Char × Nat) := do
  let (host, port) ← Text.splitLast? ':' endpoint
  let port ← Text.unsigned? 65535 port
  let host := unbracketed host
  if host.isEmpty || (host.contains ':' && endpoint.head? != some '[') then none
  else return (host, port)

/-- The peers by target or by host. -/
structure RouteTable where
  entries : List (String × String)
deriving DecidableEq, Repr

namespace RouteTable

/-- The peer entered under a key. -/
def find? (t : RouteTable) (key : String) : Option String := t.entries.lookup key

/-- The address to dial in place of the target; none to dial the target itself. -/
def route (t : RouteTable) (target : String) : Option String :=
  match t.find? target with
  | some peer => some peer
  | none => do
    let (host, port) ← splitHostPort? target.toList
    let peer ← t.find? (String.ofList host)
    match splitHostPort? peer.toList with
    | some _ => return peer
    | none => return s!"{peer}:{port}"

end RouteTable

end AccessGateway
