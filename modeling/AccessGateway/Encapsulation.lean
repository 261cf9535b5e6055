import AccessGateway.Text.Blank

/-!
# Tunnel encapsulation

Each format puts a header of fixed size in front of a payload that it leaves alone, so cutting the header off
gives the payload back. Parameters wider than their header field keep their low bits only.
-/

namespace AccessGateway

/-- The header a mirrored packet gets. -/
inductive Encapsulation where
  /-- VXLAN with a virtual network id, of which the header keeps 24 bits. -/
  | vxlan (vni : UInt32)
  /-- GRE without optional fields, carrying IPv4. -/
  | gre
  /-- ERSPAN type II with a VLAN (12 bits kept) and a session id (10 bits kept). -/
  | erspan (vlan session : UInt16)
  /-- No header. -/
  | raw
deriving DecidableEq, Repr, Inhabited

namespace Encapsulation

/-- The virtual network id used where none is configured. -/
def defaultVni : UInt32 := 1

/-- The bytes of a 16-bit word, high byte first. -/
def be16 (w : UInt16) : List UInt8 := [(w >>> 8).toUInt8, w.toUInt8]

/-- The bytes of a 32-bit word, high byte first. -/
def be32 (w : UInt32) : List UInt8 := [(w >>> 24).toUInt8, (w >>> 16).toUInt8, (w >>> 8).toUInt8, w.toUInt8]

def headerLength : Encapsulation → Nat
  | .vxlan _ | .erspan _ _ => 8
  | .gre => 4
  | .raw => 0

/-- The name of the format. -/
def tag : Encapsulation → String
  | .vxlan _ => "vxlan"
  | .gre => "gre"
  | .erspan _ _ => "erspan"
  | .raw => "raw"

/-- The format named by a tag, in any ASCII case and with blanks around it; an unknown tag means no header. -/
def ofTag (s : String) : Encapsulation :=
  match (Text.trimmed s).toLower with
  | "vxlan" => .vxlan defaultVni
  | "gre" => .gre
  | "erspan" => .erspan 0 0
  | _ => .raw

/-- The header. VXLAN has the flag byte 8 and the network id above a reserved byte; GRE has no flags and the type
of IPv4; ERSPAN has version 1 over the VLAN, the session, and the low 20 bits of the time in seconds. -/
def header (e : Encapsulation) (seconds : UInt64) : List UInt8 :=
  match e with
  | .vxlan vni => be32 0x08000000 ++ be32 ((vni &&& 0x00FFFFFF) <<< 8)
  | .gre => be16 0 ++ be16 0x0800
  | .erspan vlan session =>
    be16 (0x1000 ||| (vlan &&& 0x0FFF)) ++ be16 (session &&& 0x03FF) ++ be32 (seconds &&& 0xFFFFF).toUInt32
  | .raw => []

/-- The header and the payload. -/
def encapsulate (e : Encapsulation) (payload : List UInt8) (seconds : UInt64) : List UInt8 :=
  e.header seconds ++ payload

/-- The frame without its header, or none if it is shorter than the header. -/
def decapsulate? (e : Encapsulation) (frame : List UInt8) : Option (List UInt8) :=
  if e.headerLength ≤ frame.length then some (frame.drop e.headerLength) else none

@[simp] theorem length_header (e : Encapsulation) (seconds : UInt64) :
    (e.header seconds).length = e.headerLength := by
  cases e <;> rfl

end Encapsulation

end AccessGateway
