import AccessGateway.Mirror.Event
import AccessGateway.Proofs.Relay.Peer
import AccessGateway.Proofs.Text.Basic
import AccessGateway.Proofs.Time.Calendar
import AccessGateway.SocketAddress
import Mathlib

/-!
# The fields of an event

An event says three things twice: its time as a text and as a number, and its endpoints as the packet has them and
split into address and port.  The text of the time reads as the number of its whole microseconds, and the endpoints of
numeric addresses, in brackets or not, split into these addresses and their ports (`EveEvent.consistent_ofPacket`).
-/

namespace AccessGateway

open Text

/-! ### Numeric addresses before a port -/

namespace IpAddress

variable {cs : List Char} {a : Nat}

private theorem forall_mem_of_mapM {α β : Type} {f : α → Option β} {xs : List α} {ys : List β}
    (h : xs.mapM f = some ys) : ∀ x ∈ xs, ∃ y, f x = some y := by
  induction xs generalizing ys with
  | nil => simp
  | cons x xs ih =>
    simp only [List.mapM_cons, Option.bind_eq_bind, Option.bind_eq_some_iff] at h
    obtain ⟨y, hy, ys', hys, -⟩ := h
    exact List.forall_mem_cons.2 ⟨⟨y, hy⟩, ih hys⟩

theorem forall_isDigit_of_byte? (h : byte? cs = some a) : ∀ c ∈ cs, c.isDigit = true := by
  unfold byte? at h
  split at h
  · cases h
  · obtain ⟨hread, -⟩ := Option.filter_eq_some_iff.1 h
    exact (natural?_isSome_iff.1 (Option.isSome_of_eq_some hread)).2

/-- An IPv4 address is written in digits and dots. -/
theorem forall_of_readV4? (h : readV4? cs = some a) : ∀ c ∈ cs, c = '.' ∨ c.isDigit = true := by
  unfold readV4? at h
  simp only [Option.bind_eq_bind, Option.bind_eq_some_iff] at h
  obtain ⟨bytes, hbytes, -⟩ := h
  refine forall_mem_splitOn_iff.1 fun part hpart => ?_
  obtain ⟨byte, hbyte⟩ := forall_mem_of_mapM hbytes part hpart
  exact forall_isDigit_of_byte? hbyte

/-- The text of an address as it stands before a port: an IPv6 address in brackets. -/
def beforePort (ip : IpAddress) (text : List Char) : List Char :=
  match ip with
  | .v4 _ => text
  | .v6 _ => '[' :: (text ++ [']'])

theorem isEndpoint_beforePort {address : String} {ip : IpAddress} {written : List Char} {port : Nat}
    (h : read? address = some ip) (hport : IsSignedNumeral written port) (hle : port ≤ 65535) :
    IsEndpoint port (ip.beforePort address.toList ++ ':' :: written) address.toList := by
  have hempty : read? "" = none := by decide
  have hne : address.toList ≠ [] := by
    intro hnil
    rw [String.toList_eq_nil_iff.1 hnil, hempty] at h
    cases h
  unfold read? at h
  split at h
  · rename_i a ha
    obtain rfl := Option.some.inj h
    have hchars := forall_of_readV4? ha
    refine .plain hne ?_ ?_ hport hle
    · intro hopen
      rcases hchars '[' (List.mem_of_mem_head? hopen) with hc | hc <;> cases hc
    · intro hcolon
      rcases hchars ':' hcolon with hc | hc <;> cases hc
  · obtain ⟨groups, -, rfl⟩ := Option.map_eq_some_iff.1 h
    exact .bracketed hne hport hle

end IpAddress

/-! ### Time -/

namespace Instant

variable {t : Instant}

/-- The nanoseconds since the start of 1970. -/
def nanosSinceEpoch (t : Instant) : Int := t.seconds * 1000000000 + t.nanos

/-- What is less than a microsecond is cut off, also before 1970. -/
theorem micros_eq (t : Instant) : t.micros = t.nanosSinceEpoch / 1000 := by
  unfold micros nanosSinceEpoch
  omega

end Instant

namespace EveEvent

theorem endpoint_of_isEndpoint {address : String} {host : List Char} {port : Nat}
    (h : IsEndpoint port address.toList host) : endpoint address = (String.ofList host, port) := by
  rw [endpoint, splitHostPort?_eq_some_iff.2 h]

theorem flowId_ofPacket (p : MirrorPacket) (t : Instant) (gatewayId : String) :
    (ofPacket p t gatewayId).flowId = (t.nanosSinceEpoch / 1000).toNat := by
  rw [← Instant.micros_eq]
  rfl

/-- The written time of an event in the years 1970 to 9999 reads as a date and time of day that lies as many
microseconds after the start of 1970 as its flow id says, which are those of the packet's time without what is less
than a microsecond.  The flow id grows with the time and is 0 before 1970.  The size is that of the payload, and the
addresses and ports are those that the endpoints name, as the endpoints of numeric addresses do. -/
theorem consistent_ofPacket (p : MirrorPacket) (t : Instant) (gatewayId : String) :
    let e := ofPacket p t gatewayId
    (t.IsFourDigit → (∃ d, DateTime.read? e.timestamp.toList = some d ∧ d.IsValid ∧ d.sinceEpoch = e.flowId) ∧
      1000 * e.flowId ≤ t.nanosSinceEpoch ∧ t.nanosSinceEpoch < 1000 * (e.flowId + 1)) ∧
    (∀ p' t' gatewayId', t.nanosSinceEpoch ≤ t'.nanosSinceEpoch → e.flowId ≤ (ofPacket p' t' gatewayId').flowId) ∧
    (t.nanosSinceEpoch < 0 → e.flowId = 0) ∧
    e.payloadSize = p.payload.length ∧
    (∀ host port, IsEndpoint port p.source.toList host →
      e.sourceAddress = String.ofList host ∧ e.sourcePort = port) ∧
    (∀ host port, IsEndpoint port p.destination.toList host →
      e.destinationAddress = String.ofList host ∧ e.destinationPort = port) ∧
    ∀ address ip written port, IpAddress.read? address = some ip → IsSignedNumeral written port → port ≤ 65535 →
      IsEndpoint port (ip.beforePort address.toList ++ ':' :: written) address.toList := by
  intro e
  have hflow : e.flowId = (t.nanosSinceEpoch / 1000).toNat := flowId_ofPacket p t gatewayId
  refine ⟨fun ht => ⟨?_, ?_⟩, fun p' t' gatewayId' hle => ?_, fun hneg => ?_, rfl, fun host port h => ?_,
    fun host port h => ?_, fun address ip written port h hport hle => IpAddress.isEndpoint_beforePort h hport hle⟩
  · exact Instant.exists_read?_render ht
  · have hepoch := ht.epoch_le
    have hnonneg : 0 ≤ t.nanosSinceEpoch := by
      unfold Instant.nanosSinceEpoch
      omega
    omega
  · rw [hflow, flowId_ofPacket]
    omega
  · omega
  · have hsplit := endpoint_of_isEndpoint h
    exact ⟨congrArg Prod.fst hsplit, congrArg Prod.snd hsplit⟩
  · have hsplit := endpoint_of_isEndpoint h
    exact ⟨congrArg Prod.fst hsplit, congrArg Prod.snd hsplit⟩

/-- The last microsecond but one of a leap day at the end of a century. -/
theorem consistent_ofPacket_leap_day :
    let e := ofPacket ⟨.tcp, "10.0.0.2:51000", "[2001:db8::1]:443", [], []⟩ ⟨951868799, 999998999⟩ "gw-1"
    e.timestamp = "2000-02-29T23:59:59.999998+0000" ∧ e.flowId = 951868799999998 ∧
      (∃ d, DateTime.read? e.timestamp.toList = some d ∧ d.sinceEpoch = 951868799999998) ∧
      (e.sourceAddress, e.sourcePort) = ("10.0.0.2", 51000) ∧
      (e.destinationAddress, e.destinationPort) = ("2001:db8::1", 443) := by
  intro e
  obtain ⟨htime, -, -, -, hsource, hdestination, haddress⟩ :=
    consistent_ofPacket ⟨.tcp, "10.0.0.2:51000", "[2001:db8::1]:443", [], []⟩ ⟨951868799, 999998999⟩ "gw-1"
  have hend : (Date.daysBeforeYear 10000 : Int) = 2932897 := Date.daysBeforeYear_eq (by decide)
  obtain ⟨⟨d, hd, -, hsince⟩, -⟩ := htime ⟨by decide, by rw [hend]; decide, by decide⟩
  have hv4 := haddress "10.0.0.2" (.v4 0x0A000002) _ _ (by decide) (isSignedNumeral_digits 51000) (by decide)
  have hv6 := haddress "2001:db8::1" (.v6 [0x2001, 0xdb8, 0, 0, 0, 0, 0, 1]) _ _ (by decide)
    (isSignedNumeral_digits 443) (by decide)
  exact ⟨by decide, by decide, ⟨d, hd, hsince⟩, Prod.ext_iff.2 (hsource _ _ hv4), Prod.ext_iff.2 (hdestination _ _ hv6)⟩

end EveEvent

end AccessGateway
