import AccessGateway.Encapsulation
import Mathlib

/-!
# Headers read back

A header is a row of fields of so many bits each (`Encapsulation.layout`), and its bytes are these fields one after the
other, every number cut to the width of its field (`ofBytes_header`).  So what is read at the widths of the format is
what was put there (`fields_pack`), however wide the parameters were, and headers of one format are the same exactly if
the parameters are the same as far as their fields go (`header_eq_iff`).
-/

namespace AccessGateway

/-! ### Numbers as bits -/

namespace Bits

/-- The lowest bits of a number, the highest of them first. -/
def ofNat : Nat → Nat → List Bool
  | 0, _ => []
  | w + 1, n => n.testBit w :: ofNat w n

/-- The number that bits stand for, the highest first. -/
def toNat : List Bool → Nat
  | [] => 0
  | b :: bs => b.toNat * 2 ^ bs.length + toNat bs

def ofBytes (bytes : List UInt8) : List Bool := bytes.flatMap fun b => ofNat 8 b.toNat

/-- The numbers in fields of the given widths, from the first bit on. -/
def fields : List Nat → List Bool → List Nat
  | [], _ => []
  | w :: ws, bs => toNat (bs.take w) :: fields ws (bs.drop w)

/-- Fields one after the other, each given by its width and a number. -/
def pack (fs : List (Nat × Nat)) : List Bool := fs.flatMap fun f => ofNat f.1 f.2

theorem length_ofNat (w n : Nat) : (ofNat w n).length = w := by
  induction w with
  | zero => rfl
  | succ w ih => rw [ofNat, List.length_cons, ih]

theorem toNat_ofNat (w n : Nat) : toNat (ofNat w n) = n % 2 ^ w := by
  induction w with
  | zero =>
    rw [Nat.pow_zero, Nat.mod_one]
    rfl
  | succ w ih =>
    rw [ofNat, toNat, length_ofNat, ih, Nat.toNat_testBit, Nat.mod_pow_succ, Nat.mul_comm, Nat.add_comm]

/-- Only the lowest bits count. -/
theorem ofNat_mod {w k : Nat} (h : w ≤ k) (n : Nat) : ofNat w (n % 2 ^ k) = ofNat w n := by
  induction w with
  | zero => rfl
  | succ w ih =>
    have hbit : (n % 2 ^ k).testBit w = n.testBit w := by
      rw [Nat.testBit_mod_two_pow, decide_eq_true (by omega), Bool.true_and]
    rw [ofNat, hbit, ih (by omega), ofNat]

/-- The bits above a place and those below it. -/
theorem ofNat_add (v w n : Nat) : ofNat (v + w) n = ofNat v (n / 2 ^ w) ++ ofNat w n := by
  induction v with
  | zero => rw [Nat.zero_add, ofNat, List.nil_append]
  | succ v ih =>
    have hbit : (n / 2 ^ w).testBit v = n.testBit (v + w) := by rw [Nat.testBit_div_two_pow, Nat.add_comm]
    rw [Nat.add_right_comm, ofNat, ih, ofNat, hbit, List.cons_append]

/-- Two numbers side by side. -/
theorem ofNat_mul_add {b w : Nat} (v a : Nat) (h : b < 2 ^ w) :
    ofNat (v + w) (a * 2 ^ w + b) = ofNat v a ++ ofNat w b := by
  have hhigh : (a * 2 ^ w + b) / 2 ^ w = a := by
    rw [Nat.mul_comm, Nat.mul_add_div (by positivity), Nat.div_eq_of_lt h, Nat.add_zero]
  have hlow : (a * 2 ^ w + b) % 2 ^ w = b := by rw [Nat.mul_comm, Nat.mul_add_mod, Nat.mod_eq_of_lt h]
  rw [ofNat_add, hhigh, ← ofNat_mod le_rfl (a * 2 ^ w + b), hlow]

theorem ofBytes_append (xs ys : List UInt8) : ofBytes (xs ++ ys) = ofBytes xs ++ ofBytes ys :=
  List.flatMap_append

/-- Packed fields are read as what their widths leave of the numbers, whatever follows. -/
theorem fields_pack (fs : List (Nat × Nat)) (rest : List Bool) :
    fields (fs.map Prod.fst) (pack fs ++ rest) = fs.map fun f => f.2 % 2 ^ f.1 := by
  induction fs with
  | nil => rfl
  | cons f fs ih =>
    have hpack : pack (f :: fs) ++ rest = ofNat f.1 f.2 ++ (pack fs ++ rest) := by
      rw [pack, List.flatMap_cons, List.append_assoc]
      rfl
    have hlength := length_ofNat f.1 f.2
    rw [hpack, List.map_cons, fields, List.take_left' hlength, List.drop_left' hlength, toNat_ofNat, ih, List.map_cons]

end Bits

namespace Encapsulation

open Bits

/-! ### Words as bytes -/

theorem ofBytes_be16 (w : UInt16) : ofBytes (be16 w) = ofNat 16 w.toNat := by
  have hhigh : (w >>> 8).toUInt8.toNat = w.toNat / 2 ^ 8 % 2 ^ 8 := by
    rw [UInt16.toNat_toUInt8, UInt16.toNat_shiftRight, Nat.shiftRight_eq_div_pow]
    rfl
  have hlow : w.toUInt8.toNat = w.toNat % 2 ^ 8 := UInt16.toNat_toUInt8 w
  have hbytes : ofBytes (be16 w) = ofNat 8 (w >>> 8).toUInt8.toNat ++ ofNat 8 w.toUInt8.toNat := by
    simp [ofBytes, be16]
  rw [hbytes, hhigh, hlow, ofNat_mod le_rfl, ofNat_mod le_rfl, ← ofNat_add]

theorem ofBytes_be32 (w : UInt32) : ofBytes (be32 w) = ofNat 32 w.toNat := by
  have hbyte (k : UInt32) : (w >>> k).toUInt8.toNat = w.toNat / 2 ^ (k.toNat % 32) % 2 ^ 8 := by
    rw [UInt32.toNat_toUInt8, UInt32.toNat_shiftRight, Nat.shiftRight_eq_div_pow]
  have hlow : w.toUInt8.toNat = w.toNat % 2 ^ 8 := UInt32.toNat_toUInt8 w
  have hbytes : ofBytes (be32 w) = ofNat 8 (w >>> 24).toUInt8.toNat ++ (ofNat 8 (w >>> 16).toUInt8.toNat ++
      (ofNat 8 (w >>> 8).toUInt8.toNat ++ ofNat 8 w.toUInt8.toNat)) := by
    simp [ofBytes, be32]
  have hword : ofNat 32 w.toNat = ofNat 8 (w.toNat / 2 ^ 24) ++ (ofNat 8 (w.toNat / 2 ^ 16) ++
      (ofNat 8 (w.toNat / 2 ^ 8) ++ ofNat 8 w.toNat)) := by
    rw [← ofNat_add 8 8, ← ofNat_add 8 16, ← ofNat_add 8 24]
  rw [hbytes, hword, hbyte, hbyte, hbyte, hlow]
  simp only [ofNat_mod le_rfl]
  rfl

/-! ### Headers as fields -/

variable {e e' : Encapsulation}

/-- The fields of a header: the width of each, and the number that is put there. -/
def layout (e : Encapsulation) (seconds : UInt64) : List (Nat × Nat) :=
  match e with
  | .vxlan vni => [(8, 8), (24, 0), (24, vni.toNat), (8, 0)]
  | .gre => [(16, 0), (16, 0x0800)]
  | .erspan vlan session => [(4, 1), (12, vlan.toNat), (6, 0), (10, session.toNat), (12, 0), (20, seconds.toNat)]
  | .raw => []

/-- The widths of the fields of a format. -/
def widths : Encapsulation → List Nat
  | .vxlan _ => [8, 24, 24, 8]
  | .gre => [16, 16]
  | .erspan _ _ => [4, 12, 6, 10, 12, 20]
  | .raw => []

/-- What the fields hold.  VXLAN: the flag, a reserved field, the network, a reserved field.  ERSPAN: the version, the
VLAN, a reserved field, the session, a reserved field, the time. -/
def contents (e : Encapsulation) (seconds : UInt64) : List Nat :=
  match e with
  | .vxlan vni => [0x08, 0, vni.toNat % 2 ^ 24, 0]
  | .gre => [0, 0x0800]
  | .erspan vlan session => [1, vlan.toNat % 2 ^ 12, 0, session.toNat % 2 ^ 10, 0, seconds.toNat % 2 ^ 20]
  | .raw => []

/-- The parameters as far as their fields go. -/
def parameters (e : Encapsulation) (seconds : UInt64) : List Nat :=
  match e with
  | .vxlan vni => [vni.toNat % 2 ^ 24]
  | .erspan vlan session => [vlan.toNat % 2 ^ 12, session.toNat % 2 ^ 10, seconds.toNat % 2 ^ 20]
  | .gre | .raw => []

theorem map_fst_layout (e : Encapsulation) (seconds : UInt64) : (e.layout seconds).map Prod.fst = e.widths := by
  cases e <;> rfl

theorem map_mod_layout (e : Encapsulation) (seconds : UInt64) :
    (e.layout seconds).map (fun f => f.2 % 2 ^ f.1) = e.contents seconds := by
  cases e <;> rfl

/-- The network stands above a reserved byte. -/
theorem toNat_network (vni : UInt32) : ((vni &&& 0x00FFFFFF) <<< 8).toNat = vni.toNat % 2 ^ 24 * 2 ^ 8 + 0 := by
  have hmask : (vni &&& 0x00FFFFFF).toNat = vni.toNat % 2 ^ 24 := Nat.and_two_pow_sub_one_eq_mod vni.toNat 24
  have hplaces : (8 : UInt32).toNat % 32 = 8 := rfl
  have hword : vni.toNat % 2 ^ 24 * 2 ^ 8 < 2 ^ 32 := by omega
  rw [UInt32.toNat_shiftLeft, hmask, hplaces, Nat.shiftLeft_eq, Nat.mod_eq_of_lt hword, Nat.add_zero]

/-- The version stands above the VLAN. -/
theorem toNat_version (vlan : UInt16) : (0x1000 ||| (vlan &&& 0x0FFF)).toNat = 1 * 2 ^ 12 + vlan.toNat % 2 ^ 12 := by
  have hmask : (vlan &&& 0x0FFF).toNat = vlan.toNat % 2 ^ 12 := Nat.and_two_pow_sub_one_eq_mod vlan.toNat 12
  have hlow : vlan.toNat % 2 ^ 12 < 2 ^ 12 := Nat.mod_lt _ (by decide)
  rw [UInt16.toNat_or, hmask]
  exact (Nat.two_pow_add_eq_or_of_lt hlow 1).symm

/-- Nothing stands above the session. -/
theorem toNat_session (session : UInt16) : (session &&& 0x03FF).toNat = 0 * 2 ^ 10 + session.toNat % 2 ^ 10 := by
  rw [Nat.zero_mul, Nat.zero_add]
  exact Nat.and_two_pow_sub_one_eq_mod session.toNat 10

/-- Nothing stands above the time. -/
theorem toNat_time (seconds : UInt64) :
    (seconds &&& 0xFFFFF).toUInt32.toNat = 0 * 2 ^ 20 + seconds.toNat % 2 ^ 20 := by
  have hmask : (seconds &&& 0xFFFFF).toNat = seconds.toNat % 2 ^ 20 :=
    Nat.and_two_pow_sub_one_eq_mod seconds.toNat 20
  rw [UInt64.toNat_toUInt32, hmask]
  omega

/-- The bytes of a header are its fields, one after the other. -/
theorem ofBytes_header (e : Encapsulation) (seconds : UInt64) :
    ofBytes (e.header seconds) = pack (e.layout seconds) := by
  have hmod (k n : Nat) : n % 2 ^ k < 2 ^ k := Nat.mod_lt _ (by positivity)
  cases e with
  | vxlan vni =>
    have hflags : ofNat 32 (0x08000000 : UInt32).toNat = ofNat 8 8 ++ ofNat 24 0 := by rfl
    rw [header, ofBytes_append, ofBytes_be32, ofBytes_be32, hflags, toNat_network,
      ofNat_mul_add 24 _ (Nat.two_pow_pos 8), ofNat_mod le_rfl]
    rfl
  | gre => rfl
  | erspan vlan session =>
    rw [header, ofBytes_append, ofBytes_append, ofBytes_be16, ofBytes_be16, ofBytes_be32, toNat_version,
      toNat_session, toNat_time, ofNat_mul_add 4 1 (hmod 12 _), ofNat_mul_add 6 0 (hmod 10 _),
      ofNat_mul_add 12 0 (hmod 20 _), ofNat_mod le_rfl, ofNat_mod le_rfl, ofNat_mod le_rfl]
    rfl
  | raw => rfl

/-- A frame read at the widths of its format. -/
theorem fields_encapsulate (e : Encapsulation) (payload : List UInt8) (seconds : UInt64) :
    fields e.widths (ofBytes (e.encapsulate payload seconds)) = e.contents seconds := by
  rw [encapsulate, ofBytes_append, ofBytes_header, ← map_fst_layout e seconds, fields_pack, map_mod_layout]

/-! ### Frames of one format -/

theorem cases_of_tag (h : e'.tag = e.tag) :
    (∃ vni vni', e = .vxlan vni ∧ e' = .vxlan vni') ∨ (e = .gre ∧ e' = .gre) ∨
      (∃ vlan session vlan' session', e = .erspan vlan session ∧ e' = .erspan vlan' session') ∨
      (e = .raw ∧ e' = .raw) := by
  cases e <;> cases e' <;> simp [tag] at h ⊢

theorem widths_eq_of_tag (h : e'.tag = e.tag) : e'.widths = e.widths := by
  rcases cases_of_tag h with ⟨_, _, rfl, rfl⟩ | ⟨rfl, rfl⟩ | ⟨_, _, _, _, rfl, rfl⟩ | ⟨rfl, rfl⟩ <;> rfl

/-- The fields make up the whole header. -/
theorem sum_widths (e : Encapsulation) : e.widths.sum = 8 * e.headerLength := by
  cases e <;> rfl

theorem headerLength_eq_of_tag (h : e'.tag = e.tag) : e'.headerLength = e.headerLength := by
  have hsum := sum_widths e
  have hsum' := sum_widths e'
  rw [widths_eq_of_tag h] at hsum'
  omega

/-- What the fields hold beside the parameters is the format's own. -/
theorem contents_eq_iff {seconds seconds' : UInt64} (h : e'.tag = e.tag) :
    e'.contents seconds' = e.contents seconds ↔ e'.parameters seconds' = e.parameters seconds := by
  rcases cases_of_tag h with ⟨_, _, rfl, rfl⟩ | ⟨rfl, rfl⟩ | ⟨_, _, _, _, rfl, rfl⟩ | ⟨rfl, rfl⟩ <;>
    simp [contents, parameters]

theorem fields_header (e : Encapsulation) (seconds : UInt64) :
    fields e.widths (ofBytes (e.header seconds)) = e.contents seconds := by
  have h := fields_encapsulate e [] seconds
  rwa [encapsulate, List.append_nil] at h

/-- A header is made of its contents alone. -/
theorem header_congr {seconds seconds' : UInt64} (h : e'.tag = e.tag)
    (hparameters : e'.parameters seconds' = e.parameters seconds) : e'.header seconds' = e.header seconds := by
  rcases cases_of_tag h with ⟨vni, vni', rfl, rfl⟩ | ⟨rfl, rfl⟩ | ⟨vlan, session, vlan', session', rfl, rfl⟩ | ⟨rfl, rfl⟩
  · have hnetwork : (vni' &&& 0x00FFFFFF) <<< 8 = (vni &&& 0x00FFFFFF) <<< 8 := by
      rw [← UInt32.toNat_inj, toNat_network, toNat_network, (List.cons.inj hparameters).1]
    rw [header, header, hnetwork]
  · rfl
  · simp only [parameters, List.cons.injEq, and_true] at hparameters
    obtain ⟨hvlan, hsession, htime⟩ := hparameters
    have hversion : 0x1000 ||| (vlan' &&& 0x0FFF) = 0x1000 ||| (vlan &&& 0x0FFF) := by
      rw [← UInt16.toNat_inj, toNat_version, toNat_version, hvlan]
    have hsession' : session' &&& 0x03FF = session &&& 0x03FF := by
      rw [← UInt16.toNat_inj, toNat_session, toNat_session, hsession]
    have htime' : (seconds' &&& 0xFFFFF).toUInt32 = (seconds &&& 0xFFFFF).toUInt32 := by
      rw [← UInt32.toNat_inj, toNat_time, toNat_time, htime]
    rw [header, header, hversion, hsession', htime']
  · rfl

theorem header_eq_iff {seconds seconds' : UInt64} (h : e'.tag = e.tag) :
    e'.header seconds' = e.header seconds ↔ e'.parameters seconds' = e.parameters seconds := by
  refine ⟨fun hheader => ?_, header_congr h⟩
  rw [← contents_eq_iff h, ← fields_header, ← fields_header, hheader, widths_eq_of_tag h]

theorem encapsulate_eq_iff {payload payload' : List UInt8} {seconds seconds' : UInt64} (h : e'.tag = e.tag) :
    e'.encapsulate payload' seconds' = e.encapsulate payload seconds ↔
      payload' = payload ∧ e'.parameters seconds' = e.parameters seconds := by
  have hlength : (e'.header seconds').length = (e.header seconds).length := by
    rw [length_header, length_header, headerLength_eq_of_tag h]
  rw [encapsulate, encapsulate, ← header_eq_iff h, and_comm]
  constructor
  · intro hframe
    exact List.append_inj hframe hlength
  · rintro ⟨hheader, rfl⟩
    rw [hheader]

theorem length_encapsulate (e : Encapsulation) (payload : List UInt8) (seconds : UInt64) :
    (e.encapsulate payload seconds).length = e.headerLength + payload.length := by
  rw [encapsulate, List.length_append, length_header]

theorem decapsulate?_encapsulate (e : Encapsulation) (payload : List UInt8) (seconds : UInt64) :
    e.decapsulate? (e.encapsulate payload seconds) = some payload := by
  have hle : e.headerLength ≤ (e.encapsulate payload seconds).length := by
    rw [length_encapsulate]
    omega
  rw [decapsulate?, if_pos hle, encapsulate, List.drop_left' (length_header e seconds)]

theorem decapsulate?_eq_none_iff {frame : List UInt8} :
    e.decapsulate? frame = none ↔ frame.length < e.headerLength := by
  unfold decapsulate?
  split
  · rename_i hle
    exact iff_of_false (by simp) (by omega)
  · rename_i hlt
    exact iff_of_true rfl (by omega)

/-- A frame is longer than its payload by the header, gives it back, and shows at the widths of its format what the
format says, of every parameter only as many low bits as its field has: so frames of one format are the same exactly if
payloads and these bits are.  Nothing is taken from a frame exactly if it is shorter than the header. -/
theorem frames_separate (e : Encapsulation) (payload : List UInt8) (seconds : UInt64) :
    (e.encapsulate payload seconds).length = e.headerLength + payload.length ∧
      e.decapsulate? (e.encapsulate payload seconds) = some payload ∧
      e.widths.sum = 8 * e.headerLength ∧
      fields e.widths (ofBytes (e.encapsulate payload seconds)) = e.contents seconds ∧
      (∀ (e' : Encapsulation) (payload' : List UInt8) (seconds' : UInt64), e'.tag = e.tag →
        (e'.encapsulate payload' seconds' = e.encapsulate payload seconds ↔
          payload' = payload ∧ e'.parameters seconds' = e.parameters seconds)) ∧
      ∀ frame, e.decapsulate? frame = none ↔ frame.length < e.headerLength := by
  refine ⟨length_encapsulate e payload seconds, decapsulate?_encapsulate e payload seconds, sum_widths e,
    fields_encapsulate e payload seconds, ?_, fun frame => decapsulate?_eq_none_iff⟩
  intro e' payload' seconds' htag
  exact encapsulate_eq_iff htag

/-- Every bit of the parameters is set, and only those that have a place count. -/
theorem frames_separate_full_width :
    (erspan 0xFFFF 0xFFFF).tag = (erspan 0x0FFF 0x03FF).tag ∧
      (erspan 0xFFFF 0xFFFF).encapsulate [7] 0xFFFFFFFFFFFFFFFF = (erspan 0x0FFF 0x03FF).encapsulate [7] 0xFFFFF ∧
      (erspan 0x0FFE 0xFFFF).encapsulate [7] 0xFFFFFFFFFFFFFFFF ≠ (erspan 0x0FFF 0x03FF).encapsulate [7] 0xFFFFF := by
  have htag (vlan : UInt16) : (erspan vlan 0xFFFF).tag = (erspan 0x0FFF 0x03FF).tag := rfl
  obtain ⟨-, -, -, -, hframes, -⟩ := frames_separate (erspan 0x0FFF 0x03FF) [7] 0xFFFFF
  refine ⟨htag 0xFFFF, (hframes _ _ _ (htag 0xFFFF)).2 ⟨rfl, by decide⟩, ?_⟩
  intro h
  have hparameters := ((hframes _ _ _ (htag 0x0FFE)).1 h).2
  revert hparameters
  decide

end Encapsulation

end AccessGateway
