import AccessGateway.Proofs.Port.Set
import Mathlib

/-!
# Ports in machine words

Ports fit in 16 bits and counts in 64.  Here the size of a range is the distance of two words and one more, its ports
are found by counting a word up, and the count of a set is a sum of words.  The key facts: size and ports of every
range come out as they are in numbers, also where the range ends at the last port of all (`toNat_wordSize`,
`map_toNat_countUp_ports`), and so does the count of every set of up to 2^48 ranges (`toNat_wordCount`).
-/

namespace AccessGateway

namespace PortRange

def firstWord (r : PortRange) : UInt16 := UInt16.ofNat r.first

def lastWord (r : PortRange) : UInt16 := UInt16.ofNat r.last

/-- The size in words: the distance of the ends, of 16 bits, and one more, of 64. -/
def wordSize (r : PortRange) : UInt64 := (r.lastWord - r.firstWord).toUInt64 + 1

/-- The words from one to another, the last one included and not counted on from. -/
def countUp (next last : UInt16) : List UInt16 :=
  if next < last then next :: countUp (next + 1) last
  else if next = last then [next]
  else []
termination_by last.toNat - next.toNat
decreasing_by
  rename_i h
  rw [UInt16.lt_iff_toNat_lt] at h
  have hlast := last.toNat_lt
  have hnext : (next + 1).toNat = next.toNat + 1 := by
    rw [UInt16.toNat_add, UInt16.toNat_one]
    omega
  omega

theorem toNat_firstWord (r : PortRange) : r.firstWord.toNat = r.first := by
  have hfirst := r.first_le_last
  have hlast := r.last_le
  rw [firstWord, UInt16.toNat_ofNat']
  omega

theorem toNat_lastWord (r : PortRange) : r.lastWord.toNat = r.last := by
  have hlast := r.last_le
  rw [lastWord, UInt16.toNat_ofNat']
  omega

theorem size_le (r : PortRange) : r.size ≤ 65535 := by
  have hone := r.one_le_first
  have hlast := r.last_le
  unfold size
  omega

theorem toNat_wordSize (r : PortRange) : r.wordSize.toNat = r.size := by
  have hle : r.firstWord ≤ r.lastWord := by
    rw [UInt16.le_iff_toNat_le, toNat_firstWord, toNat_lastWord]
    exact r.first_le_last
  have hsize := r.size_le
  rw [wordSize, UInt64.toNat_add, UInt16.toNat_toUInt64, UInt16.toNat_sub_of_le _ _ hle, toNat_firstWord,
    toNat_lastWord, UInt64.toNat_one]
  unfold size at hsize ⊢
  omega

theorem map_toNat_countUp (next last : UInt16) :
    (countUp next last).map UInt16.toNat = List.range' next.toNat (last.toNat + 1 - next.toNat) := by
  fun_induction countUp next last with
  | case1 next hlt ih =>
    rw [UInt16.lt_iff_toNat_lt] at hlt
    have hlast := last.toNat_lt
    -- the next word is not the last one, so one more does not wrap
    have hnext : (next + 1).toNat = next.toNat + 1 := by
      rw [UInt16.toNat_add, UInt16.toNat_one]
      omega
    have hlength : last.toNat + 1 - next.toNat = (last.toNat + 1 - (next.toNat + 1)) + 1 := by omega
    rw [List.map_cons, ih, hnext, hlength, List.range'_succ]
  | case2 hlt =>
    have hlength : last.toNat + 1 - last.toNat = 1 := by omega
    rw [hlength]
    rfl
  | case3 next hlt hne =>
    rw [UInt16.lt_iff_toNat_lt] at hlt
    rw [← UInt16.toNat_inj] at hne
    have hlength : last.toNat + 1 - next.toNat = 0 := by omega
    rw [hlength]
    rfl

/-- The ports of a range, counted up in words. -/
theorem map_toNat_countUp_ports (r : PortRange) :
    (countUp r.firstWord r.lastWord).map UInt16.toNat = r.ports := by
  have hle := r.first_le_last
  have hsize : r.last + 1 - r.first = r.last - r.first + 1 := by omega
  rw [map_toNat_countUp, toNat_firstWord, toNat_lastWord, hsize]
  rfl

end PortRange

namespace PortSet

variable {s : PortSet}

/-- The count as a sum of words of 64 bits. -/
def wordCount (s : PortSet) : UInt64 := s.ranges.foldl (fun n r => n + r.wordSize) 0

theorem count_eq_sum (s : PortSet) : s.count = (s.ranges.map PortRange.size).sum := rfl

theorem toNat_foldl_wordSize (rs : List PortRange) (n : UInt64)
    (h : n.toNat + (rs.map PortRange.size).sum < 2 ^ 64) :
    (rs.foldl (fun n r => n + r.wordSize) n).toNat = n.toNat + (rs.map PortRange.size).sum := by
  induction rs generalizing n with
  | nil => simp
  | cons r rs ih =>
    rw [List.map_cons, List.sum_cons] at h ⊢
    have hstep : (n + r.wordSize).toNat = n.toNat + r.size := by
      rw [UInt64.toNat_add, PortRange.toNat_wordSize]
      omega
    rw [List.foldl_cons, ih _ (by omega), hstep, Nat.add_assoc]

theorem toNat_wordCount_of_lt (h : s.count < 2 ^ 64) : s.wordCount.toNat = s.count := by
  rw [count_eq_sum] at h ⊢
  rw [wordCount, toNat_foldl_wordSize s.ranges 0 (by simpa using h), UInt64.toNat_zero, Nat.zero_add]

/-- No set of up to 2^48 ranges has too many ports for 64 bits. -/
theorem toNat_wordCount (h : s.ranges.length ≤ 2 ^ 48) : s.wordCount.toNat = s.count := by
  have hsum : (s.ranges.map PortRange.size).sum ≤ (s.ranges.map PortRange.size).length • 65535 := by
    apply List.sum_le_card_nsmul
    intro n hn
    obtain ⟨r, -, rfl⟩ := List.mem_map.1 hn
    exact r.size_le
  rw [List.length_map, smul_eq_mul] at hsum
  apply toNat_wordCount_of_lt
  rw [count_eq_sum]
  omega

end PortSet

end AccessGateway
