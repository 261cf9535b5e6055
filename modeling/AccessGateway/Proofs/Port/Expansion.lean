import AccessGateway.CommandLine.Outcome
import AccessGateway.Proofs.Port.Rendering
import AccessGateway.Proofs.Port.Word
import Mathlib

/-!
# The ports of a set

A set that was read is expanded, counted and searched for a repeated port by three computations: one lists ports, one
adds sizes and one compares the ends of ranges.  The key facts: the expansion is the ports of either transport in the
order of their ranges (`expand_eq_of_assigned`), and the search names the first of them that occurred before
(`check_eq_error_iff`), because the least port that a range shares with the earlier ones is the first repetition within
it (`firstRepeated_of_duplicateAmong`).
-/

namespace AccessGateway

/-! ### The first repetition of a list -/

section Repetition

variable {α : Type} {es : List α} {e e' : α}

/-- An entry that is the first to have occurred before. -/
def FirstRepeated (es : List α) (e : α) : Prop :=
  ∃ before after, es = before ++ e :: after ∧ before.Nodup ∧ e ∈ before

theorem FirstRepeated.not_nodup (h : FirstRepeated es e) : ¬ es.Nodup := by
  obtain ⟨before, after, rfl, -, he⟩ := h
  intro hnodup
  exact (List.nodup_append.1 hnodup).2.2 e he e List.mem_cons_self rfl

/-- A list without repetition does not go on beyond a repeated entry. -/
private theorem length_le_of_nodup {before after before' after' : List α}
    (h : before ++ e :: after = before' ++ e' :: after') (he : e ∈ before) (hnodup : before'.Nodup) :
    before'.length ≤ before.length := by
  by_contra hlt
  have hfront : before ++ [e] <+: before ++ e :: after := ⟨after, by simp⟩
  have hfront' : before' <+: before ++ e :: after := ⟨e' :: after', h.symm⟩
  have hlength : (before ++ [e]).length ≤ before'.length := by
    simp only [List.length_append, List.length_singleton]
    omega
  have hinside := List.prefix_of_prefix_length_le hfront hfront' hlength
  have hrepeated := hnodup.sublist hinside.sublist
  exact (List.nodup_append.1 hrepeated).2.2 e he e List.mem_cons_self rfl

theorem FirstRepeated.unique (h : FirstRepeated es e) (h' : FirstRepeated es e') : e = e' := by
  obtain ⟨before, after, rfl, hnodup, he⟩ := h
  obtain ⟨before', after', heq, hnodup', he'⟩ := h'
  have hle := length_le_of_nodup heq he hnodup'
  have hge := length_le_of_nodup heq.symm he' hnodup
  obtain ⟨-, htail⟩ := List.append_inj heq (by omega)
  exact (List.cons.inj htail).1

end Repetition

namespace PortSet

variable {s : PortSet} {t : Transport} {p : Nat}

/-! ### The search for a repeated port -/

/-- A port that a range shares with earlier ones, and no smaller port of the range is shared. -/
theorem shared_of_firstShared {earlier : List PortRange} {r : PortRange} (h : firstShared earlier r = some p) :
    p ∈ r.ports ∧ (r.transport, p) ∈ earlier.flatMap PortRange.endpoints ∧
      ∀ q ∈ r.ports, (r.transport, q) ∈ earlier.flatMap PortRange.endpoints → p ≤ q := by
  obtain ⟨hmem, hleast⟩ := List.min?_eq_some_iff.1 h
  have hle := r.first_le_last
  simp only [List.mem_filterMap, Option.ite_none_right_eq_some, Option.some.injEq] at hmem hleast
  obtain ⟨e, he, ⟨htransport, hfirst, hlast⟩, rfl⟩ := hmem
  have hmeets := e.first_le_last
  refine ⟨PortRange.mem_ports.2 ⟨by omega, by omega⟩, ?_, ?_⟩
  · refine List.mem_flatMap.2 ⟨e, he, PortRange.mem_endpoints.2 ⟨htransport.symm, ?_⟩⟩
    exact PortRange.mem_ports.2 ⟨by omega, by omega⟩
  · intro q hq hshared
    obtain ⟨e', he', hq'⟩ := List.mem_flatMap.1 hshared
    obtain ⟨htransport', hports⟩ := PortRange.mem_endpoints.1 hq'
    rw [PortRange.mem_ports] at hq hports
    have hbound := hleast (max e'.first r.first) ⟨e', he', ⟨htransport'.symm, by omega, by omega⟩, rfl⟩
    omega

/-- The endpoints of a range before its least shared port are shared with no earlier range. -/
private theorem exists_split_of_firstShared {earlier : List PortRange} {r : PortRange}
    (h : firstShared earlier r = some p) :
    ∃ before after, r.endpoints = before ++ (r.transport, p) :: after ∧ before.Nodup ∧
      ∀ e ∈ before, e ∉ earlier.flatMap PortRange.endpoints := by
  obtain ⟨hp, -, hleast⟩ := shared_of_firstShared h
  obtain ⟨below, above, hsplit⟩ := List.append_of_mem hp
  have hsorted : (below ++ p :: above).Pairwise (· < ·) := by
    rw [← hsplit]
    exact List.pairwise_lt_range'
  have hendpoints : r.endpoints = below.map (r.transport, ·) ++ (r.transport, p) :: above.map (r.transport, ·) := by
    rw [PortRange.endpoints, hsplit, List.map_append, List.map_cons]
  refine ⟨below.map (r.transport, ·), above.map (r.transport, ·), hendpoints, ?_, ?_⟩
  · have hnodup := r.nodup_endpoints
    rw [hendpoints] at hnodup
    exact (List.nodup_append.1 hnodup).1
  · intro e he hshared
    obtain ⟨q, hq, rfl⟩ := List.mem_map.1 he
    have hlt := (List.pairwise_append.1 hsorted).2.2 q hq p List.mem_cons_self
    have hle := hleast q (by rw [hsplit]; exact List.mem_append_left _ hq) hshared
    omega

/-- What the search finds occurred before, and nothing before it did.  The ranges that were passed are the earlier
ones of the rest, so the induction keeps what is known of their endpoints. -/
theorem repeated_of_duplicateAmong {earlier ranges : List PortRange} {e : Endpoint}
    (h : duplicateAmong earlier ranges = some e) :
    ∃ before after, ranges.flatMap PortRange.endpoints = before ++ e :: after ∧ before.Nodup ∧
      (∀ d ∈ before, d ∉ earlier.flatMap PortRange.endpoints) ∧
      (e ∈ before ∨ e ∈ earlier.flatMap PortRange.endpoints) := by
  induction ranges generalizing earlier with
  | nil => cases h
  | cons r rs ih =>
    unfold duplicateAmong at h
    rw [List.flatMap_cons]
    cases hshared : firstShared earlier r with
    | some p =>
      rw [hshared] at h
      obtain rfl := Option.some.inj h
      obtain ⟨before, after, hsplit, hnodup, hfresh⟩ := exists_split_of_firstShared hshared
      refine ⟨before, after ++ rs.flatMap PortRange.endpoints, ?_, hnodup, hfresh, ?_⟩
      · rw [hsplit, List.append_assoc, List.cons_append]
      · exact .inr (shared_of_firstShared hshared).2.1
    | none =>
      rw [hshared] at h
      obtain ⟨before, after, hsplit, hnodup, hfresh, he⟩ := ih h
      simp only [List.flatMap_cons, List.mem_append, not_or] at hfresh he
      have hapart : ∀ d ∈ r.endpoints, d ∉ earlier.flatMap PortRange.endpoints := by
        intro d hd hmem
        obtain ⟨e', he', hd'⟩ := List.mem_flatMap.1 hmem
        have hdisjoint := PortRange.disjoint_endpoints_iff.2 (firstShared_eq_none_iff.1 hshared e' he')
        exact hdisjoint hd' hd
      refine ⟨r.endpoints ++ before, after, by rw [hsplit, List.append_assoc], ?_, ?_, ?_⟩
      · rw [List.nodup_append]
        refine ⟨r.nodup_endpoints, hnodup, ?_⟩
        rintro d hd d' hd' rfl
        exact (hfresh d hd').1 hd
      · intro d hd
        rcases List.mem_append.1 hd with hd | hd
        · exact hapart d hd
        · exact (hfresh d hd).2
      · rcases he with he | he | he
        · exact .inl (List.mem_append_right _ he)
        · exact .inl (List.mem_append_left _ he)
        · exact .inr he

theorem firstRepeated_of_duplicateAmong {e : Endpoint} (h : duplicateAmong [] s.ranges = some e) :
    FirstRepeated s.expand e := by
  obtain ⟨before, after, hsplit, hnodup, -, he⟩ := repeated_of_duplicateAmong h
  refine ⟨before, after, hsplit, hnodup, ?_⟩
  rcases he with he | he
  · exact he
  · cases he

/-- A set is refused for the first of its ports that occurred before. -/
theorem check_eq_error_iff {failure : PortError} :
    s.check = .error failure ↔ ∃ t p, FirstRepeated s.expand (t, p) ∧ failure = .duplicate t p := by
  have hfound : ∀ t p, FirstRepeated s.expand (t, p) ↔ duplicateAmong [] s.ranges = some (t, p) := by
    intro t p
    refine ⟨fun h => ?_, firstRepeated_of_duplicateAmong⟩
    cases hsearch : duplicateAmong [] s.ranges with
    | none =>
      have hok : s.check = .ok () := by rw [check, hsearch]
      exact absurd (check_eq_ok_iff.1 hok) h.not_nodup
    | some e => rw [(firstRepeated_of_duplicateAmong hsearch).unique h]
  simp only [hfound]
  unfold check
  split
  · rename_i t p hsearch
    rw [hsearch, Except.error.injEq]
    constructor
    · rintro rfl
      exact ⟨t, p, rfl, rfl⟩
    · rintro ⟨t', p', heq, rfl⟩
      cases heq
      rfl
  · rename_i hsearch
    rw [hsearch]
    refine iff_of_false (by simp) ?_
    rintro ⟨t, p, heq, -⟩
    cases heq

/-! ### The ports of either transport -/

/-- The ranges of a transport. -/
def rangesOf (s : PortSet) : Transport → List PortRange
  | .tcp => s.tcp
  | .udp => s.udp

/-- The ports of a transport in the order of its ranges. -/
def portsOf (s : PortSet) (t : Transport) : List Nat := (s.rangesOf t).flatMap PortRange.ports

/-- Some range of a transport covers a port. -/
def Covers (s : PortSet) (t : Transport) (p : Nat) : Prop := ∃ r ∈ s.rangesOf t, r.first ≤ p ∧ p ≤ r.last

/-- Every range stands with its transport. -/
def Assigned (s : PortSet) : Prop := ∀ t, ∀ r ∈ s.rangesOf t, r.transport = t

theorem assigned_of_read {tcp udp : String} (h : read tcp udp = .ok s) : s.Assigned := by
  obtain ⟨htcp, hudp⟩ := read_eq_ok_iff.1 h
  intro t
  cases t with
  | tcp => exact transport_of_readRanges htcp
  | udp => exact transport_of_readRanges hudp

theorem mem_portsOf : p ∈ s.portsOf t ↔ s.Covers t p := by
  simp only [portsOf, Covers, List.mem_flatMap, PortRange.mem_ports]

theorem flatMap_endpoints_rangesOf (h : s.Assigned) (t : Transport) :
    (s.rangesOf t).flatMap PortRange.endpoints = (s.portsOf t).map (t, ·) := by
  rw [portsOf, List.map_flatMap]
  apply List.flatMap_congr
  intro r hr
  rw [PortRange.endpoints, h t r hr]

theorem expand_eq_of_assigned (h : s.Assigned) :
    s.expand = (s.portsOf .tcp).map (.tcp, ·) ++ (s.portsOf .udp).map (.udp, ·) := by
  rw [expand_eq, ranges, List.flatMap_append, ← flatMap_endpoints_rangesOf h, ← flatMap_endpoints_rangesOf h]
  rfl

theorem mem_expand (h : s.Assigned) : (t, p) ∈ s.expand ↔ s.Covers t p := by
  rw [expand_eq_of_assigned h, List.mem_append, ← mem_portsOf]
  cases t with
  | tcp => simp
  | udp => simp

theorem nodup_expand_iff (h : s.Assigned) : s.expand.Nodup ↔ ∀ t, (s.portsOf t).Nodup := by
  have hmap (t : Transport) : ((s.portsOf t).map fun p => (t, p)).Nodup ↔ (s.portsOf t).Nodup :=
    List.nodup_map_iff fun _ _ heq => (Prod.mk.inj heq).2
  have happart : ∀ a ∈ (s.portsOf .tcp).map (Transport.tcp, ·), ∀ b ∈ (s.portsOf .udp).map (Transport.udp, ·),
      a ≠ b := by
    intro a ha b hb
    obtain ⟨p, -, rfl⟩ := List.mem_map.1 ha
    obtain ⟨q, -, rfl⟩ := List.mem_map.1 hb
    simp
  rw [expand_eq_of_assigned h, List.nodup_append, hmap, hmap]
  constructor
  · rintro ⟨htcp, hudp, -⟩ t
    cases t with
    | tcp => exact htcp
    | udp => exact hudp
  · intro hports
    exact ⟨hports .tcp, hports .udp, happart⟩

/-! ### Counting -/

theorem length_expand (s : PortSet) : s.expand.length = s.count := by
  rw [expand_eq, List.length_flatMap, count_eq_sum]
  congr 1
  apply List.map_congr_left
  intro r _
  rw [PortRange.endpoints, List.length_map, PortRange.length_ports]

theorem portCount_eq (h : s.Assigned) (t : Transport) : Outcome.portCount s t = (s.portsOf t).length := by
  rw [Outcome.portCount, expand_eq_of_assigned h, List.filter_append, List.length_append]
  cases t with
  | tcp => simp [List.filter_map, Function.comp_def]
  | udp => simp [List.filter_map, Function.comp_def]

/-- How many ports are covered, each counted once. -/
noncomputable def covered (s : PortSet) (t : Transport) : Nat := {p | s.Covers t p}.ncard

theorem length_portsOf (h : (s.portsOf t).Nodup) : (s.portsOf t).length = s.covered t := by
  have hset : {p | s.Covers t p} = ((s.portsOf t).toFinset : Set Nat) := by
    ext p
    simp [mem_portsOf]
  rw [covered, hset, Set.ncard_coe_finset, List.toFinset_card_of_nodup h]

/-- There are not more ports than numbers of 16 bits but zero. -/
theorem length_portsOf_le (h : (s.portsOf t).Nodup) : (s.portsOf t).length ≤ 65535 := by
  have hsub : (s.portsOf t).toFinset ⊆ Finset.Icc 1 65535 := by
    intro p hp
    obtain ⟨r, -, hfirst, hlast⟩ := mem_portsOf.1 (List.mem_toFinset.1 hp)
    have hone := r.one_le_first
    have htop := r.last_le
    exact Finset.mem_Icc.2 ⟨by omega, by omega⟩
  have hcard := Finset.card_le_card hsub
  rwa [List.toFinset_card_of_nodup h, Nat.card_Icc] at hcard

theorem count_le_of_nodup (hassigned : s.Assigned) (h : s.expand.Nodup) : s.count ≤ 131070 := by
  have hports := (nodup_expand_iff hassigned).1 h
  have htcp := length_portsOf_le (hports .tcp)
  have hudp := length_portsOf_le (hports .udp)
  rw [← length_expand, expand_eq_of_assigned hassigned, List.length_append, List.length_map, List.length_map]
  omega

/-- Expressions without a repeated port are answered with the ports that each transport covers. -/
theorem checkPorts_of_readChecked {tcp udp : String} (h : readChecked tcp udp = .ok s) :
    Outcome.checkPorts tcp udp =
      .finished 0 s!"tcp: {s.covered .tcp} port(s)\nudp: {s.covered .udp} port(s)\n" "" := by
  obtain ⟨hread, hnodup⟩ := readChecked_eq_ok_iff.1 h
  have hassigned := assigned_of_read hread
  have hports := (nodup_expand_iff hassigned).1 hnodup
  rw [Outcome.checkPorts, h]
  simp only [portCount_eq hassigned, length_portsOf (hports _)]

/-- What is listed, counted and searched of a set that was read is one thing: a port is listed exactly if a range of
its transport covers it, as many are listed as are counted, and the set passes exactly if nothing is listed twice,
whatever the other transport has, and is refused for the first port in the list that occurred before otherwise.  The
words of the machine never wrap: not in the size and the ports of a range, and not in the count of a set that passes or
has up to 2^48 ranges.  A set that passes is answered with how many ports each transport covers. -/
theorem expansion_agrees {tcp udp : String} (h : read tcp udp = .ok s) :
    (∀ t p, (t, p) ∈ s.expand ↔ s.Covers t p) ∧
      s.expand.length = s.count ∧
      (s.check = .ok () ↔ s.expand.Nodup) ∧
      (∀ failure, s.check = .error failure ↔ ∃ t p, FirstRepeated s.expand (t, p) ∧ failure = .duplicate t p) ∧
      (s.check = .ok () ↔ ∀ t, (s.portsOf t).Nodup) ∧
      (∀ r ∈ s.ranges, r.wordSize.toNat = r.size ∧
        (PortRange.countUp r.firstWord r.lastWord).map UInt16.toNat = r.ports) ∧
      (s.ranges.length ≤ 2 ^ 48 → s.wordCount.toNat = s.count) ∧
      (readChecked tcp udp = .ok s →
        s.wordCount.toNat = s.count ∧
          Outcome.checkPorts tcp udp =
            .finished 0 s!"tcp: {s.covered .tcp} port(s)\nudp: {s.covered .udp} port(s)\n" "") := by
  have hassigned := assigned_of_read h
  refine ⟨fun t p => mem_expand hassigned, length_expand s, check_eq_ok_iff, fun _ => check_eq_error_iff,
    check_eq_ok_iff.trans (nodup_expand_iff hassigned), ?_, toNat_wordCount, ?_⟩
  · intro r _
    exact ⟨r.toNat_wordSize, r.map_toNat_countUp_ports⟩
  · intro hchecked
    have hcount := count_le_of_nodup hassigned (readChecked_eq_ok_iff.1 hchecked).2
    exact ⟨toNat_wordCount_of_lt (by omega), checkPorts_of_readChecked hchecked⟩

/-- A range that ends at the last port of all, and a port that both transports have. -/
theorem expansion_agrees_upper_end :
    let s : PortSet :=
      ⟨[⟨.tcp, 65534, 65535, by decide, by decide, by decide⟩, ⟨.tcp, 53, 53, by decide, by decide, by decide⟩],
        [⟨.udp, 53, 53, by decide, by decide, by decide⟩]⟩
    read "65534-65535, 53" "53" = .ok s ∧ readChecked "65534-65535, 53" "53" = .ok s ∧ s.wordCount.toNat = 4 ∧
      Outcome.checkPorts "65534-65535, 53" "53" = .finished 0 "tcp: 3 port(s)\nudp: 1 port(s)\n" "" := by
  intro s
  have hread : read "65534-65535, 53" "53" = .ok s := by rfl
  have hchecked : readChecked "65534-65535, 53" "53" = .ok s := by rfl
  obtain ⟨-, -, -, -, -, -, -, hpassed⟩ := expansion_agrees hread
  obtain ⟨hcount, hanswer⟩ := hpassed hchecked
  have htcp : s.covered .tcp = 3 := (length_portsOf (by decide)).symm
  have hudp : s.covered .udp = 1 := (length_portsOf (by decide)).symm
  rw [htcp, hudp] at hanswer
  exact ⟨hread, hchecked, hcount, hanswer⟩

end PortSet

end AccessGateway
