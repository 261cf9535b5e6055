import AccessGateway.Port.Set
import Mathlib.Data.List.Nodup

/-!
# Sets without a repeated port

The search for a repeated port compares ranges by their ends and never lists a port. The key fact: it finds nothing
exactly when the list of all ports has no repetition (`check_eq_ok_iff`), because two ranges of one transport share a
port exactly when neither ends before the other starts (`disjoint_endpoints_iff`).
-/

namespace AccessGateway

namespace PortRange

/-- The ports of a range, each with its transport. -/
def endpoints (r : PortRange) : List Endpoint := r.ports.map (r.transport, ·)

/-- Two ranges of one transport overlap. -/
def Meets (a b : PortRange) : Prop := a.transport = b.transport ∧ a.first ≤ b.last ∧ b.first ≤ a.last

theorem mem_endpoints {r : PortRange} {e : Endpoint} : e ∈ r.endpoints ↔ e.1 = r.transport ∧ e.2 ∈ r.ports := by
  simp only [endpoints, List.mem_map]
  constructor
  · rintro ⟨p, hp, rfl⟩
    exact ⟨rfl, hp⟩
  · rintro ⟨ht, hp⟩
    exact ⟨e.2, hp, Prod.ext ht.symm rfl⟩

theorem endpoints_ne_nil (r : PortRange) : r.endpoints ≠ [] := by
  have h : (r.transport, r.first) ∈ r.endpoints :=
    mem_endpoints.2 ⟨rfl, mem_ports.2 ⟨Nat.le_refl r.first, r.first_le_last⟩⟩
  exact List.ne_nil_of_mem h

theorem nodup_endpoints (r : PortRange) : r.endpoints.Nodup :=
  r.nodup_ports.map fun _ _ h => (Prod.mk.inj h).2

theorem disjoint_endpoints_iff {a b : PortRange} : List.Disjoint a.endpoints b.endpoints ↔ ¬ a.Meets b := by
  constructor
  · rintro hdisjoint ⟨ht, h₁, h₂⟩
    -- the later of the two first ports lies in both ranges
    have ha := a.first_le_last
    have hb := b.first_le_last
    apply hdisjoint (a := (a.transport, max a.first b.first))
    · exact mem_endpoints.2 ⟨rfl, mem_ports.2 ⟨by omega, by omega⟩⟩
    · exact mem_endpoints.2 ⟨ht, mem_ports.2 ⟨by omega, by omega⟩⟩
  · intro hmeets e hea heb
    obtain ⟨hta, hpa⟩ := mem_endpoints.1 hea
    obtain ⟨htb, hpb⟩ := mem_endpoints.1 heb
    rw [mem_ports] at hpa hpb
    exact hmeets ⟨hta.symm.trans htb, by omega, by omega⟩

end PortRange

namespace PortSet

theorem expand_eq (s : PortSet) : s.expand = s.ranges.flatMap PortRange.endpoints := rfl

theorem expand_eq_nil_iff {s : PortSet} : s.expand = [] ↔ s = empty := by
  rw [expand_eq, List.flatMap_eq_nil_iff]
  constructor
  · intro h
    have hranges : s.ranges = [] := by
      rw [List.eq_nil_iff_forall_not_mem]
      exact fun r hr => r.endpoints_ne_nil (h r hr)
    obtain ⟨htcp, hudp⟩ := List.append_eq_nil_iff.1 hranges
    cases s
    simp only [empty, mk.injEq]
    exact ⟨htcp, hudp⟩
  · rintro rfl r hr
    cases hr

/-- Every port of a set is a valid one. -/
theorem valid_of_mem_expand {s : PortSet} {e : Endpoint} (h : e ∈ s.expand) : 1 ≤ e.2 ∧ e.2 ≤ 65535 := by
  rw [expand_eq, List.mem_flatMap] at h
  obtain ⟨r, -, he⟩ := h
  obtain ⟨hfirst, hlast⟩ := PortRange.mem_ports.1 (PortRange.mem_endpoints.1 he).2
  exact ⟨Nat.le_trans r.one_le_first hfirst, Nat.le_trans hlast r.last_le⟩

theorem firstShared_eq_none_iff {earlier : List PortRange} {r : PortRange} :
    firstShared earlier r = none ↔ ∀ e ∈ earlier, ¬ e.Meets r := by
  simp only [firstShared, List.min?_eq_none_iff, List.filterMap_eq_nil_iff, PortRange.Meets]
  constructor
  · intro h e he hmeets
    have := h e he
    rw [if_pos hmeets] at this
    cases this
  · intro h e he
    exact if_neg (h e he)

theorem duplicateAmong_eq_none_iff {earlier ranges : List PortRange} :
    duplicateAmong earlier ranges = none ↔
      (∀ e ∈ earlier, ∀ r ∈ ranges, ¬ e.Meets r) ∧ ranges.Pairwise fun a b => ¬ a.Meets b := by
  induction ranges generalizing earlier with
  | nil => simp [duplicateAmong]
  | cons r rs ih =>
    unfold duplicateAmong
    split
    · rename_i p hp
      have hshared : ¬ ∀ e ∈ earlier, ¬ e.Meets r := by
        rw [← firstShared_eq_none_iff, hp]
        exact Option.some_ne_none p
      simp only [reduceCtorEq, false_iff, not_and]
      intro h
      exact absurd (fun e he => h e he r List.mem_cons_self) hshared
    · rename_i hnone
      rw [firstShared_eq_none_iff] at hnone
      rw [ih, List.pairwise_cons]
      constructor
      · rintro ⟨hearlier, hpairs⟩
        refine ⟨?_, hearlier r List.mem_cons_self, hpairs⟩
        intro e he r' hr'
        rcases List.mem_cons.1 hr' with rfl | hr'
        · exact hnone e he
        · exact hearlier e (List.mem_cons_of_mem r he) r' hr'
      · rintro ⟨hearlier, hr, hpairs⟩
        refine ⟨?_, hpairs⟩
        intro e he r' hr'
        rcases List.mem_cons.1 he with rfl | he
        · exact hr r' hr'
        · exact hearlier e he r' (List.mem_cons_of_mem r hr')

/-- A set passes the check exactly when no port of one transport occurs twice in its expansion. -/
theorem check_eq_ok_iff {s : PortSet} : s.check = .ok () ↔ s.expand.Nodup := by
  have hnone : s.check = .ok () ↔ duplicateAmong [] s.ranges = none := by
    unfold check
    split
    · rename_i h
      simp [h]
    · rename_i h
      simp [h]
  rw [hnone, duplicateAmong_eq_none_iff, expand_eq, List.nodup_flatMap]
  constructor
  · rintro ⟨-, hpairs⟩
    exact ⟨fun r _ => r.nodup_endpoints, hpairs.imp PortRange.disjoint_endpoints_iff.2⟩
  · rintro ⟨-, hpairs⟩
    refine ⟨?_, hpairs.imp PortRange.disjoint_endpoints_iff.1⟩
    intro e he
    cases he

theorem readChecked_eq_ok_iff {tcp udp : String} {s : PortSet} :
    readChecked tcp udp = .ok s ↔ read tcp udp = .ok s ∧ s.expand.Nodup := by
  rw [← check_eq_ok_iff]
  unfold readChecked
  cases read tcp udp with
  | error e => simp [bind, Except.bind]
  | ok s' =>
    cases hcheck : s'.check with
    | error e =>
      simp only [bind, Except.bind, hcheck, reduceCtorEq, false_iff, Except.ok.injEq, not_and]
      rintro rfl
      simp [hcheck]
    | ok _ =>
      simp only [bind, Except.bind, hcheck, pure, Except.pure, Except.ok.injEq]
      constructor
      · rintro rfl
        exact ⟨rfl, hcheck⟩
      · exact And.left

end PortSet

end AccessGateway
