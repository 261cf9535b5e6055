import AccessGateway.Port.Polling
import AccessGateway.Proofs.Port.Announcement
import AccessGateway.Proofs.Port.Listening

/-!
# Polling

A poll passes a fetched set on as text, which reads as that set again, so there are three ways it can go
(`polls_pollOnce`): the set is the stored one and something is open, or the listeners are replaced by those of the
set, or none of its ports can be bound.  After one of the first two the next poll with the same answer finds nothing
to do, unless the set is empty (`pollOnce_settles`).  That nothing but fetched ports is open then holds because what is
open belongs to the stored ranges, as long as no other ranges are stored beside a running set (`Prepared.covered`).
-/

namespace AccessGateway

namespace DynamicPorts

variable {d : DynamicPorts} {bind : Binding} {s : PortSet} {tcp udp : String}

/-! ### One poll -/

/-- A set that can be written out and read again. -/
def Rereads (s : PortSet) : Prop := PortSet.readChecked s.tcpExpression s.udpExpression = .ok s

/-- The three ways a poll can go, with what is left after each. -/
inductive Polls (bind : Binding) (s : PortSet) (d : DynamicPorts) : Except Failure Bool × DynamicPorts → Prop where
  | current (hranges : d.ranges = s) (hopen : d.listeners ≠ []) : Polls bind s d (.ok false, d)
  | replaced (hbound : bound bind s.expand = [] → s.expand = []) :
      Polls bind s d (.ok true, ⟨s, some ⟨d.starts, bound bind s.expand⟩, d.starts + 1⟩)
  | failed (f : Failure) (hports : s.expand ≠ []) (hbound : bound bind s.expand = []) :
      Polls bind s d (.error f, ⟨s, none, d.starts⟩)

theorem snd_apply (bind : Binding) (s : PortSet) (d : DynamicPorts) :
    (d.apply bind s).2 = (d.reconfigure bind s.tcpExpression s.udpExpression).2 := by
  unfold apply
  rfl

theorem isCurrent_iff : d.isCurrent s = true ↔ d.ranges = s ∧ d.listeners ≠ [] := by
  rw [isCurrent, Bool.and_eq_true, decide_eq_true_eq, decide_eq_true_eq, listenerCount, List.length_pos_iff, eq_comm]

theorem polls_pollOnce (hs : Rereads s) (bind : Binding) (d : DynamicPorts) :
    Polls bind s d (d.pollOnce bind (.ok s)) := by
  unfold pollOnce
  dsimp only
  split
  · rename_i hcurrent
    obtain ⟨hranges, hopen⟩ := isCurrent_iff.1 hcurrent
    exact .current hranges hopen
  · unfold apply
    rw [reconfigure_of_ok hs]
    have hnodup : s.expand.Nodup := (PortSet.readChecked_eq_ok_iff.1 hs).2
    have hstart := starts_start bind { d.stop with ranges := s }
    revert hstart
    generalize start bind { d.stop with ranges := s } = r
    -- the manager was stopped before and the set was checked, so the start ends in one of the last two ways
    rintro (hrunning | ⟨-, hrepeated⟩ | ⟨-, -, hports, -, hall⟩ | ⟨-, -, hbound⟩)
    · cases hrunning
    · rw [PortSet.check_eq_ok_iff.2 hnodup] at hrepeated
      cases hrepeated
    · refine .failed _ ?_ (bound_eq_nil_iff.2 hall)
      rw [hports]
      exact List.cons_ne_nil _ _
    · exact .replaced hbound

/-- A poll that succeeds leaves the fetched ranges, and what is open are the ports of them that could be bound, or
what was open before. -/
theorem pollOnce_of_ok (hs : Rereads s) {replaced : Bool} (h : (d.pollOnce bind (.ok s)).1 = .ok replaced) :
    (d.pollOnce bind (.ok s)).2.ranges = s ∧
      ((d.pollOnce bind (.ok s)).2.listeners = [] ↔ replaced = true ∧ s.expand = []) ∧
      ((d.pollOnce bind (.ok s)).2.listeners = bound bind s.expand ∨ (d.pollOnce bind (.ok s)).2 = d) := by
  have hpolls := polls_pollOnce hs bind d
  revert h hpolls
  generalize d.pollOnce bind (.ok s) = r
  rintro h (⟨hranges, hopen⟩ | ⟨hbound⟩ | _)
  · obtain rfl := Except.ok.inj h
    refine ⟨hranges, ?_, .inr rfl⟩
    simp only [hopen, Bool.false_eq_true, false_and]
  · obtain rfl := Except.ok.inj h
    refine ⟨rfl, ?_, .inl rfl⟩
    constructor
    · exact fun hnil => ⟨rfl, hbound hnil⟩
    · rintro ⟨-, hnil⟩
      show bound bind s.expand = []
      rw [hnil]
      rfl
  · cases h

/-- After a poll that succeeded with a set of ports the same set leaves nothing to do. -/
theorem pollOnce_settles (hs : Rereads s) (hports : s.expand ≠ []) {replaced : Bool}
    (h : (d.pollOnce bind (.ok s)).1 = .ok replaced) (again : Binding) :
    (d.pollOnce bind (.ok s)).2.pollOnce again (.ok s) = (.ok false, (d.pollOnce bind (.ok s)).2) := by
  obtain ⟨hranges, hnil, -⟩ := pollOnce_of_ok hs h
  have hopen : (d.pollOnce bind (.ok s)).2.listeners ≠ [] := fun hclosed => hports (hnil.1 hclosed).2
  generalize d.pollOnce bind (.ok s) = r at hranges hopen
  unfold pollOnce
  dsimp only
  rw [if_pos (isCurrent_iff.2 ⟨hranges, hopen⟩)]

theorem rereads_of_accept {gatewayId : String} {a : PortAnnouncement} (h : a.accept gatewayId = .ok s) : Rereads s :=
  PortSet.readChecked_expressions (PortAnnouncement.accept_eq_ok_iff.1 h).2.2

/-! ### Open ports -/

/-- The managers that a gateway can have: ranges are stored alone only while no set is open, as before the first
start, and starts, stops, reconfigurations and polls follow in any order. -/
inductive Prepared : DynamicPorts → Prop where
  | fresh : Prepared {}
  | assign {d : DynamicPorts} (h : Prepared d) (hstopped : d.active = none) (tcp udp : String) :
      Prepared (d.assign tcp udp).2
  | start {d : DynamicPorts} (h : Prepared d) (bind : Binding) : Prepared (d.start bind).2
  | stop {d : DynamicPorts} (h : Prepared d) : Prepared d.stop
  | reconfigure {d : DynamicPorts} (h : Prepared d) (bind : Binding) (tcp udp : String) :
      Prepared (d.reconfigure bind tcp udp).2
  | poll {d : DynamicPorts} (h : Prepared d) (bind : Binding) (fetched : Except Failure PortSet) :
      Prepared (d.pollOnce bind fetched).2

/-- What is open belongs to the stored ranges. -/
def Covered (d : DynamicPorts) : Prop := ∀ e ∈ d.listeners, e ∈ d.ranges.expand

theorem covered_of_stopped (h : d.active = none) : d.Covered := by
  intro e he
  rw [listeners, h] at he
  cases he

theorem covered_start (h : d.Covered) (bind : Binding) : (d.start bind).2.Covered := by
  cases hresult : (d.start bind).1 with
  | error f => rwa [start_of_error hresult]
  | ok n =>
    intro e he
    rw [(listeners_start_of_ok hresult).1] at he
    rw [ranges_start]
    exact List.mem_of_mem_filter he

theorem covered_reconfigure (h : d.Covered) (bind : Binding) (tcp udp : String) :
    (d.reconfigure bind tcp udp).2.Covered := by
  cases hread : PortSet.readChecked tcp udp with
  | error e => rwa [reconfigure_of_error hread]
  | ok s =>
    rw [reconfigure_of_ok hread]
    exact covered_start (covered_of_stopped rfl) bind

theorem covered_pollOnce (h : d.Covered) (bind : Binding) (fetched : Except Failure PortSet) :
    (d.pollOnce bind fetched).2.Covered := by
  cases fetched with
  | error f => exact h
  | ok s =>
    unfold pollOnce
    dsimp only
    split
    · exact h
    · rw [snd_apply]
      exact covered_reconfigure h bind _ _

theorem Prepared.covered (h : Prepared d) : d.Covered := by
  induction h with
  | fresh => exact covered_of_stopped rfl
  | assign h hstopped tcp udp ih => exact covered_of_stopped (by rwa [active_assign])
  | start h bind ih => exact covered_start ih bind
  | stop h ih => exact covered_of_stopped rfl
  | reconfigure h bind tcp udp ih => exact covered_reconfigure ih bind tcp udp
  | poll h bind fetched ih => exact covered_pollOnce ih bind fetched

/-! ### Steady answers -/

/-- A poll that succeeds leaves the ranges that were fetched, with no other port open.  If they are not empty, another
poll that gets the same answer changes nothing, whatever could be bound by now. -/
theorem pollOnce_converges {σ : Type} (p : PortSource) (backend : String → σ → Exchange × σ) (w : σ)
    (hd : Prepared d) (bind : Binding) {replaced : Bool}
    (h : (d.pollOnce bind (p.fetch backend w).1).1 = .ok replaced) :
    let after := (d.pollOnce bind (p.fetch backend w).1).2
    ∃ s, (p.fetch backend w).1 = .ok s ∧ after.ranges = s ∧ (∀ e ∈ after.listeners, e ∈ s.expand) ∧
      (s.expand ≠ [] → ∀ (w' : σ) (again : Binding),
        (∀ url, p.requestUrl = .ok url → (backend url w').1 = (backend url w).1) →
          after.pollOnce again (p.fetch backend w').1 = (.ok false, after)) := by
  intro after
  cases hfetch : (p.fetch backend w).1 with
  | error f =>
    rw [hfetch] at h
    cases h
  | ok s =>
    obtain ⟨a, ha⟩ := PortSource.exists_accept_of_fetch hfetch
    have hs : Rereads s := rereads_of_accept ha
    have hafter : after = (d.pollOnce bind (.ok s)).2 := by rw [← hfetch]
    rw [hfetch] at h
    have hranges : after.ranges = s := by rw [hafter]; exact (pollOnce_of_ok hs h).1
    refine ⟨s, rfl, hranges, ?_, ?_⟩
    · have hcovered := (hd.poll bind (p.fetch backend w).1).covered
      intro e he
      rw [← hranges]
      exact hcovered e he
    · intro hports w' again hsame
      rw [PortSource.fetch_congr hsame, hfetch, hafter]
      exact pollOnce_settles hs hports h again

/-- One of the two announced ports is taken; the next poll leaves the other one alone. -/
theorem pollOnce_converges_one_taken :
    let p : PortSource := ⟨"http://backend/port-config", "gw-1", "", ⟨1000⟩⟩
    let body := Text.bytes "\x7b\"tcp_ranges\":\"22000-22001\"\x7d"
    let backend : String → Unit → Exchange × Unit := fun _ w => (.answered ⟨200, "OK", some body⟩, w)
    let bind : Binding := fun e => if e.2 = 22001 then some "Address already in use" else none
    let after := (pollOnce bind (p.fetch backend ()).1 {}).2
    after.listeners = [(.tcp, 22000)] ∧ after.pollOnce (fun _ => none) (p.fetch backend ()).1 = (.ok false, after) := by
  intro p body backend bind after
  have hreplaced : (pollOnce bind (p.fetch backend ()).1 {}).1 = .ok true := by decide +kernel
  obtain ⟨s, hs, hranges, -, hagain⟩ := pollOnce_converges p backend () .fresh bind hreplaced
  refine ⟨by decide +kernel, hagain ?_ () _ fun _ _ => rfl⟩
  rw [← hranges]
  decide +kernel

/-! ### Announcements without a port -/

/-- An accepted announcement is meant for this gateway and gives valid ports, none of them twice; but it gives none at
all if it has nothing but commas and blanks, and some such announcements are accepted.  They are what makes a poll that
succeeds leave nothing open. -/
theorem accepted_ports (gatewayId : String) (a : PortAnnouncement) :
    (∀ s, a.accept gatewayId = .ok s → a.AddressedTo gatewayId ∧ s.expand.Nodup ∧
      (∀ e ∈ s.expand, 1 ≤ e.2 ∧ e.2 ≤ 65535) ∧ (s.expand = [] ↔ a.NamesNoPort)) ∧
    (a.accept gatewayId = .ok .empty ↔
      a.AddressedTo gatewayId ∧ a.NamesNoPort ∧ ∃ expr ∈ a.expressions, ',' ∈ expr.toList) ∧
    ∀ (d : DynamicPorts) (bind : Binding) (replaced : Bool),
      (d.pollOnce bind (a.accept gatewayId)).1 = .ok replaced →
        ((d.pollOnce bind (a.accept gatewayId)).2.listeners = [] ↔
          replaced = true ∧ a.accept gatewayId = .ok .empty) := by
  refine ⟨?_, PortAnnouncement.accept_eq_empty_iff, ?_⟩
  · intro s h
    obtain ⟨haddressed, -, hread⟩ := PortAnnouncement.accept_eq_ok_iff.1 h
    exact ⟨haddressed, (PortSet.readChecked_eq_ok_iff.1 hread).2, fun e he => PortSet.valid_of_mem_expand he,
      (PortAnnouncement.namesNoPort_iff h).symm⟩
  · intro d bind replaced hpoll
    cases h : a.accept gatewayId with
    | error f =>
      rw [h] at hpoll
      cases hpoll
    | ok s =>
      rw [h] at hpoll
      rw [(pollOnce_of_ok (rereads_of_accept h) hpoll).2.1, PortSet.expand_eq_nil_iff, Except.ok.injEq]

/-- A single comma is accepted, and the poll that applies it closes the one listener there is. -/
theorem not_refused_comma :
    let a : PortAnnouncement := ⟨some "gw-1", ",", "", []⟩
    let d := run {} [.assign "22000" "", .start fun _ => none]
    let after := d.pollOnce (fun _ => none) (a.accept "gw-1")
    a.accept "gw-1" = .ok .empty ∧ d.listeners = [(.tcp, 22000)] ∧ after.1 = .ok true ∧ after.2.listeners = [] := by
  decide +kernel

end DynamicPorts

end AccessGateway
