import AccessGateway.Port.Polling
import AccessGateway.Proofs.Port.Listening

/-!
# Failed reconfigurations

New ranges that cannot be read are refused before anything is touched. Otherwise the open set is closed and the new
ranges are stored before the first port is bound, so when none of the new ports can be bound there is nothing to go
back to: the manager is left stopped, with the ranges it could not open (`closed_of_reconfigure_error`). A failed
reconfiguration therefore keeps what it found only if the new ranges could not be read, or if they are the stored ones
and no listener was open (`keeps_iff_of_error`).
-/

namespace AccessGateway.DynamicPorts

/-- The second state has the stored ranges and the open listeners of the first. -/
structure Keeps (d d' : DynamicPorts) : Prop where
  ranges_eq : d'.ranges = d.ranges
  listeners_eq : d'.listeners = d.listeners

/-- New ranges that cannot take anything away: they cannot be read, or they are the stored ones and no listener is
open. -/
def Harmless (d : DynamicPorts) (tcp udp : String) : Prop :=
  ∀ s, PortSet.readChecked tcp udp = .ok s → d.ranges = s ∧ d.listeners = []

/-- What a failed reconfiguration leaves. -/
structure Leaves (d : DynamicPorts) (bind : Binding) (tcp udp : String) (d' : DynamicPorts) : Prop where
  keeps_iff : d.Keeps d' ↔ d.Harmless tcp udp
  unread : ∀ e, PortSet.readChecked tcp udp = .error e → d' = d
  closed : ∀ s, PortSet.readChecked tcp udp = .ok s → Unbindable bind s ∧ d' = { d.stop with ranges := s }

variable {d : DynamicPorts} {bind : Binding} {tcp udp : String} {f : Failure}

theorem keeps_refl (d : DynamicPorts) : d.Keeps d := ⟨rfl, rfl⟩

theorem keeps_stop_iff {s : PortSet} : d.Keeps { d.stop with ranges := s } ↔ d.ranges = s ∧ d.listeners = [] := by
  constructor
  · rintro ⟨hranges, hlisteners⟩
    exact ⟨hranges.symm, hlisteners.symm⟩
  · rintro ⟨hranges, hlisteners⟩
    exact ⟨hranges.symm, hlisteners.symm⟩

/-- A reconfiguration that fails although the new ranges can be read leaves no listener open. -/
theorem closed_of_reconfigure_error {s : PortSet} (hread : PortSet.readChecked tcp udp = .ok s)
    (h : (d.reconfigure bind tcp udp).1 = .error f) :
    Unbindable bind s ∧ (d.reconfigure bind tcp udp).2 = { d.stop with ranges := s } := by
  rw [reconfigure_of_ok hread] at h ⊢
  refine ⟨?_, start_of_error h⟩
  have hnodup : s.expand.Nodup := (PortSet.readChecked_eq_ok_iff.1 hread).2
  -- the check has been passed already, so only the binding can have failed
  rcases (exists_error_start_iff rfl).1 ⟨f, h⟩ with hrepeated | hunbindable
  · exact absurd hnodup hrepeated
  · exact hunbindable

theorem leaves_of_reconfigure_error (h : (d.reconfigure bind tcp udp).1 = .error f) :
    d.Leaves bind tcp udp (d.reconfigure bind tcp udp).2 := by
  cases hread : PortSet.readChecked tcp udp with
  | error e =>
    rw [reconfigure_of_error hread]
    have hharmless : d.Harmless tcp udp := by
      intro s hs
      rw [hread] at hs
      cases hs
    refine ⟨⟨fun _ => hharmless, fun _ => keeps_refl d⟩, fun _ _ => rfl, ?_⟩
    intro s hs
    rw [hread] at hs
    cases hs
  | ok s =>
    obtain ⟨hunbindable, hafter⟩ := closed_of_reconfigure_error hread h
    rw [hafter]
    refine ⟨?_, ?_, ?_⟩
    · rw [keeps_stop_iff]
      constructor
      · intro hkept s' hs'
        obtain rfl := Except.ok.inj (hread.symm.trans hs')
        exact hkept
      · exact fun hharmless => hharmless s hread
    · intro e he
      rw [hread] at he
      cases he
    · intro s' hs'
      obtain rfl := Except.ok.inj (hread.symm.trans hs')
      exact ⟨hunbindable, rfl⟩

/-- A poll fails with the fetch or with the reconfiguration it asks for. -/
theorem error_pollOnce {fetched : Except Failure PortSet} (h : (d.pollOnce bind fetched).1 = .error f) :
    fetched = .error f ∧ (d.pollOnce bind fetched).2 = d ∨
      ∃ s, fetched = .ok s ∧ (d.reconfigure bind s.tcpExpression s.udpExpression).1 = .error f ∧
        (d.pollOnce bind fetched).2 = (d.reconfigure bind s.tcpExpression s.udpExpression).2 := by
  cases fetched with
  | error e =>
    left
    exact ⟨congrArg _ (Except.error.inj h), rfl⟩
  | ok s =>
    right
    refine ⟨s, rfl, ?_⟩
    by_cases hcurrent : d.isCurrent s
    · simp only [pollOnce, if_pos hcurrent] at h
      cases h
    · simp only [pollOnce, if_neg hcurrent, apply] at h ⊢
      refine ⟨?_, trivial⟩
      cases hresult : (d.reconfigure bind s.tcpExpression s.udpExpression).1 with
      | error e =>
        rw [hresult] at h
        exact congrArg _ (Except.error.inj h)
      | ok n =>
        rw [hresult] at h
        cases h

/-- Exactly when a failure leaves the stored ranges and the open listeners as they were, and what it leaves otherwise.
A poll fails with its fetch, and then nothing is touched, or with the reconfiguration to what was fetched. -/
theorem keeps_iff_of_error (d : DynamicPorts) (bind : Binding) (tcp udp : String) (fetched : Except Failure PortSet) :
    (∀ f, (d.reconfigure bind tcp udp).1 = .error f → d.Leaves bind tcp udp (d.reconfigure bind tcp udp).2) ∧
    (∀ f, (d.pollOnce bind fetched).1 = .error f →
      (fetched = .error f ∧ (d.pollOnce bind fetched).2 = d) ∨
        ∃ s, fetched = .ok s ∧ d.Leaves bind s.tcpExpression s.udpExpression (d.pollOnce bind fetched).2) := by
  refine ⟨fun f h => leaves_of_reconfigure_error h, ?_⟩
  intro f h
  rcases error_pollOnce h with hfetch | ⟨s, hs, herror, hafter⟩
  · exact .inl hfetch
  · right
    rw [hafter]
    exact ⟨s, hs, leaves_of_reconfigure_error herror⟩

/-- One listener is open and the only new port is taken: the listener is gone, and so are its ranges. -/
theorem not_keeps_reconfigure_taken :
    let d := run {} [.assign "22000" "", .start fun _ => none]
    let after := d.reconfigure (fun _ => some "Address already in use") "22001" ""
    d.listeners = [(.tcp, 22000)] ∧ after.1 = .error (.listenerBind .tcp 22001 "Address already in use") ∧
      ¬ d.Keeps after.2 := by
  intro d after
  have hopen : d.listeners = [(.tcp, 22000)] := by decide +kernel
  have herror : after.1 = .error (.listenerBind .tcp 22001 "Address already in use") := by rfl
  have hclosed : after.2.listeners = [] := by decide +kernel
  refine ⟨hopen, herror, ?_⟩
  rintro ⟨-, hlisteners⟩
  rw [hopen, hclosed] at hlisteners
  cases hlisteners

end AccessGateway.DynamicPorts
