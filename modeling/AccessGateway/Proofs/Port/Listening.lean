import AccessGateway.Port.Dynamic
import AccessGateway.Proofs.Port.Set
import Mathlib.Data.List.Induction

/-!
# Listening on dynamic ports

The stored ranges may change while listeners are open, so what is open belongs to the ranges of the moment when it was
opened. The key facts: a start goes in one of four ways (`starts_start`), only a call that starts can make another set
the active one (`active_step`), and therefore the active set of any run was opened by one call of the run from the
ranges stored then and has been active ever since (`exists_opens_of_active_run`).
-/

namespace AccessGateway.DynamicPorts

/-- There are ports and none of them can be bound. -/
def Unbindable (bind : Binding) (s : PortSet) : Prop := s.expand ≠ [] ∧ ∀ p ∈ s.expand, (bind p).isSome

/-- The answers of the operating system that a call gets. -/
def Call.binding? : Call → Option Binding
  | .start bind => some bind
  | .reconfigure bind _ _ => some bind
  | .assign _ _ | .stop => none

/-- A call opens a set: the ranges stored after the call name no port twice, and the set holds those of their ports
that could be bound, in order. It is empty only if there are no ranges. -/
structure Opens (d : DynamicPorts) (c : Call) (set : ListenerSet) : Prop where
  isNew : d.active ≠ some set
  active_eq : (d.step c).active = some set
  nodup_ports : (d.step c).ranges.expand.Nodup
  listeners_eq : ∃ bind, c.binding? = some bind ∧ set.listeners = bound bind (d.step c).ranges.expand
  ranges_eq_empty : set.listeners = [] → (d.step c).ranges = .empty

variable {d : DynamicPorts} {bind : Binding} {c : Call} {set : ListenerSet} {tcp udp : String} {f : Failure}

/-! ### Binding -/

theorem bound_eq_nil_iff {ports : List Endpoint} : bound bind ports = [] ↔ ∀ p ∈ ports, (bind p).isSome := by
  simp [bound, List.filter_eq_nil_iff, Option.ne_none_iff_isSome]

theorem bindFailure?_eq_none_iff {ports : List Endpoint} :
    bindFailure? bind ports = none ↔ (bound bind ports = [] → ports = []) := by
  rw [← Option.not_isSome_iff_eq_none, bindFailure?_isSome_iff]
  constructor
  · intro h hbound
    by_contra hports
    exact h ⟨hports, hbound⟩
  · rintro h ⟨hports, hbound⟩
    exact hports (h hbound)

/-- The failure that is reported is that of the first port. -/
theorem eq_of_bindFailure?_eq_some {ports : List Endpoint} (h : bindFailure? bind ports = some f) :
    bound bind ports = [] ∧
      ∃ p rest text, ports = p :: rest ∧ bind p = some text ∧ f = .listenerBind p.1 p.2 text := by
  cases ports with
  | nil => cases h
  | cons p rest =>
    rw [bindFailure?] at h
    split at h
    · rename_i text hbound htext
      exact ⟨hbound, p, rest, text, rfl, htext, (Option.some.inj h).symm⟩
    · cases h

/-! ### One start -/

/-- The four ways a start can go, with what is left after each. -/
inductive Starts (bind : Binding) (d : DynamicPorts) : Except Failure Nat × DynamicPorts → Prop where
  | running (h : d.active.isSome) : Starts bind d (.error (.internal "listeners already running"), d)
  | repeated (h : d.active = none) {e : PortError} (he : d.ranges.check = .error e) :
      Starts bind d (.error (.portRange e), d)
  | unbindable (h : d.active = none) (hnodup : d.ranges.expand.Nodup) {p : Endpoint} {rest : List Endpoint}
      {text : String} (hports : d.ranges.expand = p :: rest) (htext : bind p = some text)
      (hall : ∀ q ∈ d.ranges.expand, (bind q).isSome) : Starts bind d (.error (.listenerBind p.1 p.2 text), d)
  | opened (h : d.active = none) (hnodup : d.ranges.expand.Nodup)
      (hbound : bound bind d.ranges.expand = [] → d.ranges.expand = []) :
      Starts bind d (.ok (bound bind d.ranges.expand).length,
        { d with active := some ⟨d.starts, bound bind d.ranges.expand⟩, starts := d.starts + 1 })

theorem starts_start (bind : Binding) (d : DynamicPorts) : Starts bind d (d.start bind) := by
  unfold start
  split
  · rename_i h
    exact .running h
  · rename_i h
    have hstopped : d.active = none := Option.not_isSome_iff_eq_none.1 h
    have hvalidate : d.validate = d.ranges.check.mapError .portRange := rfl
    rw [hvalidate]
    cases hcheck : d.ranges.check with
    | error e => exact .repeated hstopped hcheck
    | ok _ =>
      have hnodup := PortSet.check_eq_ok_iff.1 hcheck
      have hports : d.configuredPorts = d.ranges.expand := rfl
      rw [hports]
      simp only [Except.mapError]
      split
      · rename_i e he
        obtain ⟨hbound, p, rest, text, hports, htext, rfl⟩ := eq_of_bindFailure?_eq_some he
        exact .unbindable hstopped hnodup hports htext (bound_eq_nil_iff.1 hbound)
      · rename_i hnone
        exact .opened hstopped hnodup (bindFailure?_eq_none_iff.1 hnone)

theorem start_of_isSome (h : d.active.isSome) (bind : Binding) :
    d.start bind = (.error (.internal "listeners already running"), d) := by
  unfold start
  rw [if_pos h]

/-- A start that fails leaves everything as it was. -/
theorem start_of_error (h : (d.start bind).1 = .error f) : (d.start bind).2 = d := by
  have hstart := starts_start bind d
  revert h hstart
  generalize d.start bind = r
  rintro h (_ | _ | _ | _)
  · rfl
  · rfl
  · rfl
  · cases h

/-- A start that succeeds opens what can be bound and counts it. -/
theorem start_of_ok {n : Nat} (h : (d.start bind).1 = .ok n) :
    d.active = none ∧ d.ranges.expand.Nodup ∧ (bound bind d.ranges.expand = [] → d.ranges.expand = []) ∧
      n = (bound bind d.ranges.expand).length ∧
      (d.start bind).2 =
        { d with active := some ⟨d.starts, bound bind d.ranges.expand⟩, starts := d.starts + 1 } := by
  have hstart := starts_start bind d
  revert h hstart
  generalize d.start bind = r
  rintro h (_ | _ | _ | ⟨hstopped, hnodup, hbound⟩)
  · cases h
  · cases h
  · cases h
  · exact ⟨hstopped, hnodup, hbound, (Except.ok.inj h).symm, rfl⟩

theorem listeners_start_of_ok {n : Nat} (h : (d.start bind).1 = .ok n) :
    (d.start bind).2.listeners = bound bind d.ranges.expand ∧ n = (d.start bind).2.listenerCount := by
  obtain ⟨-, -, -, hn, hafter⟩ := start_of_ok h
  rw [hafter]
  exact ⟨rfl, hn⟩

/-- A start of a stopped manager fails exactly if a port is repeated or none of the ports can be bound. -/
theorem exists_error_start_iff (h : d.active = none) :
    (∃ f, (d.start bind).1 = .error f) ↔ ¬ d.ranges.expand.Nodup ∨ Unbindable bind d.ranges := by
  constructor
  · rintro ⟨f, hf⟩
    have hstart := starts_start bind d
    revert hf hstart
    generalize d.start bind = r
    rintro hf (hrunning | ⟨-, hcheck⟩ | ⟨-, -, hports, -, hall⟩ | -)
    · rw [h] at hrunning
      cases hrunning
    · left
      intro hnodup
      rw [PortSet.check_eq_ok_iff.2 hnodup] at hcheck
      cases hcheck
    · right
      refine ⟨?_, hall⟩
      rw [hports]
      exact List.cons_ne_nil _ _
    · cases hf
  · intro hreason
    cases hresult : (d.start bind).1 with
    | error f => exact ⟨f, rfl⟩
    | ok n =>
      obtain ⟨-, hnodup, hbound, -⟩ := start_of_ok hresult
      rcases hreason with hrepeated | ⟨hports, hall⟩
      · exact absurd hnodup hrepeated
      · exact absurd (hbound (bound_eq_nil_iff.2 hall)) hports

/-- Which of the two failures of a stopped manager is reported. -/
theorem error_start (h : d.active = none) (hf : (d.start bind).1 = .error f) :
    (∃ e, d.ranges.check = .error e ∧ f = .portRange e) ∨
      d.ranges.expand.Nodup ∧ ∃ p rest text, d.ranges.expand = p :: rest ∧ bind p = some text ∧
        f = .listenerBind p.1 p.2 text := by
  have hstart := starts_start bind d
  revert hf hstart
  generalize d.start bind = r
  rintro hf (hrunning | ⟨-, hcheck⟩ | ⟨-, hnodup, hports, htext, -⟩ | -)
  · rw [h] at hrunning
    cases hrunning
  · exact .inl ⟨_, hcheck, (Except.error.inj hf).symm⟩
  · exact .inr ⟨hnodup, _, _, _, hports, htext, (Except.error.inj hf).symm⟩
  · cases hf

@[simp] theorem ranges_start (bind : Binding) (d : DynamicPorts) : (d.start bind).2.ranges = d.ranges := by
  cases hresult : (d.start bind).1 with
  | error f => rw [start_of_error hresult]
  | ok n =>
    obtain ⟨-, -, -, -, hafter⟩ := start_of_ok hresult
    rw [hafter]

/-! ### The other calls -/

theorem assign_of_error (h : (d.assign tcp udp).1 = .error f) : (d.assign tcp udp).2 = d := by
  unfold assign at h ⊢
  split
  · rfl
  · rename_i s hs
    rw [hs] at h
    cases h

@[simp] theorem active_assign (tcp udp : String) (d : DynamicPorts) : (d.assign tcp udp).2.active = d.active := by
  unfold assign
  split <;> rfl

@[simp] theorem starts_assign (tcp udp : String) (d : DynamicPorts) : (d.assign tcp udp).2.starts = d.starts := by
  unfold assign
  split <;> rfl

theorem reconfigure_of_error {e : PortError} (h : PortSet.readChecked tcp udp = .error e) (bind : Binding) :
    d.reconfigure bind tcp udp = (.error (.portRange e), d) := by
  unfold reconfigure
  rw [h]

theorem reconfigure_of_ok {s : PortSet} (h : PortSet.readChecked tcp udp = .ok s) (bind : Binding) :
    d.reconfigure bind tcp udp = start bind { d.stop with ranges := s } := by
  unfold reconfigure
  rw [h]

/-! ### Runs -/

theorem run_concat (d : DynamicPorts) (calls : List Call) (c : Call) :
    d.run (calls ++ [c]) = (d.run calls).step c := by
  unfold run
  rw [List.foldl_append]
  rfl

/-- The set that is open carries the number of an earlier start. -/
def Numbered (d : DynamicPorts) : Prop := ∀ set, d.active = some set → set.start < d.starts

theorem numbered_start (h : d.Numbered) (bind : Binding) : (d.start bind).2.Numbered := by
  cases hresult : (d.start bind).1 with
  | error f => rwa [start_of_error hresult]
  | ok n =>
    obtain ⟨-, -, -, -, hafter⟩ := start_of_ok hresult
    rw [hafter]
    intro set hset
    rw [← Option.some.inj hset]
    exact Nat.lt_succ_self d.starts

theorem numbered_step (h : d.Numbered) (c : Call) : (d.step c).Numbered := by
  cases c with
  | assign tcp udp =>
    intro set hset
    simp only [step, active_assign, starts_assign] at hset ⊢
    exact h set hset
  | start bind => exact numbered_start h bind
  | stop =>
    intro set hset
    cases hset
  | reconfigure bind tcp udp =>
    show (d.reconfigure bind tcp udp).2.Numbered
    cases hread : PortSet.readChecked tcp udp with
    | error e => rwa [reconfigure_of_error hread]
    | ok s =>
      rw [reconfigure_of_ok hread]
      apply numbered_start
      intro set hset
      cases hset

theorem numbered_run (calls : List Call) : (run {} calls).Numbered := by
  induction calls using List.reverseRecOn with
  | nil =>
    intro set hset
    cases hset
  | append_singleton calls c ih =>
    rw [run_concat]
    exact numbered_step ih c

/-- A start from a stopped manager opens the set that is active after it. -/
private theorem opens_of_start {d₀ : DynamicPorts} (hstep : d.step c = (d₀.start bind).2) (hc : c.binding? = some bind)
    (hstopped : d₀.active = none) (hnew : ∀ set, d.active = some set → set.start < d₀.starts)
    (hset : (d.step c).active = some set) : Opens d c set := by
  rw [hstep] at hset
  cases hresult : (d₀.start bind).1 with
  | error f =>
    rw [start_of_error hresult, hstopped] at hset
    cases hset
  | ok n =>
    obtain ⟨-, hnodup, hbound, -, hafter⟩ := start_of_ok hresult
    have hranges : (d.step c).ranges = d₀.ranges := by rw [hstep, ranges_start]
    rw [hafter] at hset
    obtain rfl := Option.some.inj hset
    refine ⟨?_, ?_, ?_, ⟨bind, hc, ?_⟩, ?_⟩
    · intro hactive
      exact Nat.lt_irrefl _ (hnew _ hactive)
    · rw [hstep, hafter]
    · rwa [hranges]
    · rw [hranges]
    · intro hnil
      rw [hranges]
      exact PortSet.expand_eq_nil_iff.1 (hbound hnil)

/-- After a call the active set is the one from before, or the call opened it. -/
theorem active_step (hd : d.Numbered) (hset : (d.step c).active = some set) : d.active = some set ∨ Opens d c set := by
  cases c with
  | assign tcp udp =>
    left
    simpa only [step, active_assign] using hset
  | start bind =>
    cases hactive : d.active with
    | some s =>
      left
      have hsame : d.step (.start bind) = d := by
        simp only [step, start_of_isSome (d := d) (by rw [hactive]; rfl) bind]
      rwa [hsame, hactive] at hset
    | none => exact .inr (opens_of_start rfl rfl hactive hd hset)
  | stop => cases hset
  | reconfigure bind tcp udp =>
    cases hread : PortSet.readChecked tcp udp with
    | error e =>
      left
      simpa only [step, reconfigure_of_error hread] using hset
    | ok s =>
      have hstep : d.step (.reconfigure bind tcp udp) = (start bind { d.stop with ranges := s }).2 := by
        simp only [step, reconfigure_of_ok hread]
      exact .inr (opens_of_start hstep rfl rfl hd hset)

theorem nodup_of_opens (h : Opens d c set) : set.listeners.Nodup := by
  obtain ⟨bind, -, hlisteners⟩ := h.listeners_eq
  rw [hlisteners]
  exact h.nodup_ports.filter _

/-- The set active at the end of a run was opened by one of its calls and stayed active from then on. -/
theorem exists_opens_of_active_run {calls : List Call} (hset : (run {} calls).active = some set) :
    ∃ before c after, calls = before ++ c :: after ∧ Opens (run {} before) c set ∧
      ∀ mid, mid <+: after → (run {} (before ++ c :: mid)).active = some set := by
  induction calls using List.reverseRecOn with
  | nil => cases hset
  | append_singleton calls c ih =>
    rw [run_concat] at hset
    rcases active_step (numbered_run calls) hset with hbefore | hopens
    · obtain ⟨before, c₀, after, rfl, hopens, hkept⟩ := ih hbefore
      refine ⟨before, c₀, after ++ [c], by simp, hopens, ?_⟩
      intro mid hmid
      rcases List.prefix_concat_iff.1 hmid with rfl | hmid
      · have hcalls : before ++ c₀ :: (after ++ [c]) = (before ++ c₀ :: after) ++ [c] := by simp
        rwa [hcalls, run_concat]
      · exact hkept mid hmid
    · refine ⟨calls, c, [], rfl, hopens, ?_⟩
      intro mid hmid
      rw [List.prefix_nil.1 hmid, run_concat]
      exact hset

/-! ### Reachable states -/

/-- What holds after any sequence of calls.  The active set was opened by one of the calls, from the ranges stored
then and with the answers that call got, and is the same ever since.  A start changes nothing while a set is active;
otherwise it fails, and changes nothing, exactly if a port is repeated or there are ports and none can be bound.
Stopping leaves no listener and keeps the ranges, ranges that cannot be read are not stored, and a reconfiguration
that succeeds stores the new ranges and opens what of them can be bound. -/
theorem listening_of_run (calls : List Call) (bind : Binding) (tcp udp : String) :
    let d := run {} calls
    (∀ set, d.active = some set → set.listeners.Nodup ∧
      ∃ before c after, calls = before ++ c :: after ∧ Opens (run {} before) c set ∧
        ∀ mid, mid <+: after → (run {} (before ++ c :: mid)).active = some set) ∧
    (d.active.isSome → d.start bind = (.error (.internal "listeners already running"), d)) ∧
    (d.active = none →
      ((∃ f, (d.start bind).1 = .error f) ↔ ¬ d.ranges.expand.Nodup ∨ Unbindable bind d.ranges) ∧
      (∀ f, (d.start bind).1 = .error f → (d.start bind).2 = d ∧
        ((∃ e, d.ranges.check = .error e ∧ f = .portRange e) ∨
          d.ranges.expand.Nodup ∧ ∃ p rest text, d.ranges.expand = p :: rest ∧ bind p = some text ∧
            f = .listenerBind p.1 p.2 text)) ∧
      ∀ n, (d.start bind).1 = .ok n → n = (d.start bind).2.listenerCount ∧
        (d.start bind).2.listeners = bound bind d.ranges.expand ∧ (d.start bind).2.ranges = d.ranges) ∧
    (d.stop.active = none ∧ d.stop.listeners = [] ∧ d.stop.ranges = d.ranges) ∧
    (∀ f, (d.assign tcp udp).1 = .error f → (d.assign tcp udp).2 = d) ∧
    (∀ n, (d.reconfigure bind tcp udp).1 = .ok n → ∃ s, PortSet.read tcp udp = .ok s ∧
      (d.reconfigure bind tcp udp).2.ranges = s ∧
      (d.reconfigure bind tcp udp).2.listeners = bound bind s.expand ∧
      n = (d.reconfigure bind tcp udp).2.listenerCount) := by
  intro d
  refine ⟨?_, fun h => start_of_isSome h bind, ?_, ⟨rfl, rfl, rfl⟩, fun f => assign_of_error, ?_⟩
  · intro set hset
    obtain ⟨before, c, after, hcalls, hopens, hkept⟩ := exists_opens_of_active_run hset
    exact ⟨nodup_of_opens hopens, before, c, after, hcalls, hopens, hkept⟩
  · intro hstopped
    refine ⟨exists_error_start_iff hstopped, ?_, ?_⟩
    · intro f hf
      exact ⟨start_of_error hf, error_start hstopped hf⟩
    · intro n hn
      obtain ⟨hlisteners, hcount⟩ := listeners_start_of_ok hn
      exact ⟨hcount, hlisteners, ranges_start bind d⟩
  · intro n hn
    cases hread : PortSet.readChecked tcp udp with
    | error e =>
      rw [reconfigure_of_error hread] at hn
      cases hn
    | ok s =>
      rw [reconfigure_of_ok hread] at hn ⊢
      obtain ⟨hlisteners, hcount⟩ := listeners_start_of_ok hn
      exact ⟨s, (PortSet.readChecked_eq_ok_iff.1 hread).1, ranges_start bind _, hlisteners, hcount⟩

end AccessGateway.DynamicPorts
