import AccessGateway.Proofs.Port.Polling

/-!
# Polling beside the teardown

The end is announced to the polling task and the ports are stopped, but nobody waits for the task, and a stopped
manager can be started again.  So a poll that is under way when the ports are stopped, and also one that is begun
because a round is due, still reconfigures them.  Only a task that has seen the end before the ports are stopped
leaves them closed (`closed_after_stop`).
-/

namespace AccessGateway

/-- A poll leaves nothing open only if none of the fetched ports can be bound. -/
theorem DynamicPorts.bound_of_closed_pollOnce {d : DynamicPorts} {bind : Binding} {set : PortSet} (hs : Rereads set)
    (h : (d.pollOnce bind (.ok set)).2.listeners = []) : bound bind set.expand = [] := by
  have hpolls := polls_pollOnce hs bind d
  revert h hpolls
  generalize d.pollOnce bind (.ok set) = r
  rintro h (⟨-, hopen⟩ | - | ⟨_, -, hbound⟩)
  · exact absurd h hopen
  · exact h
  · exact hbound

namespace PortPolling

variable {s : PortPolling} {set : PortSet}

/-- What it fetches, if anything, was announced to the gateway of an id. -/
def Event.Announced (gatewayId : String) : Event → Prop
  | .fetched (.ok set) => ∃ a : PortAnnouncement, a.accept gatewayId = .ok set
  | _ => True

/-! ### One event -/

theorem step_stopPorts (h : s.teardown = .announced) :
    s.step .stopPorts = { s with ports := s.ports.stop, teardown := .stopped } := by
  obtain ⟨ports, poll, teardown⟩ := s
  obtain rfl : teardown = .announced := h
  cases poll <;> rfl

/-- The ports change in two ways only. -/
theorem ports_step (s : PortPolling) (e : Event) :
    (s.step e).ports = s.ports ∨
      (∃ bind set, e = .apply bind ∧ s.poll = .applying set ∧ (s.step e).ports = (s.ports.apply bind set).2) ∨
      e = .stopPorts ∧ s.teardown = .announced ∧ (s.step e).ports = s.ports.stop := by
  cases e with
  | apply bind =>
    cases hpoll : s.poll with
    | applying set => exact .inr (.inl ⟨bind, set, rfl, rfl, by simp only [step, hpoll]⟩)
    | _ => exact .inl (by simp only [step, hpoll])
  | stopPorts =>
    cases hteardown : s.teardown with
    | announced => exact .inr (.inr ⟨rfl, rfl, by rw [step_stopPorts hteardown]⟩)
    | _ => exact .inl (by simp only [step, hteardown])
  | _ =>
    left
    unfold step
    split <;> first | contradiction | rfl

theorem teardown_step (h : s.teardown = .stopped) (e : Event) : (s.step e).teardown = .stopped := by
  cases e with
  | announceEnd | stopPorts => simp only [step, h]
  | _ =>
    unfold step
    split <;> first | contradiction | exact h

/-- When the task has ended and the ports have been stopped, nothing happens any more. -/
theorem step_of_ended (hpoll : s.poll = .ended) (h : s.teardown = .stopped) (e : Event) : s.step e = s := by
  obtain ⟨ports, poll, teardown⟩ := s
  obtain rfl : poll = .ended := hpoll
  obtain rfl : teardown = .stopped := h
  cases e with
  | fetched result => cases result <;> rfl
  | _ => rfl

/-! ### Runs -/

theorem run_append (s : PortPolling) (before after : List Event) : s.run (before ++ after) = (s.run before).run after :=
  List.foldl_append

theorem teardown_run (h : s.teardown = .stopped) (events : List Event) : (s.run events).teardown = .stopped := by
  induction events generalizing s with
  | nil => exact h
  | cons e events ih => exact ih (teardown_step h e)

theorem run_of_ended (hpoll : s.poll = .ended) (h : s.teardown = .stopped) (events : List Event) :
    s.run events = s := by
  induction events with
  | nil => rfl
  | cons e events ih =>
    show (s.step e).run events = s
    rw [step_of_ended hpoll h, ih]

/-- After the stop the ports are those of the last poll that was applied, if there was one. -/
theorem ports_run (h : s.teardown = .stopped) (events : List Event) :
    (s.run events).ports = s.ports ∨
      ∃ before bind set after, events = before ++ .apply bind :: after ∧ (s.run before).poll = .applying set ∧
        (s.run events).ports = ((s.run before).ports.apply bind set).2 := by
  induction events using List.reverseRecOn with
  | nil => exact .inl rfl
  | append_singleton events e ih =>
    have hlast : s.run (events ++ [e]) = (s.run events).step e := run_append s events [e]
    rw [hlast]
    rcases ports_step (s.run events) e with hsame | ⟨bind, set, rfl, hpoll, hports⟩ | ⟨-, hannounced, -⟩
    · rw [hsame]
      refine ih.imp_right ?_
      rintro ⟨before, bind, set, after, rfl, hpoll, hports⟩
      exact ⟨before, bind, set, after ++ [e], by simp, hpoll, hports⟩
    · exact .inr ⟨events, bind, set, [], rfl, hpoll, hports⟩
    · rw [teardown_run h] at hannounced
      cases hannounced

/-! ### Rounds -/

theorem run_compare (h : s.poll = .comparing set) (bind : Binding) :
    s.run [.compare, .apply bind] = { s with ports := (s.ports.pollOnce bind (.ok set)).2, poll := .waiting } := by
  obtain ⟨ports, poll, teardown⟩ := s
  obtain rfl : poll = .comparing set := h
  cases hcurrent : ports.isCurrent set <;>
    simp [run, step, DynamicPorts.pollOnce, hcurrent]

/-- A round without anything in between is one poll. -/
theorem run_round (h : s.poll = .waiting) (set : PortSet) (bind : Binding) :
    s.run [.tick, .fetched (.ok set), .compare, .apply bind] =
      { s with ports := (s.ports.pollOnce bind (.ok set)).2 } := by
  obtain ⟨ports, poll, teardown⟩ := s
  obtain rfl : poll = .waiting := h
  exact run_compare (s := ⟨ports, .comparing set, teardown⟩) rfl bind

/-- A poll under way can come to its end, also with nothing that was not announced. -/
theorem exists_run_waiting (h : s.poll ≠ .ended) (gatewayId : String) :
    ∃ events : List Event, (∀ e ∈ events, e.Announced gatewayId) ∧ (s.run events).poll = .waiting := by
  obtain ⟨ports, poll, teardown⟩ := s
  cases poll with
  | waiting => exact ⟨[], by simp, rfl⟩
  | fetching => exact ⟨[.fetched (.error (.http .decode))], by simp [Event.Announced], rfl⟩
  | comparing set =>
    refine ⟨[.compare, .apply fun _ => none], by simp [Event.Announced], ?_⟩
    rw [run_compare rfl]
  | applying set => exact ⟨[.apply fun _ => none], by simp [Event.Announced], rfl⟩
  | ended => exact absurd rfl h

private theorem exists_announced (gatewayId : String) :
    ∃ (a : PortAnnouncement) (set : PortSet), a.accept gatewayId = .ok set ∧ set.expand ≠ [] := by
  let set : PortSet := ⟨[⟨.tcp, 22001, 22001, by decide, by decide, by decide⟩], []⟩
  have hread : PortSet.readChecked "22001" "" = .ok set := by decide +kernel
  have hblank : ¬ PortAnnouncement.IsBlank ⟨none, "22001", "", []⟩ := by
    intro h
    have hdigit : Text.isBlank '2' = true := h "22001" List.mem_cons_self '2' (by decide)
    cases hdigit
  refine ⟨⟨none, "22001", "", []⟩, set, PortAnnouncement.accept_eq_ok_iff.2 ⟨?_, hblank, hread⟩, by decide⟩
  intro other hother
  cases hother

/-- A task that has not ended can open listeners at any time. -/
theorem exists_run_open (h : s.poll ≠ .ended) (gatewayId : String) :
    ∃ events : List Event, (∀ e ∈ events, e.Announced gatewayId) ∧ (s.run events).ports.listeners ≠ [] := by
  obtain ⟨events, hevents, hwaiting⟩ := exists_run_waiting h gatewayId
  obtain ⟨a, set, haccept, hports⟩ := exists_announced gatewayId
  refine ⟨events ++ [.tick, .fetched (.ok set), .compare, .apply fun _ => none], ?_, ?_⟩
  · simp only [List.forall_mem_append, List.forall_mem_cons]
    exact ⟨hevents, trivial, ⟨_, haccept⟩, trivial, trivial, by simp⟩
  · rw [run_append, run_round hwaiting]
    intro hclosed
    have hbound := DynamicPorts.bound_of_closed_pollOnce (DynamicPorts.rereads_of_accept haccept) hclosed
    -- nothing is taken, so all announced ports are bound
    exact hports (by simpa [DynamicPorts.bound] using hbound)

/-! ### The stop -/

/-- Stopping the ports closes them.  What is open in a later state was opened by a poll applied since, and such a state
cannot come exactly if the task had ended before. -/
theorem closed_after_stop (s : PortPolling) (before : List Event) (h : (s.run before).teardown = .announced)
    (gatewayId : String) :
    let stopped := s.run (before ++ [.stopPorts])
    stopped.ports.listeners = [] ∧
      (∀ after, (stopped.run after).ports.listeners = [] ∨
        ∃ meanwhile bind set rest, after = meanwhile ++ .apply bind :: rest ∧
          (stopped.run meanwhile).poll = .applying set ∧
          (stopped.run after).ports = ((stopped.run meanwhile).ports.apply bind set).2) ∧
      ((∀ after : List Event, (∀ e ∈ after, e.Announced gatewayId) → (stopped.run after).ports.listeners = []) ↔
        (s.run before).poll = .ended) := by
  intro stopped
  have hstopped : stopped = { s.run before with ports := (s.run before).ports.stop, teardown := .stopped } :=
    (run_append s before [.stopPorts]).trans (step_stopPorts h)
  have hteardown : stopped.teardown = .stopped := by rw [hstopped]
  have hpoll : stopped.poll = (s.run before).poll := by rw [hstopped]
  have hclosed : stopped.ports.listeners = [] := by
    rw [hstopped]
    rfl
  refine ⟨hclosed, ?_, ?_⟩
  · intro after
    rcases ports_run hteardown after with hsame | happlied
    · exact .inl (by rw [hsame, hclosed])
    · exact .inr happlied
  · rw [← hpoll]
    constructor
    · intro hforever
      by_contra hrunning
      obtain ⟨after, hafter, hopen⟩ := exists_run_open hrunning gatewayId
      exact hopen (hforever after hafter)
    · intro hended after _
      rw [run_of_ended hended hteardown, hclosed]

/-- The task sees the end before the ports are stopped, or is waiting for the backend then. -/
theorem closed_after_stop_seen_or_fetching :
    let s : PortPolling := { ports := DynamicPorts.run {} [.assign "22000" "", .start fun _ => none] }
    (∀ after : List Event, (∀ e ∈ after, e.Announced "gw-1") →
      ((s.run [.announceEnd, .observeEnd, .stopPorts]).run after).ports.listeners = []) ∧
    ¬ ∀ after : List Event, (∀ e ∈ after, e.Announced "gw-1") →
      ((s.run [.tick, .announceEnd, .stopPorts]).run after).ports.listeners = [] := by
  intro s
  constructor
  · exact (closed_after_stop s [.announceEnd, .observeEnd] rfl "gw-1").2.2.2 rfl
  · intro hforever
    have hended := (closed_after_stop s [.tick, .announceEnd] rfl "gw-1").2.2.1 hforever
    cases hended

/-- The backend has announced another port, and the ports are stopped before the poll reconfigures them. -/
theorem reopened_after_stop :
    let s : PortPolling := { ports := DynamicPorts.run {} [.assign "22000" "", .start fun _ => none] }
    let a : PortAnnouncement := ⟨some "gw-1", "22001", "", []⟩
    let stopped := s.run [.tick, .fetched (a.accept "gw-1"), .compare, .announceEnd, .stopPorts]
    let after := stopped.run [.apply fun _ => none]
    s.ports.listeners = [(.tcp, 22000)] ∧ stopped.ports.listeners = [] ∧
      after.teardown = .stopped ∧ after.ports.listeners = [(.tcp, 22001)] := by
  decide +kernel

end PortPolling

end AccessGateway
