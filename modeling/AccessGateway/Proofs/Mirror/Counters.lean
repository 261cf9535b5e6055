import AccessGateway.Proofs.Mirror.Conservation
import Mathlib

/-!
# Counters of the mirror

A worker that takes a packet owes a write to every sink, and each write that ends is counted once (`performs_step`).
What the workers still owe, together with the writes that have ended, is therefore the number of packets taken times
that of the sinks (`booked_run`), and when no packet is being delivered nothing is owed.  The metrics are kept beside
the counters by the same increments, so they agree at all times, and starts and stops touch neither (`accounting`).
-/

namespace AccessGateway

def Sink.isCollector : Sink → Bool
  | .collector _ => true
  | .detection _ => false

namespace MirrorTally

/-- The metrics say what the counters say. -/
structure Agrees (t : MirrorTally) : Prop where
  sent : t.metrics.total sentCounter = t.stats.sent
  dropped : t.metrics.total droppedCounter = t.stats.dropped
  bytes : t.metrics.total bytesCounter = t.stats.bytes
  errors : t.metrics.total errorCounter = t.stats.errors

/-- No counter is less than it was. -/
structure Grows (t t' : MirrorTally) : Prop where
  sent : t.stats.sent ≤ t'.stats.sent
  dropped : t.stats.dropped ≤ t'.stats.dropped
  bytes : t.stats.bytes ≤ t'.stats.bytes
  errors : t.stats.errors ≤ t'.stats.errors

variable {t t' t'' : MirrorTally}

theorem Agrees.addSent (h : t.Agrees) (n : Nat) : (t.addSent n).Agrees := by
  obtain ⟨hsent, hdropped, hbytes, herrors⟩ := h
  constructor <;> simp only [MirrorTally.addSent, Metrics.total_add]
  · rw [hsent]
    rfl
  · exact hdropped
  · rw [hbytes]
    rfl
  · exact herrors

theorem Agrees.addDropped (h : t.Agrees) : t.addDropped.Agrees := by
  obtain ⟨hsent, hdropped, hbytes, herrors⟩ := h
  constructor <;> simp only [MirrorTally.addDropped, Metrics.total_add]
  · exact hsent
  · rw [hdropped]
    rfl
  · exact hbytes
  · exact herrors

theorem Agrees.addError (h : t.Agrees) : t.addError.Agrees := by
  obtain ⟨hsent, hdropped, hbytes, herrors⟩ := h
  constructor <;> simp only [MirrorTally.addError, Metrics.total_add]
  · exact hsent
  · exact hdropped
  · exact hbytes
  · rw [herrors]
    rfl

theorem Agrees.count (h : t.Agrees) (sink : Sink) (written : Option Nat) :
    (MirrorPipeline.count sink written t).Agrees := by
  rcases sink with _ | _ <;> rcases written with _ | n
  · exact h.addError
  · exact h.addSent n
  · exact h.addError
  · exact h

theorem Grows.refl (t : MirrorTally) : t.Grows t := ⟨Nat.le_refl _, Nat.le_refl _, Nat.le_refl _, Nat.le_refl _⟩

theorem Grows.trans (h : t.Grows t') (h' : t'.Grows t'') : t.Grows t'' :=
  ⟨Nat.le_trans h.sent h'.sent, Nat.le_trans h.dropped h'.dropped, Nat.le_trans h.bytes h'.bytes,
    Nat.le_trans h.errors h'.errors⟩

theorem grows_addDropped (t : MirrorTally) : t.Grows t.addDropped :=
  ⟨Nat.le_refl _, Nat.le_succ _, Nat.le_refl _, Nat.le_refl _⟩

theorem grows_count (sink : Sink) (written : Option Nat) (t : MirrorTally) :
    t.Grows (MirrorPipeline.count sink written t) := by
  rcases sink with _ | _ <;> rcases written with _ | n
  · exact ⟨Nat.le_refl _, Nat.le_refl _, Nat.le_refl _, Nat.le_succ _⟩
  · exact ⟨Nat.le_succ _, Nat.le_refl _, Nat.le_add_right _ _, Nat.le_refl _⟩
  · exact ⟨Nat.le_refl _, Nat.le_refl _, Nat.le_refl _, Nat.le_succ _⟩
  · exact .refl t

end MirrorTally

namespace MirrorWorker

/-- What a worker has still to do, measured by the sinks that its packet is still to be written to. -/
def load (f : List Sink → Nat) : MirrorWorker → Nat
  | .delivering _ left => f left
  | .waiting | .ended => 0

end MirrorWorker

def MirrorRun.load (f : List Sink → Nat) (r : MirrorRun) : Nat := (r.workers.map (MirrorWorker.load f)).sum

namespace MirrorSystem

/-- A write that has ended, with the number of bytes written unless it failed. -/
structure Write where
  ticket : Ticket
  sink : Sink
  written : Option Nat

namespace Write

/-- A frame was written to a collector. -/
def isSent (w : Write) : Bool := w.sink.isCollector && w.written.isSome

/-- A frame was not written to a collector. -/
def isLost (w : Write) : Bool := w.sink.isCollector && w.written.isNone

/-- An event was not written to the intrusion detection. -/
def isMissed (w : Write) : Bool := !w.sink.isCollector && w.written.isNone

/-- The bytes that count for a write. -/
def bytes (w : Write) : Nat := if w.isSent then w.written.getD 0 else 0

/-- A write to a collector that succeeds writes the whole frame. -/
def IsWhole (p : MirrorPipeline) (w : Write) : Prop :=
  w.sink.isCollector → ∀ n, w.written = some n → ∃ present, n = (p.frame present w.ticket.observation).length

end Write

/-- The write that ends in an event. -/
def write? (s : MirrorSystem) : Event → Option Write
  | .write k i written =>
    match s.runs[k]?.bind (·.workers[i]?) with
    | some (.delivering t (sink :: _)) => some ⟨t, sink, written⟩
    | _ => none
  | _ => none

/-- The packet whose delivery ends in an event. -/
def delivered? (s : MirrorSystem) : Event → Option Ticket
  | .write k i _ =>
    match s.runs[k]?.bind (·.workers[i]?) with
    | some (.delivering t []) => some t
    | _ => none
  | _ => none

/-- What the events of a run end, in their order. -/
def history {α : Type} (f : MirrorSystem → Event → Option α) : MirrorSystem → List Event → List α
  | _, [] => []
  | s, e :: events => (f s e).toList ++ history f (s.step e) events

def load (f : List Sink → Nat) (s : MirrorSystem) : Nat := (s.runs.map (MirrorRun.load f)).sum

/-- What an event does for the deliveries: nothing, or one worker goes one step on. -/
inductive Performs (s s' : MirrorSystem) : Option Write → Option Ticket → Prop where
  | nothing (hload : ∀ f, s'.load f = s.load f) (htally : s'.tally = s.tally ∨ s'.tally = s.tally.addDropped)
      (htaken : s'.taken = s.taken) : Performs s s' none none
  | took (t : Ticket) (hload : ∀ f, s'.load f = s.load f + f s.pipeline.sinks) (htally : s'.tally = s.tally)
      (htaken : s'.taken = s.taken ++ [t.number]) : Performs s s' none none
  | wrote (w : Write) (left : List Sink) (hload : ∀ f, s'.load f + f (w.sink :: left) = s.load f + f left)
      (htally : s'.tally = MirrorPipeline.count w.sink w.written s.tally) (htaken : s'.taken = s.taken) :
      Performs s s' (some w) none
  | delivered (t : Ticket) (hload : ∀ f, s'.load f + f [] = s.load f) (htally : s'.tally = s.tally)
      (htaken : s'.taken = s.taken) : Performs s s' none (some t)

/-- The counters and what is owed, by the writes and the deliveries that have ended. -/
structure Booked (s : MirrorSystem) (ws : List Write) (ds : List Ticket) : Prop where
  sent_eq : s.tally.stats.sent = ws.countP Write.isSent
  errors_eq : s.tally.stats.errors = ws.countP Write.isLost + ws.countP Write.isMissed
  bytes_eq : s.tally.stats.bytes = (ws.map Write.bytes).sum
  owed_eq : ws.countP (·.sink.isCollector) + s.load (List.countP Sink.isCollector) =
    s.taken.length * s.pipeline.collectors.length
  delivered_eq : ds.length + s.load (fun _ => 1) = s.taken.length

variable {s s' : MirrorSystem} {e : Event} {k i : Nat} {r : MirrorRun}

/-! ### One event -/

private theorem sum_map_set {α : Type} {l : List α} {a : α} (h : l[i]? = some a) (f : α → Nat) (b : α) :
    ((l.set i b).map f).sum + f a = (l.map f).sum + f b := by
  induction l generalizing i with
  | nil => cases h
  | cons x l ih =>
    cases i with
    | zero =>
      obtain rfl := Option.some.inj h
      simp only [List.set_cons_zero, List.map_cons, List.sum_cons]
      omega
    | succ i =>
      have hrest := ih h
      simp only [List.set_cons_succ, List.map_cons, List.sum_cons]
      omega

private theorem load_set {worker : MirrorWorker} (hrun : s.runs[k]? = some r) (hworker : r.workers[i]? = some worker)
    {r' : MirrorRun} (worker' : MirrorWorker) (hr' : r'.workers = r.workers.set i worker') (f : List Sink → Nat) :
    ((s.runs.set k r').map (MirrorRun.load f)).sum + worker.load f = s.load f + worker'.load f := by
  have hworkers := sum_map_set hworker (MirrorWorker.load f) worker'
  have hruns := sum_map_set hrun (MirrorRun.load f) r'
  rw [← hr', ← MirrorRun.load, ← MirrorRun.load] at hworkers
  unfold load
  omega

private theorem load_changeRun (g : MirrorRun → MirrorRun) (hg : ∀ r, (g r).workers = r.workers) (k : Nat)
    (f : List Sink → Nat) : ((s.changeRun k g).map (MirrorRun.load f)).sum = s.load f := by
  cases hrun : s.runs[k]? with
  | none =>
    rw [changeRun, List.modify_eq_set_getElem?, hrun]
    rfl
  | some r =>
    have hsame : (g r).load f = r.load f := by rw [MirrorRun.load, hg, ← MirrorRun.load]
    have hruns := sum_map_set hrun (MirrorRun.load f) (g r)
    rw [changeRun_eq_set hrun]
    unfold load
    omega

private theorem load_closeCurrent (s : MirrorSystem) (f : List Sink → Nat) :
    (s.closeCurrent.map (MirrorRun.load f)).sum = s.load f := by
  unfold closeCurrent
  split
  · exact load_changeRun closeRun (fun _ => rfl) _ f
  · rfl

private theorem performs_enqueue (s : MirrorSystem) (o : Observation) :
    Performs s (s.step (.enqueue o)) none none := by
  unfold step offer
  dsimp only
  split
  · exact .nothing (fun _ => rfl) (.inr rfl) rfl
  · split
    · exact .nothing (fun _ => rfl) (.inr rfl) rfl
    · split
      · refine .nothing (fun f => ?_) (.inl rfl) rfl
        exact load_changeRun (fun r => { r with queue := r.queue ++ [⟨s.offered + 1, o⟩] }) (fun _ => rfl) _ f
      · exact .nothing (fun _ => rfl) (.inr rfl) rfl

theorem performs_step (s : MirrorSystem) (e : Event) : Performs s (s.step e) (s.write? e) (s.delivered? e) := by
  cases e with
  | beginStart =>
    unfold step
    dsimp only
    split <;> exact .nothing (fun _ => rfl) (.inl rfl) rfl
  | finishStart =>
    unfold step
    dsimp only
    split
    · exact .nothing (fun _ => rfl) (.inl rfl) rfl
    · refine .nothing (fun f => ?_) (.inl rfl) rfl
      -- the workers of the new run wait
      have hwaiting : MirrorRun.load f { workers := List.replicate s.config.workers .waiting } = 0 := by
        rw [MirrorRun.load, List.map_replicate, MirrorWorker.load, List.sum_replicate_nat, Nat.mul_zero]
      rw [load, List.map_append, List.sum_append, load_closeCurrent, List.map_singleton, List.sum_singleton, hwaiting,
        Nat.add_zero]
  | enqueue o => exact performs_enqueue s o
  | take k i =>
    unfold step
    dsimp only
    split
    · exact .nothing (fun _ => rfl) (.inl rfl) rfl
    · rename_i r hrun
      split
      · rename_i t rest hworker hqueue
        rw [changeRun_eq_set hrun]
        exact .took t (fun f => load_set hrun hworker (.delivering t s.pipeline.sinks) rfl f) rfl rfl
      · exact .nothing (fun _ => rfl) (.inl rfl) rfl
  | write k i written =>
    unfold step write? delivered?
    dsimp only
    cases hworker : s.runs[k]?.bind (·.workers[i]?) with
    | none => exact .nothing (fun _ => rfl) (.inl rfl) rfl
    | some worker =>
      obtain ⟨r, hrun, hr⟩ := Option.bind_eq_some_iff.1 hworker
      rcases worker with _ | ⟨t, _ | ⟨sink, left⟩⟩ | _
      · exact .nothing (fun _ => rfl) (.inl rfl) rfl
      · dsimp only
        rw [changeRun_eq_set hrun]
        exact .delivered t (fun f => load_set hrun hr .waiting rfl f) rfl rfl
      · dsimp only
        rw [changeRun_eq_set hrun]
        exact .wrote ⟨t, sink, written⟩ left (fun f => load_set hrun hr (.delivering t left) rfl f) rfl rfl
      · exact .nothing (fun _ => rfl) (.inl rfl) rfl
  | finish k i =>
    unfold step
    dsimp only
    split
    · exact .nothing (fun _ => rfl) (.inl rfl) rfl
    · rename_i r hrun
      split
      · rename_i hends
        rw [Bool.and_eq_true, beq_waiting_iff] at hends
        obtain ⟨hworker, -⟩ := hends
        rw [changeRun_eq_set hrun]
        refine .nothing (fun f => load_set hrun hworker .ended ?_ f) (.inl rfl) rfl
        split <;> rfl
      · exact .nothing (fun _ => rfl) (.inl rfl) rfl
  | stop =>
    unfold step
    dsimp only
    split
    · exact .nothing (fun _ => rfl) (.inl rfl) rfl
    · refine .nothing (fun f => ?_) (.inl rfl) rfl
      exact load_changeRun (fun r => { closeRun r with isCancelled := true }) (fun _ => rfl) _ f

theorem tally_step_of_lifecycle (s : MirrorSystem) {e : Event} (h : e ∈ [.beginStart, .finishStart, .stop]) :
    (s.step e).tally = s.tally := by
  simp only [List.mem_cons, List.not_mem_nil, or_false] at h
  rcases h with rfl | rfl | rfl
  all_goals
    unfold step
    dsimp only
    split <;> rfl

theorem tally_step (s : MirrorSystem) (e : Event) :
    (s.step e).tally = s.tally ∨ (s.step e).tally = s.tally.addDropped ∨
      ∃ sink written, (s.step e).tally = MirrorPipeline.count sink written s.tally := by
  have hperforms := performs_step s e
  generalize s.write? e = w at hperforms
  generalize s.delivered? e = d at hperforms
  cases hperforms with
  | nothing hload htally htaken => exact htally.imp_right .inl
  | took t hload htally htaken => exact .inl htally
  | wrote w left hload htally htaken => exact .inr (.inr ⟨_, _, htally⟩)
  | delivered t hload htally htaken => exact .inl htally

theorem agrees_step (h : s.tally.Agrees) (e : Event) : (s.step e).tally.Agrees := by
  rcases tally_step s e with htally | htally | ⟨sink, written, htally⟩
  · rwa [htally]
  · rw [htally]
    exact h.addDropped
  · rw [htally]
    exact h.count sink written

theorem grows_step (s : MirrorSystem) (e : Event) : s.tally.Grows (s.step e).tally := by
  rcases tally_step s e with htally | htally | ⟨sink, written, htally⟩
  · rw [htally]
    exact .refl _
  · rw [htally]
    exact MirrorTally.grows_addDropped _
  · rw [htally]
    exact MirrorTally.grows_count sink written _

/-! ### What is booked -/

theorem countP_sinks (p : MirrorPipeline) : p.sinks.countP Sink.isCollector = p.collectors.length := by
  have hcollectors : (p.collectors.map Sink.collector).countP Sink.isCollector = p.collectors.length := by
    rw [List.countP_map, List.countP_eq_length]
    exact fun _ _ => rfl
  have hdetection : (p.detection.toList.map Sink.detection).countP Sink.isCollector = 0 := by
    rw [List.countP_map, List.countP_eq_zero]
    exact fun _ _ => nofun
  rw [MirrorPipeline.sinks, List.countP_append, hcollectors, hdetection, Nat.add_zero]

theorem stats_count (w : Write) (t : MirrorTally) :
    let stats := (MirrorPipeline.count w.sink w.written t).stats
    stats.sent = t.stats.sent + [w].countP Write.isSent ∧
      stats.errors = t.stats.errors + ([w].countP Write.isLost + [w].countP Write.isMissed) ∧
      stats.bytes = t.stats.bytes + w.bytes := by
  obtain ⟨ticket, sink, written⟩ := w
  cases sink <;> cases written <;> exact ⟨rfl, rfl, rfl⟩

private theorem booked_of_performs {ws : List Write} {ds : List Ticket} {w : Option Write} {d : Option Ticket}
    (hb : s.Booked ws ds) (hcollectors : s'.pipeline.collectors = s.pipeline.collectors) (h : Performs s s' w d) :
    s'.Booked (ws ++ w.toList) (ds ++ d.toList) := by
  obtain ⟨hsent, herrors, hbytes, howed, hdelivered⟩ := hb
  cases h with
  | nothing hload htally htaken =>
    have hstats : s'.tally.stats.sent = s.tally.stats.sent ∧ s'.tally.stats.errors = s.tally.stats.errors ∧
        s'.tally.stats.bytes = s.tally.stats.bytes := by
      rcases htally with htally | htally <;> rw [htally] <;> exact ⟨rfl, rfl, rfl⟩
    rw [Option.toList_none, Option.toList_none, List.append_nil, List.append_nil]
    refine ⟨hstats.1.trans hsent, hstats.2.1.trans herrors, hstats.2.2.trans hbytes, ?_, ?_⟩
    · rw [hload, htaken, hcollectors]
      exact howed
    · rw [hload, htaken]
      exact hdelivered
  | took t hload htally htaken =>
    rw [Option.toList_none, Option.toList_none, List.append_nil, List.append_nil]
    refine ⟨htally ▸ hsent, htally ▸ herrors, htally ▸ hbytes, ?_, ?_⟩
    · rw [hload, countP_sinks, htaken, hcollectors, List.length_append, List.length_singleton, Nat.add_one_mul]
      omega
    · rw [hload, htaken, List.length_append, List.length_singleton]
      omega
  | wrote w left hload htally htaken =>
    obtain ⟨hsent', herrors', hbytes'⟩ := stats_count w s.tally
    have howed' := hload (List.countP Sink.isCollector)
    have hdelivered' := hload fun _ => 1
    rw [List.countP_cons] at howed'
    rw [Option.toList_some, Option.toList_none, List.append_nil]
    refine ⟨?_, ?_, ?_, ?_, ?_⟩
    · rw [htally, hsent', hsent, List.countP_append]
    · rw [htally, herrors', herrors, List.countP_append, List.countP_append]
      omega
    · rw [htally, hbytes', hbytes, List.map_append, List.sum_append, List.map_singleton, List.sum_singleton]
    · rw [htaken, hcollectors, List.countP_append, List.countP_singleton]
      omega
    · rw [htaken]
      omega
  | delivered t hload htally htaken =>
    have howed' := hload (List.countP Sink.isCollector)
    have hdelivered' := hload fun _ => 1
    rw [List.countP_nil] at howed'
    rw [Option.toList_none, Option.toList_some, List.append_nil]
    refine ⟨htally ▸ hsent, htally ▸ herrors, htally ▸ hbytes, ?_, ?_⟩
    · rw [htaken, hcollectors]
      omega
    · rw [htaken, List.length_append, List.length_singleton]
      omega

/-- A write to a collector succeeds or fails. -/
theorem countP_isSent_add (ws : List Write) :
    ws.countP Write.isSent + ws.countP Write.isLost = ws.countP (·.sink.isCollector) := by
  induction ws with
  | nil => rfl
  | cons w ws ih =>
    have hone : (if w.isSent then 1 else 0) + (if w.isLost then 1 else 0) = if w.sink.isCollector then 1 else 0 := by
      obtain ⟨ticket, sink, written⟩ := w
      cases sink <;> cases written <;> rfl
    rw [List.countP_cons, List.countP_cons, List.countP_cons, ← ih, ← hone]
    omega

theorem booked_step {ws : List Write} {ds : List Ticket} (h : s.Sound) (hb : s.Booked ws ds) (e : Event) :
    (s.step e).Booked (ws ++ (s.write? e).toList) (ds ++ (s.delivered? e).toList) :=
  booked_of_performs hb (congrArg MirrorConfig.destinations (config_run h [e])) (performs_step s e)

/-! ### Runs -/

theorem history_concat {α : Type} (f : MirrorSystem → Event → Option α) (s : MirrorSystem) (events : List Event)
    (e : Event) : history f s (events ++ [e]) = history f s events ++ (f (s.run events) e).toList := by
  induction events generalizing s with
  | nil => exact List.append_nil _
  | cons e' events ih =>
    rw [List.cons_append, history, history, ih, List.append_assoc]
    rfl

theorem booked_run (h : s.Sound) (hb : s.Booked [] []) (events : List Event) :
    (s.run events).Booked (history write? s events) (history delivered? s events) := by
  induction events using List.reverseRecOn with
  | nil => exact hb
  | append_singleton events e ih =>
    rw [history_concat, history_concat, run_concat]
    exact booked_step (sound_run h events) ih e

theorem agrees_run (h : s.tally.Agrees) (events : List Event) : (s.run events).tally.Agrees := by
  induction events generalizing s with
  | nil => exact h
  | cons e events ih => exact ih (agrees_step h e)

theorem grows_run (s : MirrorSystem) (events : List Event) : s.tally.Grows (s.run events).tally := by
  induction events generalizing s with
  | nil => exact .refl _
  | cons e events ih => exact (grows_step s e).trans (ih (s.step e))

/-- When no packet is being delivered, nothing is left to do. -/
theorem load_eq_zero (h : s.isDelivering = false) (f : List Sink → Nat) : s.load f = 0 := by
  have hworker : ∀ r ∈ s.runs, ∀ worker ∈ r.workers, worker.load f = 0 := by
    intro r hr worker hworker
    rw [isDelivering, List.any_eq_false] at h
    have hrun := h r hr
    rw [Bool.not_eq_true, List.any_eq_false] at hrun
    cases worker with
    | delivering t left => exact absurd rfl (hrun _ hworker)
    | waiting | ended => rfl
  have hrun : ∀ r ∈ s.runs, r.load f = 0 := by
    intro r hr
    rw [MirrorRun.load, List.sum_eq_zero_iff_forall_eq_nat]
    intro n hn
    obtain ⟨worker, hmem, rfl⟩ := List.mem_map.1 hn
    exact hworker r hr worker hmem
  rw [load, List.sum_eq_zero_iff_forall_eq_nat]
  intro n hn
  obtain ⟨r, hr, rfl⟩ := List.mem_map.1 hn
  exact hrun r hr

theorem length_frame (p : MirrorPipeline) (present : UInt64) (o : Observation) :
    (p.frame present o).length = p.encapsulation.headerLength + o.packet.payload.length := by
  rw [MirrorPipeline.frame, Encapsulation.encapsulate, List.length_append, Encapsulation.length_header]

theorem Write.isWhole_iff {p : MirrorPipeline} {w : Write} : w.IsWhole p ↔ (w.sink.isCollector →
    ∀ n ∈ w.written, n = p.encapsulation.headerLength + w.ticket.observation.packet.payload.length) := by
  constructor
  · intro h hcollector n hn
    obtain ⟨present, hwhole⟩ := h hcollector n hn
    rw [hwhole, length_frame]
  · intro h hcollector n hn
    refine ⟨0, ?_⟩
    rw [length_frame]
    exact h hcollector n hn

private theorem sum_bytes {p : MirrorPipeline} {ws : List Write} (h : ∀ w ∈ ws, w.IsWhole p) :
    (ws.map Write.bytes).sum = ((ws.filter Write.isSent).map fun w =>
      p.encapsulation.headerLength + w.ticket.observation.packet.payload.length).sum := by
  induction ws with
  | nil => rfl
  | cons w ws ih =>
    have hrest := ih fun w' hw' => h w' (List.mem_cons_of_mem w hw')
    rw [List.map_cons, List.sum_cons, hrest, Write.bytes]
    by_cases hsent : w.isSent
    · have hparts := hsent
      rw [Write.isSent, Bool.and_eq_true, Option.isSome_iff_exists] at hparts
      obtain ⟨hcollector, n, hn⟩ := hparts
      have hwhole := Write.isWhole_iff.1 (h w List.mem_cons_self) hcollector n hn
      rw [if_pos hsent, List.filter_cons_of_pos hsent, List.map_cons, List.sum_cons, hn, Option.getD_some, hwhole]
    · rw [if_neg hsent, List.filter_cons_of_neg hsent, Nat.zero_add]

/-- The counters account for every write, whatever starts, stops, takes and fails, and in whatever order.  The frames
sent and the errors are the writes that succeeded and those that failed, the bytes are those of the frames sent, and
when no packet is being delivered each packet taken has been delivered, with one write to every collector.  The metrics
say what the counters say, no counter ever decreases, and none is changed by a start or a stop. -/
theorem accounting (c : MirrorConfig) (gatewayId : String) (events : List Event)
    (hwhole : ∀ w ∈ history write? { config := c, gatewayId } events, w.IsWhole (.ofConfig c gatewayId)) :
    let start : MirrorSystem := { config := c, gatewayId }
    let s := start.run events
    let ws := history write? start events
    let ds := history delivered? start events
    let stats := s.tally.stats
    stats.sent = ws.countP Write.isSent ∧
      stats.errors = ws.countP Write.isLost + ws.countP Write.isMissed ∧
      stats.bytes = ((ws.filter Write.isSent).map fun w =>
        c.encapsulation.headerLength + w.ticket.observation.packet.payload.length).sum ∧
      (s.isDelivering = false → ds.length = s.taken.length ∧
        stats.sent + ws.countP Write.isLost = ds.length * c.destinations.length) ∧
      s.tally.Agrees ∧ (∀ e ∈ [.beginStart, .finishStart, .stop], (s.step e).tally = s.tally) ∧
      ∀ events', s.tally.Grows (s.run events').tally := by
  intro start s ws ds stats
  have hstart : start.Sound := ⟨fun hne => absurd rfl hne, nofun, nofun⟩
  have hbooked : s.Booked ws ds := booked_run hstart ⟨rfl, rfl, rfl, (Nat.zero_mul _).symm, rfl⟩ events
  have hagrees : s.tally.Agrees := agrees_run ⟨rfl, rfl, rfl, rfl⟩ events
  have hcollectors : s.pipeline.collectors = c.destinations :=
    congrArg MirrorConfig.destinations (config_run hstart events)
  refine ⟨hbooked.sent_eq, hbooked.errors_eq, hbooked.bytes_eq.trans (sum_bytes hwhole), ?_, hagrees,
    fun e he => tally_step_of_lifecycle s he, fun events' => grows_run s events'⟩
  intro hidle
  have hdelivered := hbooked.delivered_eq
  have howed := hbooked.owed_eq
  rw [load_eq_zero hidle, Nat.add_zero] at hdelivered howed
  refine ⟨hdelivered, ?_⟩
  rw [hdelivered, ← hcollectors, ← howed, ← countP_isSent_add ws]
  exact congrArg (· + _) hbooked.sent_eq

/-- One packet for two collectors and the intrusion detection: one write succeeds and two fail, then the engine is
stopped and started again. -/
theorem accounting_of_restart :
    let c : MirrorConfig := { destinations := ["a:1", "b:2"], queueSize := 1, workers := 1, idsHost := some "ids" }
    let o : Observation := ⟨⟨0, 0⟩, .stream "a:1" "b:2" [7]⟩
    let events : List Event := [.beginStart, .finishStart, .enqueue o, .take 0 0, .write 0 0 (some 9), .write 0 0 none,
      .write 0 0 none, .write 0 0 none, .stop, .finish 0 0, .beginStart, .finishStart]
    ∃ s : MirrorSystem, s = run { config := c, gatewayId := "gw-1" } events ∧ s.isDelivering = false ∧
      s.tally.stats.sent = 1 ∧ s.tally.stats.errors = 1 + 1 ∧ s.tally.stats.bytes = 9 ∧
      s.tally.metrics.total MirrorTally.bytesCounter = 9 ∧
      1 + 1 = (history delivered? { config := c, gatewayId := "gw-1" } events).length * c.destinations.length := by
  intro c o events
  have hwhole : ∀ w ∈ history write? { config := c, gatewayId := "gw-1" } events, w.IsWhole (.ofConfig c "gw-1") := by
    intro w hw
    rw [Write.isWhole_iff]
    revert w
    decide +kernel
  have hcounts : (history write? { config := c, gatewayId := "gw-1" } events).countP Write.isSent = 1 ∧
      (history write? { config := c, gatewayId := "gw-1" } events).countP Write.isLost = 1 ∧
      (history write? { config := c, gatewayId := "gw-1" } events).countP Write.isMissed = 1 := by decide +kernel
  have hsum : (((history write? { config := c, gatewayId := "gw-1" } events).filter Write.isSent).map fun w =>
      c.encapsulation.headerLength + w.ticket.observation.packet.payload.length).sum = 9 := by decide +kernel
  have hstopped : (run { config := c, gatewayId := "gw-1" } events).isDelivering = false := by decide +kernel
  obtain ⟨hsent, herrors, hbytes, hidle, hagrees, -, -⟩ := accounting c "gw-1" events hwhole
  obtain ⟨hone, hlost, hmissed⟩ := hcounts
  have hdelivered := (hidle hstopped).2
  rw [hone] at hsent
  rw [hlost, hmissed] at herrors
  rw [hsent, hlost] at hdelivered
  exact ⟨_, rfl, hstopped, hsent, herrors, hbytes.trans hsum, hagrees.bytes.trans (hbytes.trans hsum), hdelivered⟩

/-! ### One delivery -/

private theorem tally_run_writes {t : Ticket} {left : List Sink} (hrun : s.runs[k]? = some r)
    (hworker : r.workers[i]? = some (.delivering t left)) (outcomes : List (Option Nat))
    (hlength : outcomes.length = left.length) :
    (s.run (outcomes.map (.write k i))).tally =
      (left.zip outcomes).foldl (fun tally x => MirrorPipeline.count x.1 x.2 tally) s.tally := by
  induction left generalizing s r outcomes with
  | nil =>
    obtain rfl := List.length_eq_zero_iff.1 hlength
    rfl
  | cons sink left ih =>
    obtain ⟨written, outcomes, rfl⟩ := List.exists_cons_of_length_eq_add_one hlength
    obtain ⟨hk, -⟩ := List.getElem?_eq_some_iff.1 hrun
    obtain ⟨hi, -⟩ := List.getElem?_eq_some_iff.1 hworker
    have hworking : s.runs[k]?.bind (·.workers[i]?) = some (.delivering t (sink :: left)) := by
      rw [hrun, Option.bind_some, hworker]
    have hstep : s.step (.write k i written) = { s with
        tally := MirrorPipeline.count sink written s.tally
        runs := s.runs.set k (setWorker i (.delivering t left) r) } := by
      rw [step, hworking]
      dsimp only
      rw [changeRun_eq_set hrun]
    have hnext := @ih (s.step (.write k i written)) (setWorker i (.delivering t left) r)
      (by rw [hstep]; exact List.getElem?_set_self hk) (List.getElem?_set_self hi) outcomes (Nat.succ.inj hlength)
    refine hnext.trans ?_
    rw [hstep]
    rfl

private theorem exists_outcomes {σ : Type} (bytes : Sink → List UInt8) (write : Sink → List UInt8 → σ → Option Nat × σ)
    (sinks : List Sink) (tally : MirrorTally) (x : σ) :
    ∃ outcomes : List (Option Nat), outcomes.length = sinks.length ∧
      (sinks.foldl (fun (t, x) sink =>
        let (written, x) := write sink (bytes sink) x
        (MirrorPipeline.count sink written t, x)) (tally, x)).1 =
        (sinks.zip outcomes).foldl (fun tally x => MirrorPipeline.count x.1 x.2 tally) tally := by
  induction sinks generalizing tally x with
  | nil => exact ⟨[], rfl, rfl⟩
  | cons sink sinks ih =>
    obtain ⟨outcomes, hlength, htally⟩ := ih (MirrorPipeline.count sink (write sink (bytes sink) x).1 tally)
      (write sink (bytes sink) x).2
    exact ⟨(write sink (bytes sink) x).1 :: outcomes, congrArg Nat.succ hlength, htally⟩

/-- A worker that takes a packet and ends its writes leaves the counters that the delivery of the packet leaves. -/
theorem exists_run_deliver {σ : Type} {t : Ticket} {rest : List Ticket} (hrun : s.runs[k]? = some r)
    (hworker : r.workers[i]? = some .waiting) (hqueue : r.queue = t :: rest) (present : UInt64)
    (write : Sink → List UInt8 → σ → Option Nat × σ) (x : σ) :
    ∃ outcomes : List (Option Nat), (s.run (.take k i :: outcomes.map (.write k i))).tally =
      (s.pipeline.deliver present write t.observation s.tally x).1 := by
  obtain ⟨outcomes, hlength, htally⟩ :=
    exists_outcomes (s.pipeline.bytesFor present t.observation) write s.pipeline.sinks s.tally x
  obtain ⟨hk, -⟩ := List.getElem?_eq_some_iff.1 hrun
  obtain ⟨hi, -⟩ := List.getElem?_eq_some_iff.1 hworker
  have hstep : s.step (.take k i) = { s with
      runs := s.runs.set k { setWorker i (.delivering t s.pipeline.sinks) r with queue := rest }
      taken := s.taken ++ [t.number] } := by
    rw [step]
    dsimp only
    rw [hrun]
    dsimp only
    rw [hworker, hqueue]
    dsimp only
    rw [changeRun_eq_set hrun]
  have hwrites := @tally_run_writes (s.step (.take k i)) k i
    { setWorker i (.delivering t s.pipeline.sinks) r with queue := rest } t s.pipeline.sinks
    (by rw [hstep]; exact List.getElem?_set_self hk) (List.getElem?_set_self hi) outcomes hlength
  refine ⟨outcomes, hwrites.trans ?_⟩
  rw [hstep]
  exact htally.symm

end MirrorSystem

end AccessGateway
