import AccessGateway.Mirror.Engine
import Mathlib.Data.List.Basic
import Mathlib.Data.List.Induction

/-!
# Packets of the mirror

A packet that is handed over is refused and counted, or waits in the queue of a run until a worker takes it or the last
worker of the run ends, which discards what still waits.  One event does one of ten things (`happens_step`), and of the
queues it changes one at most (`moves_step`).  From this follow, for every order of the events, that each accepted
packet waits, was taken or was discarded, and only one of these (`balance_run`), and that the packets of a run are
taken in the order in which they were accepted, the first ones before any is discarded (`order_run`).
-/

namespace AccessGateway

namespace MirrorRun

def numbers (r : MirrorRun) : List Nat := r.queue.map (·.number)

/-- Every worker has ended. -/
def IsOver (r : MirrorRun) : Prop := ∀ w ∈ r.workers, w = .ended

/-- The queue keeps within its bound, and no packet waits or may still come when every worker has ended. -/
structure Sound (size : Nat) (r : MirrorRun) : Prop where
  length_le : r.queue.length ≤ size
  closed_of_cancelled : r.isCancelled → r.isOpen = false
  closed_of_over : r.IsOver → r.isOpen = false
  empty_of_over : r.IsOver → r.queue = []

end MirrorRun

namespace MirrorSystem

/-- The packets that wait in each run. -/
def lines (s : MirrorSystem) : List (List Nat) := s.runs.map MirrorRun.numbers

/-- The packets that wait in a run. -/
def waiting (s : MirrorSystem) (k : Nat) : List Nat := s.lines[k]?.getD []

/-- The packets that wait in any run. -/
def held (s : MirrorSystem) : List Nat := s.lines.flatten

/-- The run whose queue an event is about. -/
def place? (s : MirrorSystem) : Event → Option Nat
  | .enqueue _ => s.current
  | .take k _ | .finish k _ => some k
  | .beginStart | .finishStart | .write _ _ _ | .stop => none

/-- The packets that an event puts into a queue. -/
def accepts (s : MirrorSystem) (e : Event) : List Nat := (s.step e).accepted.drop s.accepted.length

/-- The packets that a worker takes in an event. -/
def takes (s : MirrorSystem) (e : Event) : List Nat := (s.step e).taken.drop s.taken.length

/-- The packets that an event discards: those that wait in a run whose queue a worker leaves empty as it ends. -/
def discards (s : MirrorSystem) (e : Event) : List Nat :=
  match e with
  | .finish k _ => if (s.step e).waiting k = [] then s.waiting k else []
  | _ => []

/-- What events do in one run. -/
def within (k : Nat) (f : MirrorSystem → Event → List Nat) (s : MirrorSystem) (e : Event) : List Nat :=
  if s.place? e = some k then f s e else []

/-- What the events of a run bring, in their order. -/
def collect (f : MirrorSystem → Event → List Nat) : MirrorSystem → List Event → List Nat
  | _, [] => []
  | s, e :: events => f s e ++ collect f (s.step e) events

def Event.isEnqueue : Event → Bool
  | .enqueue _ => true
  | _ => false

/-- Packets are handed to a run that may still get some, and every run is sound. -/
structure Sound (s : MirrorSystem) : Prop where
  workers_pos : s.starting ≠ 0 → 0 < s.config.workers
  current_open : ∀ k r, s.current = some k → s.runs[k]? = some r → r.isOpen
  run : ∀ r ∈ s.runs, r.Sound s.config.queueSize

/-- Each packet that was handed over was refused or accepted, and later ones have greater numbers. -/
structure Counted (s : MirrorSystem) : Prop where
  offered_eq : s.offered = s.tally.stats.dropped + s.accepted.length
  pairwise_accepted : s.accepted.Pairwise (· < ·)
  le_offered : ∀ n ∈ s.accepted, n ≤ s.offered

inductive Happens (s : MirrorSystem) : Event → MirrorSystem → Prop where
  | nothing {e : Event} (h : ∀ o, e ≠ .enqueue o) : Happens s e s
  | begun (hworkers : 0 < s.config.workers) : Happens s .beginStart { s with starting := s.starting + 1 }
  | started (hstarting : s.starting ≠ 0) :
      Happens s .finishStart
        { s with
          starting := s.starting - 1
          runs := s.closeCurrent ++ [{ workers := List.replicate s.config.workers .waiting }]
          current := some s.runs.length }
  | refused (o : Observation) :
      Happens s (.enqueue o) { s with offered := s.offered + 1, tally := s.tally.addDropped }
  | accepted (o : Observation) {k : Nat} {r : MirrorRun} (hcurrent : s.current = some k) (hrun : s.runs[k]? = some r)
      (hroom : r.queue.length < s.config.queueSize) :
      Happens s (.enqueue o)
        { s with
          offered := s.offered + 1
          runs := s.runs.set k { r with queue := r.queue ++ [⟨s.offered + 1, o⟩] }
          accepted := s.accepted ++ [s.offered + 1] }
  | took {k w : Nat} {r : MirrorRun} {t : Ticket} {rest : List Ticket} (hrun : s.runs[k]? = some r)
      (hworker : r.workers[w]? = some .waiting) (hqueue : r.queue = t :: rest) (left : List Sink) :
      Happens s (.take k w)
        { s with
          runs := s.runs.set k { setWorker w (.delivering t left) r with queue := rest }
          taken := s.taken ++ [t.number] }
  | wrote {k w : Nat} {written : Option Nat} {r : MirrorRun} (hrun : s.runs[k]? = some r) {worker : MirrorWorker}
      (hworker : r.workers[w]? = some worker) (hactive : worker ≠ .ended) {worker' : MirrorWorker}
      (hstays : worker' ≠ .ended) {tally : MirrorTally} (hdropped : tally.stats.dropped = s.tally.stats.dropped) :
      Happens s (.write k w written) { s with tally, runs := s.runs.set k (setWorker w worker' r) }
  | ended {k w : Nat} {r : MirrorRun} (hrun : s.runs[k]? = some r) (hworker : r.workers[w]? = some .waiting)
      (hmore : ¬ (setWorker w .ended r).IsOver) :
      Happens s (.finish k w) { s with runs := s.runs.set k (setWorker w .ended r) }
  | discarded {k w : Nat} {r : MirrorRun} (hrun : s.runs[k]? = some r) (hworker : r.workers[w]? = some .waiting)
      (hclosed : r.isOpen = false) (hover : (setWorker w .ended r).IsOver) :
      Happens s (.finish k w) { s with runs := s.runs.set k { setWorker w .ended r with queue := [] } }
  | stopped {k : Nat} (hcurrent : s.current = some k) :
      Happens s .stop
        { s with current := none, runs := s.changeRun k fun r => { closeRun r with isCancelled := true } }

/-- Every worker of a run has ended. -/
def IsOver (s : MirrorSystem) (k : Nat) : Prop := ∃ r, s.runs[k]? = some r ∧ r.IsOver

/-- What one event does with the packets that wait: it changes one queue at most.  Nothing is taken from a run that is
over, and a run whose packets are discarded is over from then on. -/
inductive Moves (s s' : MirrorSystem) (place : Option Nat) (accepts takes discards : List Nat) : Prop where
  | none (hlines : s'.lines = s.lines) (ha : accepts = []) (ht : takes = []) (hd : discards = [])
  | opened (hlines : s'.lines = s.lines ++ [[]]) (ha : accepts = []) (ht : takes = []) (hd : discards = [])
  | accepted {k : Nat} {line : List Nat} (n : Nat) (hplace : place = some k) (hk : s.lines[k]? = some line)
      (hlines : s'.lines = s.lines.set k (line ++ [n])) (ha : accepts = [n]) (ht : takes = []) (hd : discards = [])
  | took {k n : Nat} {rest : List Nat} (hplace : place = some k) (hk : s.lines[k]? = some (n :: rest))
      (hover : ¬ s.IsOver k) (hlines : s'.lines = s.lines.set k rest) (ha : accepts = []) (ht : takes = [n])
      (hd : discards = [])
  | discarded {k : Nat} {line : List Nat} (hplace : place = some k) (hk : s.lines[k]? = some line)
      (hover : s'.IsOver k) (hlines : s'.lines = s.lines.set k []) (ha : accepts = []) (ht : takes = [])
      (hd : discards = line)

variable {s s' : MirrorSystem} {e : Event} {k : Nat} {r : MirrorRun}

/-! ### One event -/

theorem changeRun_eq_set (h : s.runs[k]? = some r) (f : MirrorRun → MirrorRun) :
    s.changeRun k f = s.runs.set k (f r) := by
  rw [changeRun, List.modify_eq_set_getElem?, h]
  rfl

private theorem beq_ended_iff {w : MirrorWorker} : (w == .ended) = true ↔ w = .ended := by
  cases w with
  | ended => exact ⟨fun _ => rfl, fun _ => rfl⟩
  | waiting | delivering => exact ⟨nofun, nofun⟩

private theorem all_ended_iff {workers : List MirrorWorker} :
    workers.all (· == .ended) = true ↔ ∀ w ∈ workers, w = .ended := by
  rw [List.all_eq_true]
  exact forall₂_congr fun _ _ => beq_ended_iff

theorem beq_waiting_iff {w : Option MirrorWorker} : (w == some .waiting) = true ↔ w = some .waiting := by
  rcases w with _ | _ | _ | _
  · exact ⟨nofun, nofun⟩
  · exact ⟨fun _ => rfl, fun _ => rfl⟩
  · exact ⟨nofun, nofun⟩
  · exact ⟨nofun, nofun⟩

private theorem workers_pos_of_startFailure? {c : MirrorConfig} {running : Bool}
    (h : ¬ (MirrorEngine.startFailure? c running).isSome) : 0 < c.workers := by
  unfold MirrorEngine.startFailure? at h
  split at h
  · exact absurd rfl h
  · split at h
    · exact absurd rfl h
    · rename_i hpos
      simp only [Bool.or_eq_true, decide_eq_true_eq, not_or] at hpos
      omega

theorem dropped_count (sink : Sink) (written : Option Nat) (t : MirrorTally) :
    (MirrorPipeline.count sink written t).stats.dropped = t.stats.dropped := by
  cases sink <;> cases written <;> rfl

private theorem happens_finish (h : ∀ r ∈ s.runs, r.Sound s.config.queueSize) (k w : Nat) :
    Happens s (.finish k w) (s.step (.finish k w)) := by
  unfold step
  dsimp only
  split
  · exact .nothing nofun
  · rename_i r hrun
    split
    · rename_i hends
      rw [Bool.and_eq_true, beq_waiting_iff, Bool.or_eq_true, Bool.and_eq_true, Bool.not_eq_true'] at hends
      obtain ⟨hworker, hlast⟩ := hends
      -- a worker ends when its run is cancelled, or closed and empty; a cancelled run is closed too
      have hclosed : r.isOpen = false := by
        rcases hlast with hcancelled | ⟨hclosed, -⟩
        · exact (h r (List.mem_of_getElem? hrun)).closed_of_cancelled hcancelled
        · exact hclosed
      rw [changeRun_eq_set hrun]
      split
      · rename_i hover
        exact .discarded hrun hworker hclosed (all_ended_iff.1 hover)
      · rename_i hmore
        exact .ended hrun hworker (mt all_ended_iff.2 hmore)
    · exact .nothing nofun

private theorem happens_offer (o : Observation) : Happens s (.enqueue o) (s.step (.enqueue o)) := by
  unfold step offer
  dsimp only
  split
  · exact .refused o
  · rename_i k hcurrent
    split
    · exact .refused o
    · rename_i r hrun
      split
      · rename_i hroom
        have hset : changeRun { s with offered := s.offered + 1 } k
            (fun r => { r with queue := r.queue ++ [⟨s.offered + 1, o⟩] }) = s.runs.set k _ := changeRun_eq_set hrun _
        rw [hset]
        exact .accepted o hcurrent hrun hroom
      · exact .refused o

theorem happens_step (h : s.Sound) (e : Event) : Happens s e (s.step e) := by
  cases e with
  | beginStart =>
    unfold step
    dsimp only
    split
    · exact .nothing nofun
    · rename_i hstart
      exact .begun (workers_pos_of_startFailure? hstart)
  | finishStart =>
    unfold step
    dsimp only
    split
    · exact .nothing nofun
    · rename_i hstarting
      exact .started hstarting
  | enqueue o => exact happens_offer o
  | take k w =>
    unfold step
    dsimp only
    split
    · exact .nothing nofun
    · rename_i r hrun
      split
      · rename_i t rest hworker hqueue
        rw [changeRun_eq_set hrun]
        exact .took hrun hworker hqueue _
      · exact .nothing nofun
  | write k w written =>
    unfold step
    dsimp only
    split
    · rename_i t sink left hdelivering
      obtain ⟨r, hrun, hworker⟩ := Option.bind_eq_some_iff.1 hdelivering
      rw [changeRun_eq_set hrun]
      refine .wrote hrun hworker ?_ ?_ (dropped_count sink written s.tally)
      · nofun
      · nofun
    · rename_i t hdelivering
      obtain ⟨r, hrun, hworker⟩ := Option.bind_eq_some_iff.1 hdelivering
      rw [changeRun_eq_set hrun]
      refine .wrote hrun hworker ?_ ?_ rfl
      · nofun
      · nofun
    · exact .nothing nofun
  | finish k w => exact happens_finish h.run k w
  | stop =>
    unfold step
    dsimp only
    split
    · exact .nothing nofun
    · rename_i k hcurrent
      exact .stopped hcurrent

/-! ### Soundness -/

private theorem not_isOver_setWorker {w : Nat} {worker worker' : MirrorWorker} (h : r.workers[w]? = some worker)
    (hworker' : worker' ≠ .ended) : ¬ (setWorker w worker' r).IsOver := by
  intro hover
  obtain ⟨hlt, -⟩ := List.getElem?_eq_some_iff.1 h
  exact hworker' (hover worker' (List.mem_set hlt worker'))

private theorem sound_of_not_isOver {size : Nat} {r' : MirrorRun} (h : r.Sound size) (hover : ¬ r'.IsOver)
    (hlength : r'.queue.length ≤ size) (hopen : r'.isOpen = r.isOpen) (hcancelled : r'.isCancelled = r.isCancelled) :
    r'.Sound size := by
  refine ⟨hlength, fun hc => ?_, fun ho => absurd ho hover, fun ho => absurd ho hover⟩
  rw [hopen]
  exact h.closed_of_cancelled (hcancelled ▸ hc)

private theorem sound_close {size : Nat} {r' : MirrorRun} (h : r.Sound size) (hqueue : r'.queue = r.queue)
    (hworkers : r'.workers = r.workers) (hclosed : r'.isOpen = false) : r'.Sound size := by
  refine ⟨hqueue ▸ h.length_le, fun _ => hclosed, fun _ => hclosed, fun hover => ?_⟩
  rw [hqueue]
  rw [MirrorRun.IsOver, hworkers] at hover
  exact h.empty_of_over hover

private theorem sound_set {r' : MirrorRun} (h : s.Sound) (hrun : s.runs[k]? = some r)
    (hr' : r'.Sound s.config.queueSize) (hopen : r'.isOpen = r.isOpen) (hruns : s'.runs = s.runs.set k r')
    (hconfig : s'.config = s.config) (hstarting : s'.starting = s.starting) (hcurrent : s'.current = s.current) :
    s'.Sound := by
  refine ⟨?_, ?_, ?_⟩
  · rw [hconfig, hstarting]
    exact h.workers_pos
  · rw [hcurrent, hruns]
    intro j r₀ hj hr₀
    by_cases hjk : k = j
    · subst hjk
      obtain ⟨hlt, -⟩ := List.getElem?_eq_some_iff.1 hrun
      rw [List.getElem?_set_self hlt] at hr₀
      obtain rfl := Option.some.inj hr₀
      rw [hopen]
      exact h.current_open k r hj hrun
    · rw [List.getElem?_set_ne hjk] at hr₀
      exact h.current_open j r₀ hj hr₀
  · rw [hconfig, hruns]
    intro r₀ hr₀
    rcases List.mem_or_eq_of_mem_set hr₀ with hmem | rfl
    · exact h.run r₀ hmem
    · exact hr'

private theorem sound_changeRun {size : Nat} (f : MirrorRun → MirrorRun) (h : ∀ r ∈ s.runs, r.Sound size)
    (hf : ∀ r : MirrorRun, r.Sound size → (f r).Sound size) (k : Nat) : ∀ r ∈ s.changeRun k f, r.Sound size := by
  intro r hr
  obtain ⟨j, hj⟩ := List.mem_iff_getElem?.1 hr
  rw [changeRun, List.getElem?_modify] at hj
  obtain ⟨r₀, hr₀, rfl⟩ := Option.map_eq_some_iff.1 hj
  have hsound := h r₀ (List.mem_of_getElem? hr₀)
  split
  · exact hf r₀ hsound
  · exact hsound

private theorem sound_closeCurrent {size : Nat} (h : ∀ r ∈ s.runs, r.Sound size) :
    ∀ r ∈ s.closeCurrent, r.Sound size := by
  unfold closeCurrent
  split
  · exact sound_changeRun closeRun h (fun r hr => sound_close hr rfl rfl rfl) _
  · exact h

private theorem length_closeCurrent (s : MirrorSystem) : s.closeCurrent.length = s.runs.length := by
  unfold closeCurrent
  split
  · exact List.length_modify _ _ _
  · rfl

private theorem sound_of_happens (h : s.Sound) (hhappens : Happens s e s') : s'.Sound := by
  cases hhappens with
  | nothing => exact h
  | begun hworkers => exact ⟨fun _ => hworkers, h.current_open, h.run⟩
  | started hstarting =>
    have hworkers := h.workers_pos hstarting
    refine ⟨fun _ => hworkers, ?_, ?_⟩
    · intro k r hk hr
      obtain rfl := Option.some.inj hk
      rw [List.getElem?_append_right (Nat.le_of_eq (length_closeCurrent s)), length_closeCurrent, Nat.sub_self] at hr
      obtain rfl := Option.some.inj hr
      rfl
    · intro r hr
      rcases List.mem_append.1 hr with hr | hr
      · exact sound_closeCurrent h.run r hr
      · rw [List.mem_singleton.1 hr]
        have hover : ¬ MirrorRun.IsOver { workers := List.replicate s.config.workers .waiting } := by
          intro hover
          cases hover .waiting (List.mem_replicate.2 ⟨Nat.ne_of_gt hworkers, rfl⟩)
        exact ⟨Nat.zero_le _, nofun, fun ho => absurd ho hover, fun _ => rfl⟩
  | refused o => exact ⟨h.workers_pos, h.current_open, h.run⟩
  | accepted o hcurrent hrun hroom =>
    rename_i k r
    have hr := h.run r (List.mem_of_getElem? hrun)
    -- packets are handed to an open run, and a run that is open has a worker left
    have hover : ¬ r.IsOver := by
      intro hover
      have hclosed := hr.closed_of_over hover
      rw [h.current_open k r hcurrent hrun] at hclosed
      cases hclosed
    refine sound_set h hrun ?_ ?_ rfl rfl rfl rfl
    · refine sound_of_not_isOver hr hover ?_ rfl rfl
      rw [List.length_append]
      exact hroom
    · rfl
  | took hrun hworker hqueue left =>
    rename_i k w r t rest
    have hr := h.run r (List.mem_of_getElem? hrun)
    have hlength := hr.length_le
    rw [hqueue, List.length_cons] at hlength
    have hover : ¬ (setWorker w (.delivering t left) r).IsOver := not_isOver_setWorker hworker nofun
    refine sound_set h hrun ?_ ?_ rfl rfl rfl rfl
    · exact sound_of_not_isOver hr hover (Nat.le_of_succ_le hlength) rfl rfl
    · rfl
  | wrote hrun hworker hactive hstays hdropped =>
    have hr := h.run _ (List.mem_of_getElem? hrun)
    refine sound_set h hrun ?_ ?_ rfl rfl rfl rfl
    · exact sound_of_not_isOver hr (not_isOver_setWorker hworker hstays) hr.length_le rfl rfl
    · rfl
  | ended hrun hworker hmore =>
    have hr := h.run _ (List.mem_of_getElem? hrun)
    refine sound_set h hrun ?_ ?_ rfl rfl rfl rfl
    · exact sound_of_not_isOver hr hmore hr.length_le rfl rfl
    · rfl
  | discarded hrun hworker hclosed hover =>
    refine sound_set h hrun ?_ ?_ rfl rfl rfl rfl
    · exact ⟨Nat.zero_le _, fun _ => hclosed, fun _ => hclosed, fun _ => rfl⟩
    · rfl
  | stopped hcurrent =>
    refine ⟨h.workers_pos, nofun, ?_⟩
    exact sound_changeRun (fun r => { closeRun r with isCancelled := true }) h.run
      (fun r hr => sound_close hr rfl rfl rfl) _

theorem sound_step (h : s.Sound) (e : Event) : (s.step e).Sound := sound_of_happens h (happens_step h e)

/-! ### The packets that wait -/

private theorem getElem?_lines (h : s.runs[k]? = some r) : s.lines[k]? = some r.numbers := by
  rw [lines, List.getElem?_map, h, Option.map_some]

private theorem map_numbers_set (h : s.runs[k]? = some r) {r' : MirrorRun} (hnumbers : r'.numbers = r.numbers) :
    (s.runs.set k r').map MirrorRun.numbers = s.lines := by
  obtain ⟨hlt, hk⟩ := List.getElem?_eq_some_iff.1 (getElem?_lines h)
  rw [List.map_set, hnumbers, ← hk]
  exact List.set_getElem_self hlt

private theorem map_numbers_changeRun (f : MirrorRun → MirrorRun) (hf : ∀ r, (f r).numbers = r.numbers) (k : Nat) :
    (s.changeRun k f).map MirrorRun.numbers = s.lines := by
  apply List.ext_getElem?
  intro j
  rw [changeRun, lines, List.getElem?_map, List.getElem?_map, List.getElem?_modify]
  cases s.runs[j]? with
  | none => rfl
  | some r =>
    dsimp only [Option.map_eq_map, Option.map_some]
    split
    · rw [hf]
    · rfl

private theorem map_numbers_closeCurrent (s : MirrorSystem) : s.closeCurrent.map MirrorRun.numbers = s.lines := by
  unfold closeCurrent
  split
  · exact map_numbers_changeRun closeRun (fun _ => rfl) _
  · rfl

private theorem discards_of_lines (h : s'.lines = s.lines) (k : Nat) :
    (if s'.waiting k = [] then s.waiting k else []) = [] := by
  have hwaiting : s'.waiting k = s.waiting k := by rw [waiting, h, waiting]
  rw [hwaiting]
  split
  · assumption
  · rfl

theorem moves_step (h : s.Sound) (e : Event) :
    Moves s (s.step e) (s.place? e) (s.accepts e) (s.takes e) (s.discards e) := by
  have hhappens := happens_step h e
  -- what is accepted, taken and discarded is read off the state after the event
  unfold accepts takes discards
  revert hhappens
  generalize s.step e = s'
  intro hhappens
  cases hhappens with
  | nothing =>
    refine .none rfl List.drop_length List.drop_length ?_
    split
    · exact discards_of_lines rfl _
    · rfl
  | begun => exact .none rfl List.drop_length List.drop_length rfl
  | started =>
    refine .opened ?_ List.drop_length List.drop_length rfl
    rw [lines, List.map_append, map_numbers_closeCurrent]
    rfl
  | refused => exact .none rfl List.drop_length List.drop_length rfl
  | accepted o hcurrent hrun hroom =>
    refine .accepted (s.offered + 1) hcurrent (getElem?_lines hrun) ?_ List.drop_left List.drop_length rfl
    rw [lines, List.map_set, MirrorRun.numbers, List.map_append]
    rfl
  | took hrun hworker hqueue left =>
    rename_i k w r t rest
    have hk : s.lines[k]? = some (t.number :: rest.map (·.number)) := by
      rw [getElem?_lines hrun, MirrorRun.numbers, hqueue, List.map_cons]
    refine .took rfl hk ?_ ?_ List.drop_length List.drop_left rfl
    · rintro ⟨r', hr', hover⟩
      obtain rfl := Option.some.inj (hrun.symm.trans hr')
      cases hover _ (List.mem_of_getElem? hworker)
    · exact List.map_set
  | wrote hrun hworker hactive hstays hdropped =>
    exact .none (map_numbers_set hrun rfl) List.drop_length List.drop_length rfl
  | ended hrun hworker hmore =>
    rename_i k w r
    have hlines : lines { s with runs := s.runs.set k (setWorker w .ended r) } = s.lines := map_numbers_set hrun rfl
    exact .none hlines List.drop_length List.drop_length (discards_of_lines hlines k)
  | discarded hrun hworker hclosed hover =>
    rename_i k w r
    obtain ⟨hlt, -⟩ := List.getElem?_eq_some_iff.1 hrun
    have hlt' : k < s.lines.length := by rwa [lines, List.length_map]
    have hwaiting : s.waiting k = r.numbers := by rw [waiting, getElem?_lines hrun, Option.getD_some]
    refine .discarded rfl (getElem?_lines hrun) ⟨_, List.getElem?_set_self hlt, hover⟩ List.map_set List.drop_length
      List.drop_length ?_
    refine (if_pos ?_).trans hwaiting
    rw [waiting, lines, List.map_set]
    dsimp only
    rw [← lines, List.getElem?_set_self hlt']
    rfl
  | stopped hcurrent =>
    rename_i k
    have hlines := s.map_numbers_changeRun (fun r => { closeRun r with isCancelled := true }) (fun _ => rfl) k
    exact .none hlines List.drop_length List.drop_length rfl

/-! ### Counts -/

theorem length_held (s : MirrorSystem) : s.held.length = s.queued := by
  have hlengths : s.lines.map List.length = s.runs.map fun r => r.queue.length := by
    rw [lines, List.map_map]
    exact List.map_congr_left fun r _ => List.length_map _
  rw [held, List.length_flatten, hlengths]
  rfl

private theorem counted_of_happens (hc : s.Counted) (hhappens : Happens s e s') : s'.Counted := by
  have hoffered := hc.offered_eq
  cases hhappens with
  | refused o =>
    refine ⟨?_, hc.pairwise_accepted, fun n hn => Nat.le_succ_of_le (hc.le_offered n hn)⟩
    change s.offered + 1 = s.tally.stats.dropped + 1 + s.accepted.length
    omega
  | accepted o =>
    refine ⟨?_, ?_, ?_⟩
    · change s.offered + 1 = s.tally.stats.dropped + (s.accepted ++ [s.offered + 1]).length
      rw [List.length_append, List.length_singleton]
      omega
    · refine List.pairwise_append.2 ⟨hc.pairwise_accepted, List.pairwise_singleton _ _, ?_⟩
      intro n hn n' hn'
      rw [List.mem_singleton.1 hn']
      exact Nat.lt_succ_of_le (hc.le_offered n hn)
    · intro n hn
      rcases List.mem_append.1 hn with hn | hn
      · exact Nat.le_succ_of_le (hc.le_offered n hn)
      · exact Nat.le_of_eq (List.mem_singleton.1 hn)
  | wrote hrun hworker hactive hstays hdropped =>
    exact ⟨by rw [hdropped]; exact hoffered, hc.pairwise_accepted, hc.le_offered⟩
  | _ => exact ⟨hoffered, hc.pairwise_accepted, hc.le_offered⟩

theorem counted_step (h : s.Sound) (hc : s.Counted) (e : Event) : (s.step e).Counted :=
  counted_of_happens hc (happens_step h e)

private theorem offered_of_happens (hhappens : Happens s e s') :
    s'.offered = s.offered + if e.isEnqueue then 1 else 0 := by
  cases hhappens with
  | nothing hnot =>
    cases e with
    | enqueue o => exact absurd rfl (hnot o)
    | _ => rfl
  | _ => rfl

theorem offered_step (h : s.Sound) (e : Event) : (s.step e).offered = s.offered + if e.isEnqueue then 1 else 0 :=
  offered_of_happens (happens_step h e)

private theorem accepted_prefix_of_happens (hhappens : Happens s e s') :
    s.accepted <+: s'.accepted ∧ s.taken <+: s'.taken := by
  cases hhappens with
  | accepted => exact ⟨List.prefix_append _ _, List.prefix_rfl⟩
  | took => exact ⟨List.prefix_rfl, List.prefix_append _ _⟩
  | _ => exact ⟨List.prefix_rfl, List.prefix_rfl⟩

theorem accepted_step (h : s.Sound) (e : Event) :
    (s.step e).accepted = s.accepted ++ s.accepts e ∧ (s.step e).taken = s.taken ++ s.takes e := by
  obtain ⟨haccepted, htaken⟩ := accepted_prefix_of_happens (happens_step h e)
  exact ⟨List.prefix_iff_eq_append.1 haccepted |>.symm, List.prefix_iff_eq_append.1 htaken |>.symm⟩

private theorem config_of_happens (hhappens : Happens s e s') : s'.config = s.config := by
  cases hhappens <;> rfl

/-! ### Balance -/

/-- When a line is changed, what it held goes and what it holds now comes. -/
private theorem count_flatten_set {ls : List (List Nat)} {line : List Nat} (h : ls[k]? = some line) (line' : List Nat)
    (n : Nat) : (ls.set k line').flatten.count n + line.count n = ls.flatten.count n + line'.count n := by
  induction ls generalizing k with
  | nil => cases h
  | cons l ls ih =>
    cases k with
    | zero =>
      obtain rfl := Option.some.inj h
      simp only [List.set_cons_zero, List.flatten_cons, List.count_append]
      omega
    | succ k =>
      have hrest := ih h
      simp only [List.set_cons_succ, List.flatten_cons, List.count_append]
      omega

theorem balance_of_moves {place : Option Nat} {as ts ds : List Nat} (h : Moves s s' place as ts ds) :
    (ts ++ (s'.held ++ ds)).Perm (s.held ++ as) := by
  unfold held
  rw [List.perm_iff_count]
  intro n
  cases h with
  | none hlines ha ht hd =>
    rw [hlines, ha, ht, hd, List.nil_append]
  | opened hlines ha ht hd =>
    rw [hlines, ha, ht, hd, List.nil_append, List.flatten_concat, List.append_nil]
  | accepted m hplace hk hlines ha ht hd =>
    rename_i j line
    have hset := count_flatten_set hk (line ++ [m]) n
    rw [List.count_append] at hset
    rw [hlines, ha, ht, hd, List.nil_append, List.append_nil, List.count_append]
    omega
  | took hplace hk hover hlines ha ht hd =>
    rename_i j m rest
    have hset := count_flatten_set hk rest n
    rw [← List.singleton_append, List.count_append] at hset
    rw [hlines, ha, ht, hd, List.append_nil, List.append_nil, List.count_append]
    omega
  | discarded hplace hk hover hlines ha ht hd =>
    have hset := count_flatten_set hk [] n
    rw [List.count_nil, Nat.add_zero] at hset
    rw [hlines, ha, ht, hd, List.nil_append, List.append_nil, List.count_append]
    exact hset

/-! ### Order -/

private theorem isOver_set {j : Nat} {r' : MirrorRun} (h : s.IsOver k) (hrun : s.runs[j]? = some r)
    (hr' : r.IsOver → r'.IsOver) (hruns : s'.runs = s.runs.set j r') : s'.IsOver k := by
  obtain ⟨r₀, hr₀, hover⟩ := h
  rw [IsOver, hruns]
  by_cases hjk : j = k
  · subst hjk
    obtain rfl := Option.some.inj (hrun.symm.trans hr₀)
    obtain ⟨hlt, -⟩ := List.getElem?_eq_some_iff.1 hrun
    exact ⟨r', List.getElem?_set_self hlt, hr' hover⟩
  · exact ⟨r₀, by rw [List.getElem?_set_ne hjk, hr₀], hover⟩

private theorem isOver_changeRun (f : MirrorRun → MirrorRun) (h : s.IsOver k)
    (hf : ∀ r : MirrorRun, r.IsOver → (f r).IsOver) (j : Nat) :
    ∃ r, (s.changeRun j f)[k]? = some r ∧ r.IsOver := by
  obtain ⟨r₀, hr₀, hover⟩ := h
  rw [changeRun, List.getElem?_modify, hr₀]
  refine ⟨_, rfl, ?_⟩
  split
  · exact hf r₀ hover
  · exact hover

private theorem isOver_closeCurrent (h : s.IsOver k) : ∃ r, s.closeCurrent[k]? = some r ∧ r.IsOver := by
  unfold closeCurrent
  split
  · exact isOver_changeRun closeRun h (fun _ hr => hr) _
  · exact h

private theorem not_isOver_of_worker {w : Nat} {worker : MirrorWorker} (h : r.workers[w]? = some worker)
    (hactive : worker ≠ .ended) : ¬ r.IsOver :=
  fun hover => hactive (hover worker (List.mem_of_getElem? h))

private theorem isOver_of_happens (hover : s.IsOver k) (hhappens : Happens s e s') : s'.IsOver k := by
  cases hhappens with
  | nothing | begun | refused => exact hover
  | started =>
    obtain ⟨r, hr, hr'⟩ := isOver_closeCurrent hover
    obtain ⟨hlt, -⟩ := List.getElem?_eq_some_iff.1 hr
    exact ⟨r, by rw [List.getElem?_append_left hlt, hr], hr'⟩
  | accepted o hcurrent hrun =>
    refine isOver_set hover hrun ?_ rfl
    exact fun hr => hr
  | took hrun hworker =>
    exact isOver_set hover hrun (fun hr => absurd hr (not_isOver_of_worker hworker nofun)) rfl
  | wrote hrun hworker hactive =>
    exact isOver_set hover hrun (fun hr => absurd hr (not_isOver_of_worker hworker hactive)) rfl
  | ended hrun hworker =>
    exact isOver_set hover hrun (fun hr => absurd hr (not_isOver_of_worker hworker nofun)) rfl
  | discarded hrun hworker =>
    exact isOver_set hover hrun (fun hr => absurd hr (not_isOver_of_worker hworker nofun)) rfl
  | stopped => exact isOver_changeRun (fun r => { closeRun r with isCancelled := true }) hover (fun _ hr => hr) _

/-- A run that is over stays so. -/
theorem isOver_step (h : s.Sound) (hover : s.IsOver k) (e : Event) : (s.step e).IsOver k :=
  isOver_of_happens hover (happens_step h e)

private theorem waiting_of_lines_set {j : Nat} {line line' : List Nat}
    (hj : s.lines[j]? = some line) (hlines : s'.lines = s.lines.set j line') :
    s.waiting j = line ∧ s'.waiting j = line' ∧ ∀ k, j ≠ k → s'.waiting k = s.waiting k := by
  obtain ⟨hlt, -⟩ := List.getElem?_eq_some_iff.1 hj
  refine ⟨by rw [waiting, hj, Option.getD_some], ?_, fun k hjk => ?_⟩
  · rw [waiting, hlines, List.getElem?_set_self hlt, Option.getD_some]
  · rw [waiting, hlines, List.getElem?_set_ne hjk, waiting]

/-- What a run has accepted is what was taken from it, then what was discarded, then what waits. -/
structure Ordered (k : Nat) (as ts ds : List Nat) (s : MirrorSystem) : Prop where
  accepted_eq : as = ts ++ (ds ++ s.waiting k)
  isOver : ds ≠ [] → s.IsOver k

private theorem getD_concat_nil (ls : List (List Nat)) (k : Nat) : (ls ++ [[]])[k]?.getD [] = ls[k]?.getD [] := by
  rcases Nat.lt_or_ge k ls.length with hlt | hge
  · rw [List.getElem?_append_left hlt]
  · rw [List.getElem?_append_right hge, List.getElem?_eq_none hge]
    cases k - ls.length <;> rfl

private theorem within_of_place {f : MirrorSystem → Event → List Nat} (h : s.place? e = some k) :
    within k f s e = f s e := if_pos h

private theorem within_of_ne {f : MirrorSystem → Event → List Nat} {j : Nat} (h : s.place? e = some j) (hjk : j ≠ k) :
    within k f s e = [] := by
  refine if_neg ?_
  rw [h, Option.some.injEq]
  exact hjk

private theorem within_of_nil {f : MirrorSystem → Event → List Nat} (h : f s e = []) : within k f s e = [] := by
  rw [within, h, ite_self]

private theorem ordered_of_same {as ts ds : List Nat} (h : s.Sound) (ho : Ordered k as ts ds s)
    (hwaiting : (s.step e).waiting k = s.waiting k) (ha : within k accepts s e = []) (ht : within k takes s e = [])
    (hd : within k discards s e = []) :
    Ordered k (as ++ within k accepts s e) (ts ++ within k takes s e) (ds ++ within k discards s e) (s.step e) := by
  rw [ha, ht, hd, List.append_nil, List.append_nil, List.append_nil]
  refine ⟨?_, fun hne => isOver_step h (ho.isOver hne) e⟩
  rw [hwaiting]
  exact ho.accepted_eq

theorem ordered_step (h : s.Sound) {as ts ds : List Nat} (ho : Ordered k as ts ds s) (e : Event) :
    Ordered k (as ++ within k accepts s e) (ts ++ within k takes s e) (ds ++ within k discards s e) (s.step e) := by
  cases moves_step h e with
  | none hlines ha ht hd =>
    have hwaiting : (s.step e).waiting k = s.waiting k := by rw [waiting, hlines, waiting]
    exact ordered_of_same h ho hwaiting (within_of_nil ha) (within_of_nil ht) (within_of_nil hd)
  | opened hlines ha ht hd =>
    have hwaiting : (s.step e).waiting k = s.waiting k := by rw [waiting, hlines, getD_concat_nil, waiting]
    exact ordered_of_same h ho hwaiting (within_of_nil ha) (within_of_nil ht) (within_of_nil hd)
  | accepted n hplace hj hlines ha ht hd =>
    rename_i j line
    obtain ⟨hself, hself', hothers⟩ := waiting_of_lines_set hj hlines
    by_cases hjk : j = k
    · subst hjk
      rw [within_of_place hplace, within_of_nil ht, within_of_nil hd, ha, List.append_nil, List.append_nil]
      refine ⟨?_, fun hne => isOver_step h (ho.isOver hne) e⟩
      rw [ho.accepted_eq, hself, hself']
      simp only [List.append_assoc]
    · exact ordered_of_same h ho (hothers k hjk) (within_of_ne hplace hjk) (within_of_nil ht) (within_of_nil hd)
  | took hplace hj hover hlines ha ht hd =>
    rename_i j n rest
    obtain ⟨hself, hself', hothers⟩ := waiting_of_lines_set hj hlines
    by_cases hjk : j = k
    · subst hjk
      -- a packet is taken only from a run that is not over, of which nothing has been discarded
      have hnone : ds = [] := by
        by_contra hne
        exact hover (ho.isOver hne)
      rw [within_of_nil ha, within_of_place hplace, within_of_nil hd, ht, List.append_nil, List.append_nil]
      refine ⟨?_, fun hne => absurd hnone hne⟩
      rw [ho.accepted_eq, hself, hself', hnone]
      simp only [List.append_assoc, List.nil_append, List.cons_append]
    · exact ordered_of_same h ho (hothers k hjk) (within_of_nil ha) (within_of_ne hplace hjk) (within_of_nil hd)
  | discarded hplace hj hover hlines ha ht hd =>
    rename_i j line
    obtain ⟨hself, hself', hothers⟩ := waiting_of_lines_set hj hlines
    by_cases hjk : j = k
    · subst hjk
      rw [within_of_nil ha, within_of_nil ht, within_of_place hplace, hd, List.append_nil, List.append_nil]
      refine ⟨?_, fun _ => hover⟩
      rw [ho.accepted_eq, hself, hself', List.append_nil]
    · exact ordered_of_same h ho (hothers k hjk) (within_of_nil ha) (within_of_nil ht) (within_of_ne hplace hjk)

/-! ### Runs -/

variable {events : List Event}

theorem run_concat (s : MirrorSystem) (events : List Event) (e : Event) :
    s.run (events ++ [e]) = (s.run events).step e := by
  unfold run
  rw [List.foldl_append]
  rfl

theorem collect_concat (f : MirrorSystem → Event → List Nat) (s : MirrorSystem) (events : List Event) (e : Event) :
    collect f s (events ++ [e]) = collect f s events ++ f (s.run events) e := by
  induction events generalizing s with
  | nil => exact List.append_nil _
  | cons e' events ih =>
    rw [List.cons_append, collect, collect, ih, List.append_assoc]
    rfl

theorem sound_run (h : s.Sound) (events : List Event) : (s.run events).Sound := by
  induction events generalizing s with
  | nil => exact h
  | cons e events ih => exact ih (sound_step h e)

theorem counted_run (h : s.Sound) (hc : s.Counted) (events : List Event) : (s.run events).Counted := by
  induction events generalizing s with
  | nil => exact hc
  | cons e events ih => exact ih (sound_step h e) (counted_step h hc e)

theorem config_run (h : s.Sound) (events : List Event) : (s.run events).config = s.config := by
  induction events generalizing s with
  | nil => rfl
  | cons e events ih => exact (ih (sound_step h e)).trans (config_of_happens (happens_step h e))

theorem offered_run (h : s.Sound) (events : List Event) :
    (s.run events).offered = s.offered + events.countP Event.isEnqueue := by
  induction events generalizing s with
  | nil => rfl
  | cons e events ih =>
    have hrun : s.run (e :: events) = (s.step e).run events := rfl
    rw [hrun, ih (sound_step h e), offered_step h e, List.countP_cons]
    omega

theorem accepted_run (h : s.Sound) (events : List Event) :
    (s.run events).accepted = s.accepted ++ collect accepts s events ∧
      (s.run events).taken = s.taken ++ collect takes s events := by
  induction events generalizing s with
  | nil => exact ⟨(List.append_nil _).symm, (List.append_nil _).symm⟩
  | cons e events ih =>
    obtain ⟨haccepted, htaken⟩ := ih (sound_step h e)
    obtain ⟨haccepts, htakes⟩ := accepted_step h e
    rw [haccepts, List.append_assoc] at haccepted
    rw [htakes, List.append_assoc] at htaken
    exact ⟨haccepted, htaken⟩

/-- What was taken, what waits and what was discarded is what waited before and what was accepted. -/
theorem balance_run (h : s.Sound) (events : List Event) :
    (collect takes s events ++ ((s.run events).held ++ collect discards s events)).Perm
      (s.held ++ collect accepts s events) := by
  induction events using List.reverseRecOn with
  | nil => exact List.Perm.of_eq (by simp [collect, run])
  | append_singleton events e ih =>
    have hstep := balance_of_moves (moves_step (sound_run h events) e)
    rw [collect_concat, collect_concat, collect_concat, run_concat]
    rw [List.perm_iff_count] at ih hstep ⊢
    intro n
    have hih := ih n
    have hn := hstep n
    simp only [List.count_append] at hih hn ⊢
    omega

/-- In every run of the engine packets are taken in the order in which they were accepted. -/
theorem order_run (h : s.Sound) (hfresh : s.runs = []) (k : Nat) (events : List Event) :
    Ordered k (collect (within k accepts) s events) (collect (within k takes) s events)
      (collect (within k discards) s events) (s.run events) := by
  induction events using List.reverseRecOn with
  | nil =>
    refine ⟨?_, fun hne => absurd rfl hne⟩
    rw [run, List.foldl_nil, waiting, lines, hfresh]
    rfl
  | append_singleton events e ih =>
    rw [collect_concat, collect_concat, collect_concat, run_concat]
    exact ordered_step (sound_run h events) ih e

/-- Packets are conserved, whatever starts, stops, hands packets over and takes them, and in whatever order.  Each
packet that was handed over was counted as dropped, or waits, or was taken by a worker, or was discarded when the last
worker of its run ended, and only one of these.  No queue is longer than its bound, and nothing waits in a run that is
over.  From each run packets are taken in the order in which it accepted them, and only after the last one that is
taken come those that are discarded. -/
theorem conservation (c : MirrorConfig) (gatewayId : String) (events : List Event) :
    let start : MirrorSystem := { config := c, gatewayId }
    let s := start.run events
    let discarded := collect discards start events
    s.offered = events.countP Event.isEnqueue ∧
      s.offered = s.tally.stats.dropped + s.queued + s.taken.length + discarded.length ∧
      (s.taken ++ (s.held ++ discarded)).Perm s.accepted ∧ (s.taken ++ (s.held ++ discarded)).Nodup ∧
      (∀ r ∈ s.runs, r.queue.length ≤ c.queueSize ∧ (r.IsOver → r.queue = [])) ∧
      ∀ k, collect (within k accepts) start events =
        collect (within k takes) start events ++ (collect (within k discards) start events ++ s.waiting k) := by
  intro start s discarded
  have hstart : start.Sound := ⟨fun hne => absurd rfl hne, nofun, nofun⟩
  have hsound : s.Sound := sound_run hstart events
  have hcounted : s.Counted := counted_run hstart ⟨rfl, .nil, nofun⟩ events
  have hconfig : s.config = c := config_run hstart events
  obtain ⟨haccepted, htaken⟩ := accepted_run hstart events
  have hbalance : (s.taken ++ (s.held ++ discarded)).Perm s.accepted := by
    rw [haccepted, htaken]
    exact balance_run hstart events
  have hlength := hbalance.length_eq
  rw [List.length_append, List.length_append, length_held] at hlength
  have hnodup : s.accepted.Nodup := hcounted.pairwise_accepted.imp Nat.ne_of_lt
  refine ⟨?_, ?_, hbalance, hbalance.nodup_iff.2 hnodup, ?_, fun k => (order_run hstart rfl k events).accepted_eq⟩
  · exact (offered_run hstart events).trans (Nat.zero_add _)
  · have hoffered := hcounted.offered_eq
    omega
  · intro r hr
    have hr' := hsound.run r hr
    rw [hconfig] at hr'
    exact ⟨hr'.length_le, hr'.empty_of_over⟩

/-- A packet that waits when the engine is stopped is neither taken nor counted as dropped. -/
theorem discarded_at_stop :
    let start : MirrorSystem := { config := { queueSize := 1, workers := 1 }, gatewayId := "gw-1" }
    let s := start.run [.beginStart, .finishStart, .enqueue ⟨⟨0, 0⟩, .stream "a:1" "b:2" [1]⟩, .stop, .finish 0 0]
    (∀ r ∈ s.runs, r.IsOver) ∧ s.offered ≠ s.tally.stats.dropped + s.queued + s.taken.length := by
  intro start s
  have hruns : s.runs = [⟨[], false, true, [.ended]⟩] := rfl
  refine ⟨?_, by decide⟩
  intro r hr w hw
  rw [hruns, List.mem_singleton] at hr
  subst hr
  exact List.mem_singleton.1 hw

-- two starts at a time leave two runs, whose workers take side by side
example :
    let start : MirrorSystem := { config := { queueSize := 1, workers := 1 }, gatewayId := "gw-1" }
    let o : Observation := ⟨⟨0, 0⟩, .stream "a:1" "b:2" [1]⟩
    let events : List Event :=
      [.beginStart, .beginStart, .finishStart, .enqueue o, .finishStart, .enqueue o, .take 1 0, .take 0 0]
    (start.run events).taken = [2, 1] := by
  decide

end MirrorSystem

end AccessGateway
