import AccessGateway.Relay.Duplex
import Mathlib.Logic.Function.Basic

/-!
# Streams that lose nothing

Two directions run side by side without a failure, each with bytes that are still to come (`Carries`).  At every point
the bytes written, the chunk in hand and the bytes to come are all the bytes of a direction, and what was mirrored is
what was written (`Faithful`, `faithful_of_carries`).  So when a direction has ended all its bytes were written,
whatever the other one did meanwhile.  Every event uses something up (`remaining_lt_of_draws`) and there is one that can
happen until both directions have ended (`exists_draws`), so the end of one never keeps the other from its own
(`exists_completion`).
-/

namespace AccessGateway

def DuplexEvent.direction : DuplexEvent → Direction
  | .read d _ | .ended d | .readFailed d | .written d | .writeFailed d | .abandoned d => d

namespace Duplex

/-- The bytes that are still to come in each direction. -/
abbrev Inflow : Type := Direction → List UInt8

def chunksOf (d : Direction) (chunks : List (Direction × List UInt8)) : List (List UInt8) :=
  (chunks.filter (·.1 = d)).map (·.2)

/-- The chunk that was read and not yet written. -/
def inHand : PumpPhase → List UInt8
  | .writing chunk => chunk
  | .reading | .ended => []

/-- An event that can happen without a failure while some bytes are to come, and the bytes to come after it. -/
inductive Draws (s : Duplex) (i : Inflow) : DuplexEvent → Inflow → Prop where
  | read {d : Direction} {chunk rest : List UInt8} (hphase : (s.pump d).phase = .reading) (hchunk : chunk ≠ [])
      (hi : i d = chunk ++ rest) : Draws s i (.read d chunk) (Function.update i d rest)
  | ended {d : Direction} (hphase : (s.pump d).phase = .reading) (hi : i d = []) : Draws s i (.ended d) i
  | written {d : Direction} {chunk : List UInt8} (hphase : (s.pump d).phase = .writing chunk) :
      Draws s i (.written d) i

/-- Events that happen one after the other without a failure, and the bytes to come after them. -/
inductive Carries : Duplex → Inflow → List DuplexEvent → Inflow → Prop where
  | nil (s : Duplex) (i : Inflow) : Carries s i [] i
  | cons {s : Duplex} {i i' i'' : Inflow} {e : DuplexEvent} {es : List DuplexEvent} (h : Draws s i e i')
      (hes : Carries (s.step e) i' es i'') : Carries s i (e :: es) i''

/-- A direction has lost, doubled and moved none of its bytes, and has mirrored each chunk that it wrote. -/
structure Faithful (all : List UInt8) (p : Pump) (left : List UInt8) (mirrored : List (List UInt8)) : Prop where
  bytes_eq : p.written ++ inHand p.phase ++ left = all
  inHand_ne_nil : ∀ chunk, p.phase = .writing chunk → chunk ≠ []
  ended : p.phase = .ended → left = [] ∧ p.isClosed
  flatten_mirrored : mirrored.flatten = p.written
  mirrored_ne_nil : ∀ chunk ∈ mirrored, chunk ≠ []

variable {s : Duplex} {i i' : Inflow} {e : DuplexEvent} {es : List DuplexEvent} {d : Direction} {chunk : List UInt8}

/-! ### One event -/

@[simp] theorem pump_setPump_self (s : Duplex) (d : Direction) (p : Pump) : (s.setPump d p).pump d = p := by
  cases d <;> rfl

theorem pump_setPump_of_ne {d' : Direction} (h : d' ≠ d) (s : Duplex) (p : Pump) :
    (s.setPump d p).pump d' = s.pump d' := by
  cases d <;> cases d' <;> first | rfl | exact absurd rfl h

@[simp] theorem mirrored_setPump (s : Duplex) (d : Direction) (p : Pump) : (s.setPump d p).mirrored = s.mirrored := by
  cases d <;> rfl

theorem step_read (hphase : (s.pump d).phase = .reading) (hchunk : chunk ≠ []) :
    s.step (.read d chunk) = s.setPump d { s.pump d with phase := .writing chunk } := by
  cases chunk with
  | nil => exact absurd rfl hchunk
  | cons b bs => simp only [step, hphase]

theorem step_ended (hphase : (s.pump d).phase = .reading) :
    s.step (.ended d) = s.setPump d { s.pump d with phase := .ended, isClosed := true } := by
  simp only [step, hphase]

theorem pump_step_written (hphase : (s.pump d).phase = .writing chunk) (d' : Direction) :
    (s.step (.written d)).pump d' =
      (s.setPump d { s.pump d with phase := .reading, written := (s.pump d).written ++ chunk }).pump d' := by
  simp only [step, hphase]
  cases d' <;> rfl

theorem mirrored_step_written (hphase : (s.pump d).phase = .writing chunk) :
    (s.step (.written d)).mirrored = s.mirrored ++ [(d, chunk)] := by
  simp only [step, hphase]

theorem chunksOf_concat_self (ms : List (Direction × List UInt8)) :
    chunksOf d (ms ++ [(d, chunk)]) = chunksOf d ms ++ [chunk] := by
  simp [chunksOf, List.filter_append]

theorem chunksOf_concat_of_ne {d' : Direction} (h : d' ≠ d) (ms : List (Direction × List UInt8)) :
    chunksOf d' (ms ++ [(d, chunk)]) = chunksOf d' ms := by
  simp [chunksOf, List.filter_append, List.filter_cons_of_neg, Ne.symm h]

/-- An event in one direction leaves the other alone. -/
theorem eq_of_draws_of_ne (h : Draws s i e i') {d' : Direction} (hd : d' ≠ e.direction) :
    (s.step e).pump d' = s.pump d' ∧ i' d' = i d' ∧
      chunksOf d' (s.step e).mirrored = chunksOf d' s.mirrored := by
  cases h with
  | read hphase hchunk hi =>
    rw [step_read hphase hchunk, mirrored_setPump]
    exact ⟨pump_setPump_of_ne hd _ _, Function.update_of_ne hd _ _, rfl⟩
  | ended hphase hi =>
    rw [step_ended hphase, mirrored_setPump]
    exact ⟨pump_setPump_of_ne hd _ _, rfl, rfl⟩
  | written hphase =>
    rw [pump_step_written hphase, mirrored_step_written hphase]
    exact ⟨pump_setPump_of_ne hd _ _, rfl, chunksOf_concat_of_ne hd _⟩

private theorem faithful_of_draws_self {all : List UInt8} (h : Draws s i e i')
    (hf : Faithful all (s.pump e.direction) (i e.direction) (chunksOf e.direction s.mirrored)) :
    Faithful all ((s.step e).pump e.direction) (i' e.direction) (chunksOf e.direction (s.step e).mirrored) := by
  have hbytes := hf.bytes_eq
  cases h with
  | read hphase hchunk hi =>
    rename_i d chunk rest
    simp only [DuplexEvent.direction] at hf hbytes ⊢
    rw [hphase, hi, inHand, List.append_nil] at hbytes
    rw [step_read hphase hchunk, pump_setPump_self, mirrored_setPump, Function.update_self]
    -- the chunk goes from the bytes to come into the hand
    refine ⟨?_, ?_, nofun, hf.flatten_mirrored, hf.mirrored_ne_nil⟩
    · rw [← hbytes, ← List.append_assoc]
      rfl
    · rintro chunk' ⟨⟩
      exact hchunk
  | ended hphase hi =>
    simp only [DuplexEvent.direction] at hf hbytes ⊢
    rw [hphase, inHand] at hbytes
    rw [step_ended hphase, pump_setPump_self, mirrored_setPump]
    exact ⟨hbytes, nofun, fun _ => ⟨hi, rfl⟩, hf.flatten_mirrored, hf.mirrored_ne_nil⟩
  | written hphase =>
    rename_i d chunk
    simp only [DuplexEvent.direction] at hf hbytes ⊢
    rw [hphase, inHand] at hbytes
    rw [pump_step_written hphase, pump_setPump_self, mirrored_step_written hphase, chunksOf_concat_self]
    -- the chunk goes from the hand to the bytes written, and is mirrored
    refine ⟨?_, nofun, nofun, ?_, ?_⟩
    · rw [inHand, List.append_nil]
      exact hbytes
    · rw [List.flatten_append, List.flatten_singleton, hf.flatten_mirrored]
    · intro chunk' hmem
      rcases List.mem_append.1 hmem with hmem | hmem
      · exact hf.mirrored_ne_nil chunk' hmem
      · rw [List.mem_singleton.1 hmem]
        exact hf.inHand_ne_nil chunk hphase

theorem faithful_of_draws {all : Inflow} (h : Draws s i e i')
    (hf : ∀ d, Faithful (all d) (s.pump d) (i d) (chunksOf d s.mirrored)) (d : Direction) :
    Faithful (all d) ((s.step e).pump d) (i' d) (chunksOf d (s.step e).mirrored) := by
  by_cases hd : d = e.direction
  · subst hd
    exact faithful_of_draws_self h (hf _)
  · obtain ⟨hpump, hi, hchunks⟩ := eq_of_draws_of_ne h hd
    rw [hpump, hi, hchunks]
    exact hf d

/-! ### Every run -/

theorem faithful_of_carries {all : Inflow} (h : Carries s i es i')
    (hf : ∀ d, Faithful (all d) (s.pump d) (i d) (chunksOf d s.mirrored)) (d : Direction) :
    Faithful (all d) ((es.foldl step s).pump d) (i' d) (chunksOf d (es.foldl step s).mirrored) := by
  induction h with
  | nil => exact hf d
  | cons hdraws _ ih => exact ih (faithful_of_draws hdraws hf)

theorem faithful_start (i : Inflow) (d : Direction) :
    Faithful (i d) (({} : Duplex).pump d) (i d) (chunksOf d ({} : Duplex).mirrored) := by
  cases d <;> exact ⟨rfl, nofun, nofun, rfl, nofun⟩

theorem isOver_iff : s.isOver ↔ ∀ d, (s.pump d).phase = .ended := by
  rw [isOver, Bool.and_eq_true, decide_eq_true_iff, decide_eq_true_iff]
  constructor
  · rintro ⟨hup, hdown⟩ d
    cases d
    · exact hup
    · exact hdown
  · exact fun h => ⟨h .up, h .down⟩

/-- When both directions have ended, each has written all its bytes, told the other side that no more come, and
mirrored what it wrote. -/
theorem delivers_of_carries (h : Carries {} i es i') (hover : (run es).isOver) (d : Direction) :
    ((run es).pump d).written = i d ∧ ((run es).pump d).isClosed ∧ (chunksOf d (run es).mirrored).flatten = i d ∧
      ∀ chunk ∈ chunksOf d (run es).mirrored, chunk ≠ [] := by
  have hf : Faithful (i d) ((run es).pump d) (i' d) (chunksOf d (run es).mirrored) :=
    faithful_of_carries h (faithful_start i) d
  have hphase := isOver_iff.1 hover d
  obtain ⟨hleft, hclosed⟩ := hf.ended hphase
  have hbytes := hf.bytes_eq
  rw [hphase, inHand, hleft, List.append_nil, List.append_nil] at hbytes
  exact ⟨hbytes, hclosed, hf.flatten_mirrored.trans hbytes, hf.mirrored_ne_nil⟩

/-! ### The end -/

/-- What a direction has still to do: two steps for a byte, one for a chunk in hand, one for the end. -/
def load (s : Duplex) (i : Inflow) (d : Direction) : Nat :=
  2 * (i d).length +
    match (s.pump d).phase with
    | .reading => 1
    | .writing _ => 2
    | .ended => 0

def remaining (s : Duplex) (i : Inflow) : Nat := load s i .up + load s i .down

private theorem load_lt_of_draws (h : Draws s i e i') : load (s.step e) i' e.direction < load s i e.direction := by
  cases h with
  | read hphase hchunk hi =>
    have hpos := List.length_pos_iff.2 hchunk
    simp only [DuplexEvent.direction, load, step_read hphase hchunk, pump_setPump_self, Function.update_self, hphase,
      hi, List.length_append]
    omega
  | ended hphase hi =>
    simp only [DuplexEvent.direction, load, step_ended hphase, pump_setPump_self, hphase]
    omega
  | written hphase =>
    simp only [DuplexEvent.direction, load, pump_step_written hphase, pump_setPump_self, hphase]
    omega

theorem remaining_lt_of_draws (h : Draws s i e i') : remaining (s.step e) i' < remaining s i := by
  have hself := load_lt_of_draws h
  have hother : ∀ d, d ≠ e.direction → load (s.step e) i' d = load s i d := by
    intro d hd
    obtain ⟨hpump, hi, -⟩ := eq_of_draws_of_ne h hd
    rw [load, load, hpump, hi]
  unfold remaining
  cases hd : e.direction with
  | up =>
    rw [hd] at hself hother
    rw [hother .down (by decide)]
    omega
  | down =>
    rw [hd] at hself hother
    rw [hother .up (by decide)]
    omega

theorem exists_draws (i : Inflow) (h : ¬ s.isOver) : ∃ e i', Draws s i e i' := by
  rw [isOver_iff, not_forall] at h
  obtain ⟨d, hd⟩ := h
  cases hphase : (s.pump d).phase with
  | ended => exact absurd hphase hd
  | writing chunk => exact ⟨_, _, .written hphase⟩
  | reading =>
    by_cases hi : i d = []
    · exact ⟨_, _, .ended hphase hi⟩
    · exact ⟨_, _, .read hphase hi (List.append_nil _).symm⟩

theorem exists_completion (s : Duplex) (i : Inflow) : ∃ es i', Carries s i es i' ∧ (es.foldl step s).isOver := by
  -- by induction on what is left to do: each event that can happen leaves less of it
  induction hn : remaining s i using Nat.strongRecOn generalizing s i with
  | ind n ih =>
    by_cases hover : s.isOver
    · exact ⟨[], i, .nil s i, hover⟩
    · obtain ⟨e, i₁, hdraws⟩ := exists_draws i hover
      obtain ⟨es, i', hcarries, hend⟩ := ih _ (hn ▸ remaining_lt_of_draws hdraws) (s.step e) i₁ rfl
      exact ⟨e :: es, i', .cons hdraws hcarries, hend⟩

theorem Carries.append {es' : List DuplexEvent} {i'' : Inflow} (h : Carries s i es i')
    (h' : Carries (es.foldl step s) i' es' i'') : Carries s i (es ++ es') i'' := by
  induction h with
  | nil => exact h'
  | cons hdraws _ ih => exact .cons hdraws (ih h')

/-- Whatever has happened without a failure, both directions can still be brought to their end. -/
theorem Carries.exists_append (h : Carries {} i es i') :
    ∃ es' i'', Carries {} i (es ++ es') i'' ∧ (run (es ++ es')).isOver := by
  obtain ⟨es', i'', hcarries, hover⟩ := exists_completion (run es) i'
  refine ⟨es', i'', h.append hcarries, ?_⟩
  rw [run, List.foldl_append]
  exact hover

end Duplex

end AccessGateway
