import AccessGateway.Proofs.Json.RoundTrip
import AccessGateway.Proofs.Text.Ascii

/-!
# Lines of a feed

A feed writes each item as a line, over one connection after the other, and a connection may break in the midst of a
line.  A transcript says which items a connection carried.  The bytes of the connection, split at the line feeds, are
the lines of these items and then the beginning of the line that broke off, if any (`splitOn_bytes`).
-/

namespace AccessGateway

/-! ### Runs -/

/-- What the events of a run bring out, each at the state that it finds. -/
def outputs {σ ε β : Type} (step : σ → ε → σ) (out? : σ → ε → Option β) : σ → List ε → List β
  | _, [] => []
  | s, e :: es => (out? s e).toList ++ outputs step out? (step s e) es

theorem outputs_concat {σ ε β : Type} (step : σ → ε → σ) (out? : σ → ε → Option β) (s : σ) (es : List ε) (e : ε) :
    outputs step out? s (es ++ [e]) = outputs step out? s es ++ (out? (es.foldl step s) e).toList := by
  induction es generalizing s with
  | nil => exact List.append_nil _
  | cons e' es ih => rw [List.cons_append, outputs, ih, outputs, List.append_assoc, List.foldl_cons]

theorem filterMap_concat {ε α : Type} (item? : ε → Option α) (es : List ε) (e : ε) :
    (es ++ [e]).filterMap item? = es.filterMap item? ++ (item? e).toList := by
  rw [List.filterMap_append]
  cases hitem : item? e <;> simp [hitem]

/-! ### Transcripts -/

/-- What a connection carried: items with their whole lines, and the item whose line broke off after some bytes. -/
structure Transcript (α : Type) where
  whole : List α := []
  torn : Option (α × Nat) := none

namespace Transcript

variable {α : Type} {line : α → List UInt8} {t : Transcript α}

/-! ### Bytes and lines -/

/-- The bytes after the last line feed. -/
def tail (line : α → List UInt8) (t : Transcript α) : List UInt8 :=
  match t.torn with
  | some (x, n) => (line x).take n
  | none => []

def bytes (line : α → List UInt8) (t : Transcript α) : List UInt8 :=
  t.whole.flatMap (fun x => line x ++ [10]) ++ t.tail line

/-- The items in the order in which their lines were begun. -/
def items (t : Transcript α) : List α := t.whole ++ (t.torn.map Prod.fst).toList

theorem splitOn_lines (hline : ∀ x, 10 ∉ line x) (xs : List α) {last : List UInt8} (hlast : 10 ∉ last) :
    (xs.flatMap (fun x => line x ++ [10]) ++ last).splitOn 10 = xs.map line ++ [last] := by
  induction xs with
  | nil => exact List.splitOn_eq_singleton hlast
  | cons x xs ih =>
    rw [List.flatMap_cons, List.append_assoc, List.append_assoc, List.singleton_append,
      List.splitOn_append_cons_self_of_not_mem (hline x), ih, List.map_cons, List.cons_append]

theorem newline_not_mem_tail (hline : ∀ x, 10 ∉ line x) (t : Transcript α) : 10 ∉ t.tail line := by
  unfold tail
  split
  · exact fun h => hline _ (List.mem_of_mem_take h)
  · exact List.not_mem_nil

theorem splitOn_bytes (hline : ∀ x, 10 ∉ line x) (t : Transcript α) :
    (t.bytes line).splitOn 10 = t.whole.map line ++ [t.tail line] :=
  splitOn_lines hline t.whole (newline_not_mem_tail hline t)

/-! ### Writing -/

def add (x : α) (t : Transcript α) : Transcript α := { t with whole := t.whole ++ [x] }

/-- The connection breaks after some bytes of a line and its line feed. -/
def tear (line : α → List UInt8) (x : α) (n : Nat) (t : Transcript α) : Transcript α :=
  if (line x).length < n then t.add x else { t with torn := some (x, n) }

theorem bytes_add (ht : t.torn = none) (x : α) : (t.add x).bytes line = t.bytes line ++ (line x ++ [10]) := by
  have htail : t.tail line = [] := by rw [tail, ht]
  have hadd : (t.add x).tail line = [] := htail
  rw [bytes, bytes, hadd, htail, add, List.flatMap_append]
  simp

theorem bytes_tear (ht : t.torn = none) (x : α) (n : Nat) :
    (t.tear line x n).bytes line = t.bytes line ++ (line x ++ [10]).take n := by
  have htail : t.tail line = [] := by rw [tail, ht]
  unfold tear
  split
  · rename_i h
    have hlength : (line x ++ [10]).length ≤ n := by
      rw [List.length_append, List.length_singleton]
      exact h
    rw [List.take_of_length_le hlength, bytes_add ht]
  · rename_i h
    rw [List.take_append_of_le_length (Nat.le_of_not_lt h), bytes, bytes, htail, List.append_nil]
    rfl

theorem whole_tear (x : α) (n : Nat) :
    (t.tear line x n).whole = t.whole ++ if (line x).length < n then [x] else [] := by
  unfold tear
  split
  · rfl
  · exact (List.append_nil _).symm

theorem items_add (ht : t.torn = none) (x : α) : (t.add x).items = t.items ++ [x] := by
  simp [items, add, ht]

theorem items_tear (ht : t.torn = none) (x : α) (n : Nat) : (t.tear line x n).items = t.items ++ [x] := by
  unfold tear
  split
  · exact items_add ht x
  · simp [items, ht]

/-! ### Connections -/

/-- The items of all connections, the latest of which is the first, in the order in which their lines were begun. -/
def history (ts : List (Transcript α)) : List α := ts.reverse.flatMap items

/-- The items whose lines were written whole, in this order. -/
def shipped (ts : List (Transcript α)) : List α := ts.reverse.flatMap whole

theorem history_cons (t : Transcript α) (ts : List (Transcript α)) : history (t :: ts) = history ts ++ t.items := by
  simp [history]

theorem shipped_cons (t : Transcript α) (ts : List (Transcript α)) : shipped (t :: ts) = shipped ts ++ t.whole := by
  simp [shipped]

theorem history_opened (ts : List (Transcript α)) : history ({} :: ts) = history ts :=
  (history_cons {} ts).trans (List.append_nil _)

theorem shipped_opened (ts : List (Transcript α)) : shipped ({} :: ts) = shipped ts :=
  (shipped_cons {} ts).trans (List.append_nil _)

theorem shipped_sublist_history (ts : List (Transcript α)) : (shipped ts).Sublist (history ts) := by
  induction ts with
  | nil => exact .slnil
  | cons t ts ih =>
    have hwhole : t.whole.Sublist t.items := List.sublist_append_left _ _
    rw [shipped_cons, history_cons]
    exact ih.append hwhole

/-- The connections carried what the transcripts say, and nothing broke off on one that stands. -/
structure Carried (line : α → List UInt8) (connections : List (List UInt8)) (standing : Bool)
    (ts : List (Transcript α)) : Prop where
  connections_eq : connections = ts.map (bytes line)
  torn_of_standing : standing = true → ∃ t rest, ts = t :: rest ∧ t.torn = none

namespace Carried

variable {connections : List (List UInt8)} {standing : Bool} {ts : List (Transcript α)}

theorem none (line : α → List UInt8) : Carried line [] false [] := ⟨rfl, nofun⟩

theorem opened (h : Carried line connections standing ts) : Carried line ([] :: connections) true ({} :: ts) where
  connections_eq := by
    rw [h.connections_eq]
    rfl
  torn_of_standing := fun _ => ⟨{}, ts, rfl, rfl⟩

theorem exists_connection (h : Carried line connections true ts) : ∃ c cs, connections = c :: cs := by
  obtain ⟨t, rest, rfl, -⟩ := h.torn_of_standing rfl
  exact ⟨t.bytes line, rest.map (bytes line), h.connections_eq⟩

/-- A line is written over the connection that stands. -/
theorem written {c : List UInt8} {cs : List (List UInt8)} (h : Carried line (c :: cs) true ts) (x : α) :
    ∃ ts', Carried line ((c ++ (line x ++ [10])) :: cs) true ts' ∧ history ts' = history ts ++ [x] ∧
      shipped ts' = shipped ts ++ [x] := by
  obtain ⟨t, rest, rfl, ht⟩ := h.torn_of_standing rfl
  obtain ⟨rfl, rfl⟩ := List.cons.inj h.connections_eq
  refine ⟨t.add x :: rest, ⟨?_, ?_⟩, ?_, ?_⟩
  · rw [List.map_cons, bytes_add ht]
  · exact fun _ => ⟨t.add x, rest, rfl, ht⟩
  · rw [history_cons, history_cons, items_add ht, List.append_assoc]
  · rw [shipped_cons, shipped_cons, add, List.append_assoc]

/-- The connection that stands breaks while a line is written. -/
theorem broken {c : List UInt8} {cs : List (List UInt8)} (h : Carried line (c :: cs) true ts) (x : α) (n : Nat) :
    ∃ ts', Carried line ((c ++ (line x ++ [10]).take n) :: cs) false ts' ∧ history ts' = history ts ++ [x] ∧
      shipped ts' = shipped ts ++ if (line x).length < n then [x] else [] := by
  obtain ⟨t, rest, rfl, ht⟩ := h.torn_of_standing rfl
  obtain ⟨rfl, rfl⟩ := List.cons.inj h.connections_eq
  refine ⟨t.tear line x n :: rest, ⟨?_, nofun⟩, ?_, ?_⟩
  · rw [List.map_cons, bytes_tear ht]
  · rw [history_cons, history_cons, items_tear ht, List.append_assoc]
  · rw [shipped_cons, shipped_cons, whole_tear, List.append_assoc]

end Carried

/-! ### What a feed shows -/

/-- Split at its line feeds, each connection is one line for every item that it carried whole, and then the beginning
of one more line, of which a connection that stands has nothing.  Every whole line reads as its item, and the whole
lines are those that were sent.  The items are some of those offered, in their order and none of them twice. -/
structure Intact (line : α → List UInt8) (Reads : α → List UInt8 → Prop) (connections : List (List UInt8))
    (standing : Bool) (offered : List α) (sent : List (List UInt8)) (ts : List (Transcript α)) : Prop where
  splitOn_eq : List.Forall₂ (fun bytes t => bytes.splitOn 10 = t.whole.map line ++ [t.tail line]) connections ts
  torn_of_standing : standing = true → ∃ t rest, ts = t :: rest ∧ t.torn = none
  reads : ∀ t ∈ ts, ∀ x ∈ t.whole, Reads x (line x)
  shipped_eq : (shipped ts).map line = sent
  shipped_sublist : (shipped ts).Sublist offered
  history_sublist : (history ts).Sublist offered

theorem Carried.intact {connections : List (List UInt8)} {standing : Bool} {offered : List α}
    {sent : List (List UInt8)} {ts : List (Transcript α)} {Reads : α → List UInt8 → Prop}
    (h : Carried line connections standing ts) (hline : ∀ x, 10 ∉ line x) (hreads : ∀ x ∈ offered, Reads x (line x))
    (hsublist : (history ts).Sublist offered) (hshipped : (shipped ts).map line = sent) :
    Intact line Reads connections standing offered sent ts where
  splitOn_eq := by
    rw [h.connections_eq, List.forall₂_map_left_iff, List.forall₂_same]
    exact fun t _ => splitOn_bytes hline t
  torn_of_standing := h.torn_of_standing
  reads := by
    intro t ht x hx
    have hmem : x ∈ shipped ts := List.mem_flatMap.2 ⟨t, List.mem_reverse.2 ht, hx⟩
    exact hreads x (((shipped_sublist_history ts).trans hsublist).mem hmem)
  shipped_eq := hshipped
  shipped_sublist := (shipped_sublist_history ts).trans hsublist
  history_sublist := hsublist

end Transcript

/-! ### Records on lines -/

namespace Json

/-- The value that a line stands for. -/
def ofLine? (line : List UInt8) : Option Json := (Text.text? line).bind read?

theorem ofLine?_bytes {j : Json} (hj : j.IsValue) : ofLine? (Text.bytes j.render) = some j.written := by
  rw [ofLine?, Text.text?_bytes, Option.bind_some, read?_render hj]

theorem newline_not_mem_bytes (j : Json) : 10 ∉ Text.bytes j.render := by
  intro h
  have hmem : '\n' ∈ j.render.toList := (Text.mem_bytes_iff (by decide)).1 h
  rw [render, String.toList_ofList] at hmem
  exact newline_not_mem_write j hmem

end Json

end AccessGateway
