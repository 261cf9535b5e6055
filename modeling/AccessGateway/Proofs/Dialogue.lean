import AccessGateway.Dialogue

/-!
# Rules for dialogues

A rule says which calls may be made after which exchanges. It is checked work by work (`obeys_bind`), whatever the
answers are, and then holds at every point of every run (`Runs.permitted`).
-/

namespace AccessGateway.Dialogue

variable {Call : Type} {Answer : Call → Type} {α β : Type} {rule : List (Exchanged Call Answer) → Call → Prop}

/-- Whatever the answers, every call is one that the rule permits after the exchanges before it. -/
def Obeys (rule : List (Exchanged Call Answer) → Call → Prop) :
    List (Exchanged Call Answer) → Dialogue Call Answer α → Prop
  | _, .done _ => True
  | past, .ask c next => rule past c ∧ ∀ answer, Obeys rule (past ++ [⟨c, answer⟩]) (next answer)

theorem obeys_bind {d : Dialogue Call Answer α} {f : α → Dialogue Call Answer β} {past : List (Exchanged Call Answer)}
    (hd : Obeys rule past d) (hf : ∀ es a, Runs d es a → Obeys rule (past ++ es) (f a)) :
    Obeys rule past (d.bind f) := by
  induction d generalizing past with
  | done a =>
    have h := hf [] a (.done a)
    rwa [List.append_nil] at h
  | ask c next ih =>
    refine ⟨hd.1, fun answer => ih answer (hd.2 answer) fun es a h => ?_⟩
    have h := hf (⟨c, answer⟩ :: es) a (.ask answer h)
    rwa [List.append_cons] at h

/-- A result that is put into another form changes no call. -/
theorem obeys_map {d : Dialogue Call Answer α} {past : List (Exchanged Call Answer)} (hd : Obeys rule past d)
    (f : α → β) : Obeys rule past (f <$> d) :=
  obeys_bind hd fun _ _ _ => trivial

theorem obeys_callAll {c : β → Call} {bs : List β} {past : List (Exchanged Call Answer)}
    (h : ∀ es, ∀ b ∈ bs, rule (past ++ es) (c b)) : Obeys rule past (callAll c bs) := by
  induction bs generalizing past with
  | nil => trivial
  | cons b bs ih =>
    refine ⟨?_, fun answer => ih fun es b' hb' => ?_⟩
    · have h := h [] b List.mem_cons_self
      rwa [List.append_nil] at h
    · rw [List.append_assoc]
      exact h _ b' (List.mem_cons_of_mem b hb')

/-- Every call of a run is permitted after the exchanges before it. -/
theorem Runs.permitted {d : Dialogue Call Answer α} {es : List (Exchanged Call Answer)} {a : α} (h : Runs d es a)
    {past : List (Exchanged Call Answer)} (hd : Obeys rule past d) {before after : List (Exchanged Call Answer)}
    {e : Exchanged Call Answer} (hes : es = before ++ e :: after) : rule (past ++ before) e.call := by
  induction h generalizing past before with
  | done a => simp at hes
  | ask answer h ih =>
    rename_i c next es a
    cases before with
    | nil =>
      obtain ⟨rfl, rfl⟩ := List.cons.inj hes
      rw [List.append_nil]
      exact hd.1
    | cons e' before =>
      obtain ⟨rfl, hrest⟩ := List.cons.inj hes
      rw [List.append_cons]
      exact ih (hd.2 answer) hrest

theorem obeys_call_bind {c : Call} {f : Answer c → Dialogue Call Answer α} {past : List (Exchanged Call Answer)}
    (hc : rule past c) (hf : ∀ answer, Obeys rule (past ++ [⟨c, answer⟩]) (f answer)) :
    Obeys rule past ((call c).bind f) :=
  ⟨hc, hf⟩

theorem runs_done_iff {a b : α} {es : List (Exchanged Call Answer)} :
    Runs (.done a) es b ↔ es = [] ∧ b = a := by
  constructor
  · rintro ⟨_⟩
    exact ⟨rfl, rfl⟩
  · rintro ⟨rfl, rfl⟩
    exact .done b

/-- A run that starts with a call goes on as the work after the answer does. -/
theorem runs_call_bind_iff {c : Call} {f : Answer c → Dialogue Call Answer α} {es : List (Exchanged Call Answer)}
    {a : α} :
    Runs ((call c).bind f) es a ↔ ∃ answer es', es = ⟨c, answer⟩ :: es' ∧ Runs (f answer) es' a := by
  constructor
  · rintro (_ | ⟨answer, h⟩)
    exact ⟨answer, _, rfl, h⟩
  · rintro ⟨answer, es', rfl, h⟩
    exact .ask answer h

/-- Calls whose answers are of no interest are made one after the other. -/
theorem calls_of_runs_callAll {c : β → Call} {bs : List β} {es : List (Exchanged Call Answer)} {a : Unit}
    (h : Runs (callAll c bs) es a) : es.map (·.call) = bs.map c := by
  induction bs generalizing es with
  | nil => rw [(runs_done_iff.1 h).1, List.map_nil, List.map_nil]
  | cons b bs ih =>
    obtain ⟨answer, es', rfl, hnext⟩ := runs_call_bind_iff.1 h
    rw [List.map_cons, List.map_cons, ih hnext]

end AccessGateway.Dialogue
