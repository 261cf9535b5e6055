/-!
# Splitting at a separator

Splitting a list at the first or the last occurrence of a separator, and taking a fixed front off. Key facts: the
two parts around the separator make up the list, and the separator is missing from the part on its near side.
-/

namespace AccessGateway.Text

variable {α : Type} [DecidableEq α]

/-- The parts before and after the first `sep`. -/
def splitFirst? (sep : α) : List α → Option (List α × List α)
  | [] => none
  | c :: cs => if c = sep then some ([], cs) else (splitFirst? sep cs).map fun (a, b) => (c :: a, b)

/-- The parts before and after the last `sep`. -/
def splitLast? (sep : α) : List α → Option (List α × List α)
  | [] => none
  | c :: cs =>
    match splitLast? sep cs with
    | some (a, b) => some (c :: a, b)
    | none => if c = sep then some ([], cs) else none

/-- What follows a given front. -/
def strip? : List α → List α → Option (List α)
  | [], cs => some cs
  | _ :: _, [] => none
  | m :: ms, c :: cs => if m = c then strip? ms cs else none

/-- A list splits at the first separator exactly when it is the two parts around it and the front has none. -/
theorem splitFirst?_eq_some_iff {sep : α} {cs a b : List α} :
    splitFirst? sep cs = some (a, b) ↔ cs = a ++ sep :: b ∧ sep ∉ a := by
  induction cs generalizing a with
  | nil => simp [splitFirst?]
  | cons c cs ih =>
    rw [splitFirst?]
    split
    · rename_i h
      subst h
      cases a with
      | nil => simp [eq_comm]
      | cons x a => simp; intro h _ h'; exact absurd h h'
    · rename_i h
      simp only [Option.map_eq_some_iff, Prod.exists, Prod.mk.injEq]
      constructor
      · rintro ⟨x, y, hxy, rfl, rfl⟩
        obtain ⟨rfl, hx⟩ := ih.1 hxy
        exact ⟨rfl, by simp [hx, Ne.symm h]⟩
      · rintro ⟨hcs, ha⟩
        cases a with
        | nil => exact absurd (List.cons.inj hcs).1 h
        | cons x a =>
          obtain ⟨rfl, rfl⟩ := List.cons.inj hcs
          exact ⟨a, b, ih.2 ⟨rfl, fun h' => ha (List.mem_cons_of_mem _ h')⟩, rfl, rfl⟩

/-- There is no first separator exactly when there is none at all. -/
theorem splitFirst?_eq_none_iff {sep : α} {cs : List α} : splitFirst? sep cs = none ↔ sep ∉ cs := by
  induction cs with
  | nil => simp [splitFirst?]
  | cons c cs ih =>
    rw [splitFirst?]
    split
    · rename_i h; simp [h]
    · rename_i h; simp [ih, Ne.symm h]

/-- A first separator splits a list in one way only. -/
theorem append_cons_inj {sep : α} {a b c d : List α} (ha : sep ∉ a) (hb : sep ∉ b)
    (h : a ++ sep :: c = b ++ sep :: d) : a = b ∧ c = d := by
  have hc : splitFirst? sep (a ++ sep :: c) = some (b, d) := splitFirst?_eq_some_iff.2 ⟨h, hb⟩
  rw [splitFirst?_eq_some_iff.2 ⟨rfl, ha⟩] at hc
  simp only [Option.some.injEq, Prod.mk.injEq] at hc
  exact hc

/-- There is no last separator exactly when there is none at all. -/
theorem splitLast?_eq_none_iff {sep : α} {cs : List α} : splitLast? sep cs = none ↔ sep ∉ cs := by
  induction cs with
  | nil => simp [splitLast?]
  | cons c cs ih =>
    rw [splitLast?]
    cases h : splitLast? sep cs with
    | some p => simp [show sep ∈ cs from Decidable.not_not.1 fun hn => by simp [ih.2 hn] at h]
    | none =>
      have := ih.1 h
      by_cases hc : c = sep
      · simp [hc]
      · simp [hc, this, Ne.symm hc]

/-- A list splits at the last separator exactly when it is the two parts around it and the rest has none. -/
theorem splitLast?_eq_some_iff {sep : α} {cs a b : List α} :
    splitLast? sep cs = some (a, b) ↔ cs = a ++ sep :: b ∧ sep ∉ b := by
  induction cs generalizing a with
  | nil => simp [splitLast?]
  | cons c cs ih =>
    rw [splitLast?]
    cases h : splitLast? sep cs with
    | some p =>
      obtain ⟨x, y⟩ := p
      simp only [Option.some.injEq, Prod.mk.injEq]
      constructor
      · rintro ⟨rfl, rfl⟩
        obtain ⟨rfl, hy⟩ := ih.1 h
        exact ⟨rfl, hy⟩
      · rintro ⟨hcs, hb⟩
        cases a with
        | nil =>
          obtain ⟨-, rfl⟩ := List.cons.inj hcs
          rw [splitLast?_eq_none_iff.2 hb] at h
          cases h
        | cons z a =>
          obtain ⟨rfl, rfl⟩ := List.cons.inj hcs
          rw [ih.2 ⟨rfl, hb⟩] at h
          simpa [eq_comm] using h
    | none =>
      have hn := splitLast?_eq_none_iff.1 h
      simp only [Option.ite_none_right_eq_some, Option.some.injEq, Prod.mk.injEq]
      constructor
      · rintro ⟨rfl, rfl, rfl⟩
        exact ⟨rfl, hn⟩
      · rintro ⟨hcs, -⟩
        cases a with
        | nil =>
          obtain ⟨rfl, rfl⟩ := List.cons.inj hcs
          exact ⟨rfl, rfl, rfl⟩
        | cons z a =>
          obtain ⟨-, rfl⟩ := List.cons.inj hcs
          simp at hn

/-- A last separator splits a list in one way only. -/
theorem append_cons_inj_of_last {sep : α} {a b c d : List α} (hb : sep ∉ b) (hd : sep ∉ d)
    (h : a ++ sep :: b = c ++ sep :: d) : a = c ∧ b = d := by
  have hsplit : splitLast? sep (a ++ sep :: b) = some (c, d) := splitLast?_eq_some_iff.2 ⟨h, hd⟩
  rw [splitLast?_eq_some_iff.2 ⟨rfl, hb⟩] at hsplit
  simp only [Option.some.injEq, Prod.mk.injEq] at hsplit
  exact hsplit

/-- A front is stripped exactly where the list is that front and the rest. -/
theorem strip?_eq_some_iff {ms cs r : List α} : strip? ms cs = some r ↔ cs = ms ++ r := by
  induction ms generalizing cs with
  | nil => simp [strip?]
  | cons m ms ih =>
    cases cs with
    | nil => simp [strip?]
    | cons c cs =>
      rw [strip?]
      split
      · rename_i h; simp [h, ih]
      · rename_i h; simp [Ne.symm h]

end AccessGateway.Text
