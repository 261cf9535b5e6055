import Mathlib.Data.List.Basic

/-!
# Tables looked up by a key

What the first entry under a key says of the keys and the entries of a table, and the table with some keys only.
-/

namespace AccessGateway

variable {α β : Type} [DecidableEq α] {entries : List (α × β)} {key : α} {value : β}

theorem lookup_eq_none_iff_not_mem : entries.lookup key = none ↔ key ∉ entries.map Prod.fst := by
  rw [List.lookup_eq_none_iff, List.mem_map]
  constructor
  · rintro h ⟨entry, hentry, rfl⟩
    simpa using h entry hentry
  · intro h entry hentry
    rw [bne_iff_ne]
    rintro rfl
    exact h ⟨entry, hentry, rfl⟩

theorem mem_of_lookup (h : entries.lookup key = some value) : (key, value) ∈ entries := by
  obtain ⟨before, after, hentries, -⟩ := List.lookup_eq_some_iff.1 h
  rw [hentries]
  exact List.mem_append_right _ (List.mem_cons_self ..)

/-- Entries under other keys do not count. -/
theorem lookup_filter {p : α → Bool} (h : p key = true) :
    (entries.filter fun entry => p entry.1).lookup key = entries.lookup key := by
  induction entries with
  | nil => rfl
  | cons entry entries ih =>
    obtain ⟨k, v⟩ := entry
    by_cases hk : key = k
    · subst hk
      simp [h]
    · have hne : (key == k) = false := beq_false_of_ne hk
      by_cases hp : p k = true
      · simp [hp, List.lookup_cons, hne, ih]
      · simp [hp, List.lookup_cons, hne, ih]

end AccessGateway
