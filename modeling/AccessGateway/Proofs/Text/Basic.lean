import AccessGateway.Text.Blank
import Mathlib.Data.List.TakeWhile

/-!
# Blanks and separators

Trimming leaves nothing of a text that has only blanks, and of no other (`trim_eq_nil_iff`).  The parts that a text
splits into have its characters but for the separators (`forall_mem_splitOn_iff`).
-/

namespace AccessGateway.Text

theorem trim_eq_nil_iff {cs : List Char} : trim cs = [] ↔ ∀ c ∈ cs, isBlank c = true := by
  have hend (ds : List Char) : trimEnd ds = [] ↔ ∀ c ∈ ds, isBlank c = true := by
    rw [trimEnd, List.reverse_eq_nil_iff, List.dropWhile_eq_nil_iff]
    simp only [List.mem_reverse]
  rw [trim, hend]
  constructor
  · intro h
    -- a character that is left in front is no blank, so nothing is left
    have hnil : trimStart cs = [] := by
      cases hcs : trimStart cs with
      | nil => rfl
      | cons c rest =>
        have hblank := h c (by rw [hcs]; exact List.mem_cons_self)
        have hno := head?_trimStart cs c (by rw [hcs]; rfl)
        rw [hblank] at hno
        cases hno
    exact List.dropWhile_eq_nil_iff.1 hnil
  · intro h c hc
    exact h c ((List.dropWhile_suffix isBlank).subset hc)

theorem isEmpty_trimmed_iff {s : String} : (trimmed s).isEmpty = true ↔ ∀ c ∈ s.toList, isBlank c = true := by
  rw [← trim_eq_nil_iff, String.isEmpty_iff, trimmed, ← String.toList_inj, String.toList_ofList]
  rfl

/-- What holds of every character of the parts holds of every character but the separators. -/
theorem forall_mem_splitOn_iff {p : Char → Prop} {sep : Char} {cs : List Char} :
    (∀ part ∈ cs.splitOn sep, ∀ c ∈ part, p c) ↔ ∀ c ∈ cs, c = sep ∨ p c := by
  induction cs with
  | nil => simp
  | cons c cs ih =>
    rw [List.splitOn_cons_eq_if_modifyHead]
    split
    · rename_i hsep
      have hc : c = sep := eq_of_beq hsep
      simp only [List.forall_mem_cons, List.not_mem_nil, false_implies, implies_true, true_and, ih, hc, true_or]
    · rename_i hsep
      have hc : c ≠ sep := fun h => hsep (by rw [h]; exact beq_self_eq_true sep)
      cases hparts : cs.splitOn sep with
      | nil => exact absurd hparts (List.splitOn_ne_nil sep cs)
      | cons part parts =>
        rw [hparts] at ih
        simp only [List.modifyHead_cons, List.forall_mem_cons] at ih ⊢
        rw [and_assoc, ih]
        simp only [hc, false_or]

end AccessGateway.Text
