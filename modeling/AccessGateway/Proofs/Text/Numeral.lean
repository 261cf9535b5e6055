import AccessGateway.Text.Numeral
import Mathlib

/-!
# Decimal numerals and their values

A numeral is a run of digits that stands for its value in base ten (`Text.IsNumeral`), which is what the readers of
natural numbers take (`Text.natural?_eq_some_iff`), with a plus sign and up to a bound (`Text.unsigned?_eq_some_iff`).
-/

namespace AccessGateway.Text

/-- A run of decimal digits and the number it stands for. -/
structure IsNumeral (cs : List Char) (n : Nat) : Prop where
  ne_nil : cs ≠ []
  isDigit : ∀ c ∈ cs, c.isDigit = true
  value_eq : n = Nat.ofDigits 10 (cs.map fun c => c.toNat - '0'.toNat).reverse

theorem ofDigitChars_eq_ofDigits (cs : List Char) :
    Nat.ofDigitChars 10 cs 0 = Nat.ofDigits 10 (cs.map fun c => c.toNat - '0'.toNat).reverse := by
  rw [Nat.ofDigits_eq_foldr, List.foldr_reverse, List.foldl_map, Nat.ofDigitChars]
  congr 1
  funext n c
  rw [Nat.cast_id, Nat.add_comm]

theorem natural?_eq_some_iff {cs : List Char} {n : Nat} : natural? cs = some n ↔ IsNumeral cs n := by
  unfold natural?
  rw [Option.ite_none_right_eq_some, Option.some.injEq, List.all_eq_true, ofDigitChars_eq_ofDigits]
  constructor
  · rintro ⟨⟨hne, hdigit⟩, hvalue⟩
    exact ⟨hne, hdigit, hvalue.symm⟩
  · rintro ⟨hne, hdigit, hvalue⟩
    exact ⟨⟨hne, hdigit⟩, hvalue.symm⟩

theorem natural?_eq_none_iff {cs : List Char} : natural? cs = none ↔ cs = [] ∨ ∃ c ∈ cs, c.isDigit = false := by
  rw [← Option.not_isSome_iff_eq_none, natural?_isSome_iff, not_and_or, not_not]
  push Not
  simp only [ne_eq, Bool.not_eq_true]

/-- A numeral, after a plus sign or not. -/
def IsSignedNumeral (cs : List Char) (n : Nat) : Prop := IsNumeral cs n ∨ ∃ r, cs = '+' :: r ∧ IsNumeral r n

theorem unsigned?_eq_some_iff {top n : Nat} {cs : List Char} :
    unsigned? top cs = some n ↔ IsSignedNumeral cs n ∧ n ≤ top := by
  unfold unsigned? IsSignedNumeral
  rw [Option.filter_eq_some_iff, decide_eq_true_iff]
  refine and_congr_left fun _ => ?_
  split
  · rename_i r
    have hplus : ¬ IsNumeral ('+' :: r) n := fun h => by
      simpa using h.isDigit '+' (List.mem_cons_self ..)
    simp [natural?_eq_some_iff, hplus]
  · rename_i hplus
    rw [natural?_eq_some_iff, or_iff_left]
    rintro ⟨r, rfl, -⟩
    exact hplus r rfl

theorem IsSignedNumeral.not_mem_colon {cs : List Char} {n : Nat} (h : IsSignedNumeral cs n) : ':' ∉ cs := by
  have hnumeral : ∀ {r : List Char}, IsNumeral r n → ':' ∉ r := fun hr hmem => by
    simpa using hr.isDigit ':' hmem
  obtain h | ⟨r, rfl, h⟩ := h
  · exact hnumeral h
  · intro hmem
    obtain heq | hmem := List.mem_cons.1 hmem
    · cases heq
    · exact hnumeral h hmem

theorem isSignedNumeral_digits (n : Nat) : IsSignedNumeral (digits n) n :=
  .inl (natural?_eq_some_iff.1 (natural?_digits n))

theorem IsNumeral.exists_last {cs : List Char} {n : Nat} (h : IsNumeral cs n) :
    ∃ front c, cs = front ++ [c] ∧ c.isDigit = true := by
  obtain ⟨front, c, rfl⟩ := List.eq_nil_or_concat' cs |>.resolve_left h.ne_nil
  exact ⟨front, c, rfl, h.isDigit c (by simp)⟩

/-- A numeral ends in a digit. -/
theorem IsSignedNumeral.exists_last {cs : List Char} {n : Nat} (h : IsSignedNumeral cs n) :
    ∃ front c, cs = front ++ [c] ∧ c.isDigit = true := by
  rcases h with h | ⟨r, rfl, h⟩
  · exact h.exists_last
  · obtain ⟨front, c, rfl, hc⟩ := h.exists_last
    exact ⟨'+' :: front, c, rfl, hc⟩

end AccessGateway.Text
