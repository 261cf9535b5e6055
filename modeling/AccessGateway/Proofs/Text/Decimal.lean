import AccessGateway.Text.Decimal
import Mathlib

/-!
# Decimal fractions and their digits

Zeros at the end of a mantissa can be moved into the exponent.  This changes neither the value (`value_scale`) nor
whether the fraction is finite (`isFinite_scale`).  A fraction is written with its last zeros moved so, and thus with
its value (`same_written`).
-/

namespace AccessGateway.Text

variable {m k : Nat}

/-! ### Digits -/

theorem digits_mul_ten (hm : m ≠ 0) : digits (m * 10) = digits m ++ ['0'] := by
  have h : 10 ≤ m * 10 := by omega
  have hdiv : m * 10 / 10 = m := by omega
  have hmod : m * 10 % 10 = 0 := by omega
  rw [digits, Nat.toDigits_of_base_le (by decide) h, hdiv, hmod]
  rfl

theorem digits_mul_pow (hm : m ≠ 0) (k : Nat) : digits (m * 10 ^ k) = digits m ++ List.replicate k '0' := by
  induction k with
  | zero => simp
  | succ k ih =>
    have hne : m * 10 ^ k ≠ 0 := by positivity
    rw [Nat.pow_succ, ← Nat.mul_assoc, digits_mul_ten hne, ih, List.append_assoc, ← List.replicate_succ']

/-- Only zero starts with a zero. -/
theorem head?_digits (hm : m ≠ 0) : (digits m).head? ≠ some '0' := by
  induction m using Nat.strongRecOn with
  | ind m ih =>
    rw [digits, Nat.toDigits_eq_if (by decide)]
    split
    · rename_i hlt
      have hall : ∀ n < 10, n ≠ 0 → Nat.digitChar n ≠ '0' := by decide
      simpa using hall m hlt hm
    · rename_i hge
      have hdiv : m / 10 ≠ 0 := by omega
      have hne : Nat.toDigits 10 (m / 10) ≠ [] := Nat.toDigits_ne_nil
      rw [List.head?_append_of_ne_nil _ hne]
      exact ih (m / 10) (by omega) hdiv

theorem ofDigitChars_digits (m : Nat) : Nat.ofDigitChars 10 (digits m) 0 = m := Nat.ofDigitChars_ten_toDigits

namespace Decimal

variable {b : Bool} {e : Int} {d : Decimal}

/-! ### Scaling -/

/-- The value without the sign. -/
def value (d : Decimal) : ℚ := d.mantissa * 10 ^ d.exponent

/-- One number, with its sign. -/
def Same (d d' : Decimal) : Prop := d'.negative = d.negative ∧ d'.value = d.value

theorem value_scale (b : Bool) (m k : Nat) (e : Int) : value ⟨b, m * 10 ^ k, e⟩ = value ⟨b, m, e + k⟩ := by
  have h : (10 : ℚ) ^ (e + k) = 10 ^ k * 10 ^ e := by
    rw [zpow_add₀ (by norm_num), zpow_natCast, mul_comm]
  simp only [value, Nat.cast_mul, Nat.cast_pow, Nat.cast_ofNat, h, mul_assoc]

theorem magnitude_scale (hm : m ≠ 0) (b : Bool) (k : Nat) (e : Int) :
    magnitude ⟨b, m * 10 ^ k, e⟩ = magnitude ⟨b, m, e + k⟩ := by
  unfold magnitude
  rw [digits_mul_pow hm, List.length_append, List.length_replicate]
  push_cast
  ring

theorem ratio_scale (b : Bool) (m k : Nat) (e : Int) (bound : Nat) :
    (ratio ⟨b, m * 10 ^ k, e⟩).1 < bound * (ratio ⟨b, m * 10 ^ k, e⟩).2 ↔
      (ratio ⟨b, m, e + k⟩).1 < bound * (ratio ⟨b, m, e + k⟩).2 := by
  have hpow (n : Nat) : 0 < 10 ^ n := by positivity
  unfold ratio
  dsimp only
  by_cases he : 0 ≤ e
  · rw [if_pos he, if_pos (by omega)]
    have hsum : (e + k).toNat = k + e.toNat := by omega
    rw [hsum, Nat.pow_eq, Nat.pow_eq, Nat.pow_add, Nat.mul_assoc]
  · rw [if_neg he]
    by_cases hsum : 0 ≤ e + k
    · rw [if_pos hsum]
      have hk : k = (e + k).toNat + (-e).toNat := by omega
      conv => lhs; lhs; rw [hk, Nat.pow_add, ← Nat.mul_assoc]
      rw [Nat.pow_eq, Nat.pow_eq, Nat.mul_one]
      exact Nat.mul_lt_mul_right (hpow _)
    · rw [if_neg hsum]
      have hk : (-e).toNat = (-(e + k)).toNat + k := by omega
      rw [hk, Nat.pow_eq, Nat.pow_eq, Nat.pow_add, ← Nat.mul_assoc]
      exact Nat.mul_lt_mul_right (hpow _)

theorem isFinite_scale (hm : m ≠ 0) (b : Bool) (k : Nat) (e : Int) :
    isFinite ⟨b, m * 10 ^ k, e⟩ = isFinite ⟨b, m, e + k⟩ := by
  have hne : m * 10 ^ k ≠ 0 := by positivity
  unfold isFinite
  rw [magnitude_scale hm]
  simp only [hne, hm, false_or]
  split
  · rfl
  · split
    · rfl
    · exact decide_eq_decide.2 (ratio_scale b m k e _)

/-! ### The written form -/

theorem exists_stripZeros (steps m : Nat) (e : Int) :
    ∃ m' k : Nat, stripZeros steps m e = (m', e + k) ∧ m = m' * 10 ^ k := by
  induction steps generalizing m e with
  | zero => exact ⟨m, 0, by simp [stripZeros]⟩
  | succ steps ih =>
    rw [stripZeros]
    split
    · rename_i h
      obtain ⟨m', k, hstrip, hm⟩ := ih (m / 10) (e + 1)
      refine ⟨m', k + 1, ?_, ?_⟩
      · rw [hstrip]
        congr 1
        push_cast
        ring
      · rw [Nat.pow_succ, ← Nat.mul_assoc, ← hm]
        omega
    · exact ⟨m, 0, by simp⟩

/-- Mantissa and exponent with the last zeros in the exponent. -/
def stripped (d : Decimal) : Nat × Int := stripZeros (digits d.mantissa).length d.mantissa d.exponent

/-- Every digit, of a number below 10^16 with an exponent that is not negative, stands before the point. -/
def BeforePoint (m : Nat) (e : Int) : Prop := 0 ≤ e ∧ (digits m).length + e ≤ 16

instance (m : Nat) (e : Int) : Decidable (BeforePoint m e) := inferInstanceAs (Decidable (_ ∧ _))

/-- The fraction that the written form of a mantissa and an exponent spells: one place follows a bare point. -/
def spelled (b : Bool) (m : Nat) (e : Int) : Decimal :=
  if m = 0 then ⟨b, 0, -1⟩ else if BeforePoint m e then ⟨b, m * 10 ^ (e.toNat + 1), -1⟩ else ⟨b, m, e⟩

/-- The fraction as it is written. -/
def written (d : Decimal) : Decimal := spelled d.negative d.stripped.1 d.stripped.2

theorem negative_spelled (b : Bool) (m : Nat) (e : Int) : (spelled b m e).negative = b := by
  unfold spelled
  split
  · rfl
  · split
    · rfl
    · rfl

theorem value_spelled (b : Bool) (m : Nat) (e : Int) : (spelled b m e).value = value ⟨b, m, e⟩ := by
  unfold spelled
  split
  · rename_i hm
    simp [value, hm]
  · split
    · rename_i h
      have he : -1 + ((e.toNat + 1 : Nat) : Int) = e := by
        have := h.1
        omega
      rw [value_scale, he]
    · rfl

theorem isFinite_spelled (b : Bool) (m : Nat) (e : Int) : (spelled b m e).isFinite = isFinite ⟨b, m, e⟩ := by
  unfold spelled
  split
  · rename_i hm
    simp [isFinite, hm]
  · rename_i hm
    split
    · rename_i h
      have he : -1 + ((e.toNat + 1 : Nat) : Int) = e := by
        have := h.1
        omega
      rw [isFinite_scale hm, he]
    · rfl

/-- A fraction is written without a change to its sign and its value. -/
theorem same_written (d : Decimal) : d.Same d.written := by
  obtain ⟨m, k, hstrip, hm⟩ := exists_stripZeros (digits d.mantissa).length d.mantissa d.exponent
  refine ⟨negative_spelled _ _ _, ?_⟩
  rw [written, value_spelled, stripped, hstrip, ← value_scale, ← hm]

theorem isFinite_written (d : Decimal) : d.written.isFinite = d.isFinite := by
  obtain ⟨m, k, hstrip, hm⟩ := exists_stripZeros (digits d.mantissa).length d.mantissa d.exponent
  rw [written, isFinite_spelled, stripped, hstrip]
  by_cases h : m = 0
  · have hzero : d.mantissa = 0 := by rw [hm, h, Nat.zero_mul]
    simp [isFinite, h, hzero]
  · rw [← isFinite_scale h, ← hm]

end Decimal

end AccessGateway.Text
