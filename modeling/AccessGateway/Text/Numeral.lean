/-!
# Decimal numerals

Reading and writing natural numbers in decimal. Key facts: the digits of a number read back as that number
(`natural?_digits`), and what reads as a number is a non-empty run of digits.
-/

namespace AccessGateway.Text

/-- The decimal digits of a number, with no leading zero. -/
def digits (n : Nat) : List Char := Nat.toDigits 10 n

/-- The number a non-empty run of decimal digits stands for; leading zeros are allowed. -/
def natural? (cs : List Char) : Option Nat :=
  if cs ≠ [] ∧ cs.all Char.isDigit then some (Nat.ofDigitChars 10 cs 0) else none

/-- A decimal numeral that may carry a plus sign, not above `top`. -/
def unsigned? (top : Nat) (cs : List Char) : Option Nat :=
  let cs := match cs with
    | '+' :: r => r
    | _ => cs
  (natural? cs).filter (· ≤ top)

theorem natural?_isSome_iff {cs : List Char} :
    (natural? cs).isSome = true ↔ cs ≠ [] ∧ ∀ c ∈ cs, c.isDigit = true := by
  unfold natural?
  split <;> simp_all

theorem digits_ne_nil (n : Nat) : digits n ≠ [] := by
  simp [digits]

theorem isDigit_of_mem_digits {n : Nat} {c : Char} (h : c ∈ digits n) : c.isDigit = true :=
  Nat.isDigit_of_mem_toDigits (by decide) (by decide) h

/-- The digits of a number read back as that number. -/
@[simp] theorem natural?_digits (n : Nat) : natural? (digits n) = some n := by
  have h : (digits n).all Char.isDigit = true := List.all_eq_true.2 fun c hc => isDigit_of_mem_digits hc
  rw [natural?, if_pos ⟨digits_ne_nil n, h⟩, digits, Nat.ofDigitChars_toDigits (by decide) (by decide)]

end AccessGateway.Text
