import AccessGateway.Text.Numeral

/-!
# Decimal fractions

A decimal fraction is a sign, a natural mantissa and a power of ten. The nearest binary64 number decides whether
a fraction counts as finite and which whole number it rounds to; both are computed exactly, in natural numbers.
-/

namespace AccessGateway.Text

/-- The number `mantissa * 10 ^ exponent`, negated if `negative`. -/
structure Decimal where
  negative : Bool
  mantissa : Nat
  exponent : Int
deriving DecidableEq, Repr, Inhabited

namespace Decimal

/-- The power of ten just above the magnitude; zero has none. -/
def magnitude (d : Decimal) : Int := (digits d.mantissa).length + d.exponent

/-- Numerator and denominator of the magnitude. -/
def ratio (d : Decimal) : Nat × Nat :=
  if 0 ≤ d.exponent then (d.mantissa * Nat.pow 10 d.exponent.toNat, 1) else (d.mantissa, Nat.pow 10 (-d.exponent).toNat)

/-- The magnitude stays below the middle between the greatest binary64 number and the next power of two, where
rounding to nearest would overflow. -/
def isFinite (d : Decimal) : Bool :=
  if d.mantissa = 0 ∨ d.magnitude < 300 then true
  else if 320 < d.magnitude then false
  else d.ratio.1 < ((1 <<< 1024) - (1 <<< 970)) * d.ratio.2

/-- The quotient rounded to the nearest natural number, halves to the even one. -/
def nearestEven (num den : Nat) : Nat :=
  let q := num / den
  let r := num % den
  if 2 * r < den ∨ (2 * r = den ∧ q % 2 = 0) then q else q + 1

/-- A positive quotient rounded to 53 significant bits, as a mantissa and a power of two. -/
def nearestBinary (num den : Nat) : Nat × Int :=
  let k : Int := (num.log2 : Int) - den.log2 - 52
  let scaled (k : Int) : Nat × Nat := if 0 ≤ k then (num, den <<< k.toNat) else (num <<< (-k).toNat, den)
  let s := scaled k
  if s.1 / s.2 < 1 <<< 52 then
    let t := scaled (k - 1)
    (nearestEven t.1 t.2, k - 1)
  else (nearestEven s.1 s.2, k)

/-- The nearest binary64 number, rounded to the nearest natural number with halves upwards; none for numbers
below zero and for those of 2^64 and above. -/
def rounded64? (d : Decimal) : Option Nat :=
  if d.mantissa = 0 then some 0
  else if d.negative ∨ 25 < d.magnitude then none
  else if d.magnitude < -5 then some 0
  else
    let b := nearestBinary d.ratio.1 d.ratio.2
    let n := if 0 ≤ b.2 then b.1 <<< b.2.toNat else (b.1 + (1 <<< ((-b.2).toNat - 1))) >>> (-b.2).toNat
    let below := if 0 ≤ b.2 then b.1 <<< b.2.toNat < UInt64.size else b.1 < UInt64.size <<< (-b.2).toNat
    if below then some (min n (UInt64.size - 1)) else none

/-- The mantissa without trailing zeros, within a number of steps that suffices when it is its digit count. -/
def stripZeros : Nat → Nat → Int → Nat × Int
  | 0, m, e => (m, e)
  | steps + 1, m, e => if m ≠ 0 ∧ m % 10 = 0 then stripZeros steps (m / 10) (e + 1) else (m, e)

/-- The written form: positional below 10^16 and down to 10^-5, with an exponent elsewhere. -/
def render (d : Decimal) : String :=
  let (m, e) := stripZeros (digits d.mantissa).length d.mantissa d.exponent
  let ds := digits m
  let point : Int := ds.length + e
  let body : List Char :=
    if m = 0 then ['0', '.', '0']
    else if 0 ≤ e ∧ point ≤ 16 then ds ++ List.replicate e.toNat '0' ++ ['.', '0']
    else if 0 < point ∧ point ≤ 16 then ds.take point.toNat ++ ['.'] ++ ds.drop point.toNat
    else if -5 < point ∧ point ≤ 0 then ['0', '.'] ++ List.replicate (-point).toNat '0' ++ ds
    else
      let frac := ds.drop 1
      ds.take 1 ++ (if frac.isEmpty then [] else '.' :: frac) ++ ['e'] ++ (toString (point - 1)).toList
  String.ofList (if d.negative then '-' :: body else body)

end Decimal

end AccessGateway.Text
