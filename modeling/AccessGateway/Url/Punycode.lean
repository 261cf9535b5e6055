import AccessGateway.Text.Split

/-!
# Punycode

The ASCII form of a label of an international domain name: its ASCII characters, a hyphen, and the others in
ascending order, each as the distance to the one before in digits of base 36 with moving thresholds.
-/

namespace AccessGateway.Url.Punycode

private def digit (d : Nat) : Char := if d < 26 then Char.ofNat (97 + d) else Char.ofNat (22 + d)

/-- How far the thresholds move up: divides by 35 while above 455, counting in steps of 36. -/
private def shrink (delta steps : Nat) : Nat × Nat :=
  if 455 < delta then shrink (delta / 35) (steps + 36) else (delta, steps)
termination_by delta
decreasing_by exact Nat.div_lt_self (by omega) (by omega)

/-- The bias after a distance was written, for the given number of characters written so far. -/
private def adapt (delta count : Nat) (first : Bool) : Nat :=
  let d := if first then delta / 700 else delta / 2
  let (d, k) := shrink (d + d / count) 0
  k + 36 * d / (d + 38)

/-- The threshold of the digit at a position. -/
private def threshold (position bias : Nat) : Nat :=
  if position ≤ bias then 1 else if bias + 26 ≤ position then 26 else position - bias

private theorem threshold_bounds (k bias : Nat) : 1 ≤ threshold k bias ∧ threshold k bias ≤ 26 := by
  unfold threshold
  split
  · omega
  · split <;> omega

/-- A distance in digits of variable weight. -/
private def distance (bias position q : Nat) : List Char :=
  let t := threshold position bias
  if q < t then [digit q]
  else digit (t + (q - t) % (36 - t)) :: distance bias (position + 36) ((q - t) / (36 - t))
termination_by q
decreasing_by
  have := threshold_bounds position bias
  exact Nat.lt_of_le_of_lt (Nat.div_le_self _ _) (by omega)

/-- The state of the encoder: what was written, the distance so far, the bias, and how many characters are done. -/
private structure Progress where
  written : List Char
  delta : Nat
  bias : Nat
  done : Nat

/-- Passes over one character of the label while the code point `n` is being written. -/
private def pass (basic n : Nat) (p : Progress) (c : Char) : Progress :=
  if c.toNat < n then { p with delta := p.delta + 1 }
  else if c.toNat = n then
    ⟨p.written ++ distance p.bias 36 p.delta, 0, adapt p.delta (p.done + 1) (p.done == basic), p.done + 1⟩
  else p

/-- The label in ASCII, without the prefix that marks it. -/
def encode (label : List Char) : List Char :=
  let ascii := label.filter (·.toNat < 128)
  let others := ((label.map Char.toNat).filter (128 ≤ ·)).mergeSort.eraseDups
  let start : Nat × Progress := (128, ⟨[], 0, 72, ascii.length⟩)
  let final := others.foldl (fun (n, p) m =>
    let p := label.foldl (pass ascii.length m) { p with delta := p.delta + (m - n) * (p.done + 1) }
    (m + 1, { p with delta := p.delta + 1 })) start
  ascii ++ (if ascii.isEmpty then [] else ['-']) ++ final.2.written

private def digitValue? (c : Char) : Option Nat :=
  let l := c.toLower
  if 'a' ≤ l ∧ l ≤ 'z' then some (l.toNat - 97) else if c.isDigit then some (c.toNat - 22) else none

/-- The state of the decoder: the characters so far, the code point and the place of the next one, the place after
the last one, and weight and position of the next digit. -/
private structure Reading where
  characters : List Char
  code : Nat
  place : Nat
  lastPlace : Nat
  bias : Nat
  weight : Nat
  position : Nat

/-- Takes one more digit in; the last digit of a distance is below its threshold and places a character. -/
private def Reading.step (s : Reading) (c : Char) : Option Reading := do
  let d ← digitValue? c
  let t := threshold s.position s.bias
  let place := s.place + d * s.weight
  if t ≤ d then return { s with place, weight := s.weight * (36 - t), position := s.position + 36 }
  let count := s.characters.length + 1
  let code := s.code + place / count
  let place := place % count
  if !code.isValidChar then none
  let bias := adapt (s.place + d * s.weight - s.lastPlace) count (s.lastPlace == 0)
  let characters := s.characters.take place ++ Char.ofNat code :: s.characters.drop place
  return ⟨characters, code, place + 1, place + 1, bias, 1, 36⟩

/-- The label that a text stands for. -/
def decode? (text : List Char) : Option (List Char) := do
  let (ascii, digits) := (Text.splitLast? '-' text).getD ([], text)
  if (Text.splitLast? '-' text).any (·.1.isEmpty) then none
  let s ← digits.foldlM Reading.step ⟨ascii, 128, 0, 0, 72, 1, 36⟩
  if s.position = 36 then some s.characters else none

end AccessGateway.Url.Punycode
