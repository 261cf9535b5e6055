import AccessGateway.Json.Basic

/-!
# Reading JSON

A strict reader: the whole text is one value with blanks around it, strings hold no raw control character, and
numbers have no leading zero, no plus sign and no bare point. The readers of nested values spend one unit of fuel
per step; `read?` gives twice the length of the text, which no text uses up.
-/

namespace AccessGateway.Json

/-- Drops the blanks that may stand between tokens. -/
def skipBlanks (cs : List Char) : List Char :=
  cs.dropWhile fun c => c = ' ' || c = '\n' || c = '\r' || c = '\t'

/-- The value of a hexadecimal digit. -/
def hexValue? (c : Char) : Option Nat :=
  let n := c.toNat
  if 48 ≤ n ∧ n ≤ 57 then some (n - 48)
  else if 97 ≤ n ∧ n ≤ 102 then some (n - 87)
  else if 65 ≤ n ∧ n ≤ 70 then some (n - 55)
  else none

/-- The value of four hexadecimal digits. -/
def hexUnit? (a b c d : Char) : Option Nat := do
  return (← hexValue? a) * 4096 + (← hexValue? b) * 256 + (← hexValue? c) * 16 + (← hexValue? d)

/-- The content of a string up to its closing quotation mark, as code points and escaped 16-bit units. -/
def units? : List Char → Option (List Nat × List Char)
  | '"' :: r => some ([], r)
  | '\\' :: 'u' :: a :: b :: c :: d :: r => do
    let u ← hexUnit? a b c d
    let (us, r) ← units? r
    return (u :: us, r)
  | '\\' :: c :: r => do
    let u ← match c with
      | '"' | '\\' | '/' => some c.toNat
      | 'b' => some 8
      | 'f' => some 12
      | 'n' => some 10
      | 'r' => some 13
      | 't' => some 9
      | _ => none
    let (us, r) ← units? r
    return (u :: us, r)
  | c :: r =>
    if c.toNat < 32 ∨ c = '\\' then none
    else do
      let (us, r) ← units? r
      return (c.toNat :: us, r)
  | [] => none

/-- Joins surrogate pairs; none if a surrogate stands alone. -/
def characters? : List Nat → Option (List Char)
  | [] => some []
  | u :: us =>
    if 0xD800 ≤ u ∧ u < 0xDC00 then
      match us with
      | v :: vs =>
        if 0xDC00 ≤ v ∧ v < 0xE000 then
          (characters? vs).map (Char.ofNat (0x10000 + (u - 0xD800) * 1024 + (v - 0xDC00)) :: ·)
        else none
      | [] => none
    else if 0xDC00 ≤ u ∧ u < 0xE000 then none
    else (characters? us).map (Char.ofNat u :: ·)

/-- The digits in front and what follows them. -/
def spanDigits (cs : List Char) : List Char × List Char :=
  (cs.takeWhile Char.isDigit, cs.dropWhile Char.isDigit)

/-- The part of a number after its integer digits: fraction digits and exponent. -/
def fractionAndExponent? (cs : List Char) : Option (List Char × Option Int × List Char) := do
  let (frac, cs) ← match cs with
    | '.' :: r =>
      let (f, r) := spanDigits r
      if f.isEmpty then none else some (f, r)
    | _ => some ([], cs)
  let exponent (neg : Bool) (r : List Char) : Option (List Char × Option Int × List Char) :=
    let (e, r) := spanDigits r
    (Text.natural? e).map fun n => (frac, some (if neg then -(n : Int) else n), r)
  match cs with
  | 'e' :: '-' :: r | 'E' :: '-' :: r => exponent true r
  | 'e' :: '+' :: r | 'E' :: '+' :: r => exponent false r
  | 'e' :: r | 'E' :: r => exponent false r
  | _ => some (frac, none, cs)

/-- A number: an integer that fits 64 bits stays one, anything else is a fraction if it is finite. -/
def number? (cs : List Char) : Option (Json × List Char) := do
  let (negative, cs) := match cs with
    | '-' :: r => (true, r)
    | _ => (false, cs)
  let (whole, cs) := spanDigits cs
  if whole.isEmpty ∨ (whole.head? = some '0' ∧ whole.length ≠ 1) then none
  else
    let (frac, exponent, cs) ← fractionAndExponent? cs
    let mantissa := Nat.ofDigitChars 10 (whole ++ frac) 0
    let isWhole := frac.isEmpty && exponent.isNone
    if isWhole && !negative && mantissa < UInt64.size then return (.number (.integer mantissa), cs)
    else if isWhole && negative && mantissa ≠ 0 && mantissa ≤ UInt64.size / 2 then
      return (.number (.integer (-(mantissa : Int))), cs)
    else
      let d : Text.Decimal := ⟨negative, mantissa, exponent.getD 0 - frac.length⟩
      return (if d.isFinite then .number (.fraction d) else .unrepresentable, cs)

mutual
/-- The value in front and what follows it. -/
def value? : Nat → List Char → Option (Json × List Char)
  | 0, _ => none
  | fuel + 1, cs =>
    match skipBlanks cs with
    | 'n' :: 'u' :: 'l' :: 'l' :: r => some (.null, r)
    | 't' :: 'r' :: 'u' :: 'e' :: r => some (.bool true, r)
    | 'f' :: 'a' :: 'l' :: 's' :: 'e' :: r => some (.bool false, r)
    | '"' :: r => do
      let (us, r) ← units? r
      return (((characters? us).map fun s => .text (String.ofList s)).getD .unrepresentable, r)
    | '[' :: r =>
      match skipBlanks r with
      | ']' :: r => some (.list [], r)
      | r => do
        let (x, r) ← value? fuel r
        let (xs, r) ← items? fuel r
        return (.list (x :: xs), r)
    | '\x7b' :: r =>
      match skipBlanks r with
      | '\x7d' :: r => some (.object [], r)
      | r => do
        let (m, r) ← member? fuel r
        let (ms, r) ← members? fuel r
        return (.object (m :: ms), r)
    | r => number? r

/-- The items after the first, up to the closing bracket. -/
def items? : Nat → List Char → Option (List Json × List Char)
  | 0, _ => none
  | fuel + 1, cs =>
    match skipBlanks cs with
    | ']' :: r => some ([], r)
    | ',' :: r => do
      let (x, r) ← value? fuel r
      let (xs, r) ← items? fuel r
      return (x :: xs, r)
    | _ => none

/-- A name, a colon and a value. -/
def member? : Nat → List Char → Option ((String × Json) × List Char)
  | 0, _ => none
  | fuel + 1, cs =>
    match skipBlanks cs with
    | '"' :: r => do
      let (us, r) ← units? r
      let k ← characters? us
      match skipBlanks r with
      | ':' :: r =>
        let (x, r) ← value? fuel r
        return ((String.ofList k, x), r)
      | _ => none
    | _ => none

/-- The members after the first, up to the closing brace. -/
def members? : Nat → List Char → Option (List (String × Json) × List Char)
  | 0, _ => none
  | fuel + 1, cs =>
    match skipBlanks cs with
    | '\x7d' :: r => some ([], r)
    | ',' :: r => do
      let (m, r) ← member? fuel r
      let (ms, r) ← members? fuel r
      return (m :: ms, r)
    | _ => none
end

/-- The value a text stands for. -/
def read? (s : String) : Option Json := do
  let cs := s.toList
  let (j, r) ← value? (2 * cs.length + 2) cs
  if (skipBlanks r).isEmpty then some j else none

end AccessGateway.Json
