/-!
# Base64

Four characters of six bits stand for three bytes. Reading is strict: a last group that stands for one or two bytes
must leave its surplus bits zero, so no two texts of one alphabet stand for the same bytes. The standard alphabet
pads the last group with equals signs; the alphabet for addresses does not.
-/

namespace AccessGateway.Text.Base64

/-- Which two characters stand for the values 62 and 63. -/
inductive Alphabet where
  | standard
  | url
deriving DecidableEq, Repr

/-- The value of a character. -/
def sextet? (a : Alphabet) (c : Char) : Option Nat :=
  if 'A' ≤ c ∧ c ≤ 'Z' then some (c.toNat - 65)
  else if 'a' ≤ c ∧ c ≤ 'z' then some (c.toNat - 71)
  else if '0' ≤ c ∧ c ≤ '9' then some (c.toNat + 4)
  else
    match a, c with
    | .standard, '+' | .url, '-' => some 62
    | .standard, '/' | .url, '_' => some 63
    | _, _ => none

/-- The bytes of a sequence of six-bit values. -/
def join? : List Nat → Option (List UInt8)
  | a :: b :: c :: d :: r => do
    let group := [UInt8.ofNat (a * 4 + b / 16), UInt8.ofNat (b % 16 * 16 + c / 4), UInt8.ofNat (c % 4 * 64 + d)]
    return group ++ (← join? r)
  | [a, b, c] => if c % 4 = 0 then some [UInt8.ofNat (a * 4 + b / 16), UInt8.ofNat (b % 16 * 16 + c / 4)] else none
  | [a, b] => if b % 16 = 0 then some [UInt8.ofNat (a * 4 + b / 16)] else none
  | [_] => none
  | [] => some []

/-- The bytes of a text without padding. -/
def decode? (a : Alphabet) (cs : List Char) : Option (List UInt8) := do join? (← cs.mapM (sextet? a))

/-- The bytes of a text padded to whole groups. -/
def decodePadded? (a : Alphabet) (cs : List Char) : Option (List UInt8) :=
  let padding := (cs.reverse.takeWhile (· = '=')).length
  if cs.length % 4 = 0 && padding ≤ 2 then decode? a (cs.take (cs.length - padding)) else none

end AccessGateway.Text.Base64
