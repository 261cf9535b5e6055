import AccessGateway.Text.Numeral

/-!
# Durations

Durations are written as a number with a unit: `ms`, `s`, `m` or `h`; a bare number counts seconds. They are shown
in whole seconds, or in milliseconds when below one second.
-/

namespace AccessGateway

/-- A length of time in milliseconds. -/
structure Duration where
  millis : Nat
deriving DecidableEq, Repr, Inhabited

namespace Duration

def ofSeconds (n : Nat) : Duration := ⟨n * 1000⟩

/-- The whole seconds. -/
def seconds (d : Duration) : Nat := d.millis / 1000

/-- A number of up to 64 bits. -/
def count? (cs : List Char) : Option Nat := Text.unsigned? (UInt64.size - 1) cs

/-- The text without a unit at its end. -/
def stripUnit? (unit cs : List Char) : Option (List Char) :=
  if unit.isSuffixOf cs then some (cs.take (cs.length - unit.length)) else none

/-- Reads a duration; `ms` is looked for before `s`. The seconds of a number of minutes or hours are taken to fit 64
bits, as those of every setting up to 2 ^ 52 hours do; beyond that the program fails or wraps around, as it was
built. -/
def read? (s : String) : Option Duration :=
  let cs := s.toList
  match stripUnit? ['m', 's'] cs with
  | some n => (count? n).map Duration.mk
  | none =>
    match stripUnit? ['s'] cs with
    | some n => (count? n).map ofSeconds
    | none =>
      match stripUnit? ['m'] cs with
      | some n => (count? n).map fun k => ofSeconds (k * 60)
      | none =>
        match stripUnit? ['h'] cs with
        | some n => (count? n).map fun k => ofSeconds (k * 3600)
        | none => (count? cs).map ofSeconds

/-- Writes a duration. -/
def render (d : Duration) : String :=
  if d.millis % 1000 ≠ 0 ∧ d.seconds = 0 then s!"{d.millis}ms" else s!"{d.seconds}s"

end Duration

end AccessGateway
