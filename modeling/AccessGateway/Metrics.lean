import AccessGateway.Text.Numeral

/-!
# Metrics

Counters with labels. A counter appears with its first increment, be it by zero, and never decreases: it has no upper
bound here. The program counts with 64 bits and starts again from zero at 2 ^ 64, so what is said of a counter holds
of the program while the counter stays below that.
-/

namespace AccessGateway

/-- A counter is told apart by its name and its labels. -/
structure Counter where
  name : String
  labels : List (String × String) := []
deriving DecidableEq, Repr

/-- The counters incremented so far. -/
abbrev Metrics := List (Counter × Nat)

namespace Metrics

/-- The metrics after an increment. -/
def add (c : Counter) (n : Nat) : Metrics → Metrics
  | [] => [(c, n)]
  | (d, m) :: rest => if d = c then (d, m + n) :: rest else (d, m) :: add c n rest

/-- The value of a counter. -/
def total (c : Counter) : Metrics → Nat
  | [] => 0
  | (d, m) :: rest => if d = c then m else total c rest

/-- A counter with its labels, as it stands before the value. -/
def writeCounter (c : Counter) : String :=
  match c.labels with
  | [] => c.name
  | ls => c.name ++ "\x7b" ++ ",".intercalate (ls.map fun l => l.1 ++ "=\"" ++ l.2 ++ "\"") ++ "\x7d"

/-- The lines of the exposition: every name with its type, then its counters. -/
def lines (ms : Metrics) : List String :=
  (ms.map (·.1.name)).eraseDups.flatMap fun name =>
    s!"# TYPE {name} counter" :: (ms.filter (·.1.name == name)).map fun m => s!"{writeCounter m.1} {m.2}"

/-- The text of the exposition. -/
def render (ms : Metrics) : String := String.join (ms.lines.map (· ++ "\n"))

/-- An increment adds to its own counter and to no other. -/
theorem total_add (c d : Counter) (n : Nat) (ms : Metrics) :
    total d (add c n ms) = total d ms + if d = c then n else 0 := by
  induction ms with
  | nil => by_cases h : c = d <;> simp [add, total, h, eq_comm]
  | cons m ms ih =>
    obtain ⟨e, k⟩ := m
    by_cases hc : e = c
    · subst hc
      by_cases hd : e = d
      · simp [add, total, hd]
      · simp [add, total, hd, Ne.symm hd]
    · by_cases hd : e = d
      · subst hd
        simp [add, total, hc]
      · simp [add, total, hc, hd, ih]

end Metrics

end AccessGateway
