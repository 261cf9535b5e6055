/-!
# Placeholders

A dollar sign and a name of capitals, digits and underscores in braces stands for a variable, with a default behind
`:-` for the case that it is not set. Expansion runs over a text once, from the left; what it puts in is not looked
at again, and anything else that looks like a placeholder stays.
-/

namespace AccessGateway.Settings

/-- A placeholder: the name of its variable and its default. -/
structure Placeholder where
  name : List Char
  default : List Char
deriving DecidableEq, Repr

/-- Characters a variable name may start with. -/
def startsVariable (c : Char) : Bool := ('A' ≤ c && c ≤ 'Z') || c = '_'

/-- Characters of a variable name. -/
def inVariable (c : Char) : Bool := startsVariable c || c.isDigit

/-- The name and default of a placeholder from behind its opening brace, and what follows its closing brace. -/
def readPlaceholder? (cs : List Char) : Option (Placeholder × List Char) :=
  let name := cs.takeWhile inVariable
  if name.head?.any startsVariable then
    match cs.dropWhile inVariable with
    | '\x7d' :: r => some (⟨name, []⟩, r)
    | ':' :: '-' :: r =>
      match r.dropWhile (· ≠ '\x7d') with
      | '\x7d' :: rest => some (⟨name, r.takeWhile (· ≠ '\x7d')⟩, rest)
      | _ => none
    | _ => none
  else none

/-- What follows a placeholder is shorter than the text from its name on. -/
theorem readPlaceholder?_length {cs r : List Char} {p : Placeholder} (h : readPlaceholder? cs = some (p, r)) :
    r.length < cs.length := by
  have drop (q : Char → Bool) (l : List Char) : (l.dropWhile q).length ≤ l.length :=
    (List.dropWhile_suffix q).length_le
  simp only [readPlaceholder?] at h
  split at h
  · have h1 := drop inVariable cs
    split at h
    · rename_i e
      rw [e] at h1
      simp only [Option.some.injEq, Prod.mk.injEq] at h
      simp only [List.length_cons] at h1
      rw [← h.2]
      omega
    · rename_i s e
      rw [e] at h1
      have h2 := drop (· ≠ '\x7d') s
      split at h
      · rename_i e'
        rw [e'] at h2
        simp only [Option.some.injEq, Prod.mk.injEq] at h
        simp only [List.length_cons] at h1 h2
        rw [← h.2]
        omega
      · cases h
    · cases h
  · cases h

/-- The text with every placeholder replaced by the value of its variable, or by its default. -/
def expand (value : String → Option String) (cs : List Char) : List Char :=
  match cs with
  | [] => []
  | '$' :: '\x7b' :: r =>
    match h : readPlaceholder? r with
    | some (p, rest) =>
      have := readPlaceholder?_length h
      ((value (String.ofList p.name)).map String.toList).getD p.default ++ expand value rest
    | none => '$' :: expand value ('\x7b' :: r)
  | c :: r => c :: expand value r
termination_by cs.length
decreasing_by
  all_goals simp only [List.length_cons]
  all_goals omega

/-- A text with its placeholders replaced. -/
def expandText (value : String → Option String) (s : String) : String := String.ofList (expand value s.toList)

end AccessGateway.Settings
