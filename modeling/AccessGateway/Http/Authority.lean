/-!
# Authorities

What may stand as the authority of a web address: characters of the generic address syntax, brackets that match,
at most one colon outside them, and no percent sign outside them or the user part.
-/

namespace AccessGateway.Authority

/-- What has been seen of an authority: colons and a percent sign since the last bracket or at sign, brackets, and
whether the last character was an at sign. -/
structure Scan where
  colons : Nat
  percent : Bool
  opened : Bool
  closed : Bool
  atEnd : Bool
deriving DecidableEq, Repr

/-- The unreserved and the reserved characters of addresses. -/
def isAddressChar (c : Char) : Bool :=
  c.isAlphanum || "!#$&'()*+,-./:;=?@[]_~".toList.contains c

/-- Takes one more character in; none if it cannot stand there. -/
def Scan.step (s : Scan) (c : Char) : Option Scan :=
  if c = ':' then if 8 ≤ s.colons then none else some { s with colons := s.colons + 1, atEnd := false }
  else if c = '[' then if s.percent || s.opened then none else some { s with opened := true, atEnd := false }
  else if c = ']' then
    if !s.opened || s.closed then none
    else some { s with closed := true, colons := 0, percent := false, atEnd := false }
  else if c = '@' then some { s with colons := 0, percent := false, atEnd := true }
  else if c = '%' then some { s with percent := true, atEnd := false }
  else if isAddressChar c then some { s with atEnd := false }
  else none

/-- Whether a text without slash, question mark and number sign is an authority. -/
def isLegal (cs : List Char) : Bool :=
  match cs.foldlM Scan.step ⟨0, false, false, false, false⟩ with
  | some s => !cs.isEmpty && s.opened == s.closed && s.colons ≤ 1 && !s.atEnd && !s.percent
  | none => false

/-- The host of a legal authority: what follows the last at sign, up to the closing bracket if it starts with a
bracket and else up to the first colon. -/
def host (cs : List Char) : List Char :=
  let hostPort := (cs.reverse.takeWhile (· ≠ '@')).reverse
  match hostPort with
  | '[' :: _ => hostPort.takeWhile (· ≠ ']') ++ [']']
  | _ => hostPort.takeWhile (· ≠ ':')

end AccessGateway.Authority
