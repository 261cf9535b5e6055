import AccessGateway.Http.Authority
import AccessGateway.Text.Utf8

/-!
# Request targets

What a request line asks for: a path with a query, an absolute address, an authority alone, or an asterisk. A
fragment is cut off. In a path or a query stand printable characters but some that must be escaped; characters
beyond ASCII are taken as they are.
-/

namespace AccessGateway

/-- The target of a request line. -/
structure RequestTarget where
  /-- Its scheme, if it is an absolute address. -/
  scheme : Option (List Char)
  /-- Its authority, if it has one. -/
  authority : Option (List Char)
  /-- Path and query as written. -/
  pathAndQuery : List Char
deriving DecidableEq, Repr

namespace RequestTarget

/-- The most bytes a target may have. -/
def maxLength : Nat := 65534

def isPathChar (c : Char) : Bool :=
  127 ≤ c.toNat || (33 ≤ c.toNat && !"#<>?\x60".toList.contains c)

def isQueryChar (c : Char) : Bool := 127 ≤ c.toNat || (33 ≤ c.toNat && !"\"#<>".toList.contains c)

def isSchemeChar (c : Char) : Bool := c.isAlphanum || c == '+' || c == '-' || c == '.'

/-- Path and query up to a fragment; none if a character may not stand there. -/
def readPathAndQuery? (cs : List Char) : Option (List Char) :=
  let shown := cs.takeWhile (· ≠ '#')
  let path := shown.takeWhile (· ≠ '?')
  let query := shown.drop path.length
  if path.all isPathChar && query.all isQueryChar then some shown else none

def endsAuthority (c : Char) : Bool := "/?#".toList.contains c

/-- The scheme in front of a colon and two slashes, and what follows them. -/
def splitScheme? (cs : List Char) : Option (List Char × List Char) :=
  let scheme := cs.takeWhile isSchemeChar
  match cs.drop scheme.length with
  | ':' :: '/' :: '/' :: rest => some (scheme, rest)
  | _ => none

def read? (s : String) : Option RequestTarget :=
  let cs := s.toList
  if maxLength < s.utf8ByteSize then none
  else
    match cs with
    | [] => none
    | ['*'] => some ⟨none, none, ['*']⟩
    | '/' :: _ => (readPathAndQuery? cs).map fun p => ⟨none, none, p⟩
    | _ =>
      match splitScheme? cs with
      | none => if !cs.any endsAuthority && Authority.isLegal cs then some ⟨none, some cs, []⟩ else none
      | some (scheme, rest) =>
        let authority := rest.takeWhile fun c => !endsAuthority c
        if 64 < scheme.length || !Authority.isLegal authority then none
        else (readPathAndQuery? (rest.drop authority.length)).map fun p => ⟨some scheme, some authority, p⟩

/-- The path, which is a slash if an absolute address names none; an authority alone has no path. -/
def path (t : RequestTarget) : String :=
  let p := t.pathAndQuery.takeWhile (· ≠ '?')
  if p.isEmpty && t.scheme.isSome then "/" else String.ofList p

/-- The text after the question mark. -/
def query? (t : RequestTarget) : Option String :=
  match t.pathAndQuery.dropWhile (· ≠ '?') with
  | _ :: q => some (String.ofList q)
  | [] => none

/-- What is asked of the target: path and query, or a slash if there is neither. -/
def forwarded (t : RequestTarget) : String := if t.pathAndQuery.isEmpty then "/" else String.ofList t.pathAndQuery

end RequestTarget

end AccessGateway
