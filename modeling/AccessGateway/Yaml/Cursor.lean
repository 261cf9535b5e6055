/-!
# Positions in a YAML text

A cursor is the text still to be read, the column of its first character, and whether only blanks stand before it
on its line. Block structure hangs on the column; a key may stand where a line is fresh.
-/

namespace AccessGateway.Yaml

/-- A position in a text. -/
structure Cursor where
  rest : List Char
  column : Nat
  fresh : Bool
deriving Repr, DecidableEq

namespace Cursor

/-- The start of a text; line ends of all kinds become line feeds, and a byte order mark is dropped. -/
def start (text : List Char) : Cursor :=
  let text := match text with
    | '\uFEFF' :: r => r
    | _ => text
  ⟨lines text, 0, true⟩
where
  /-- Line ends as line feeds. -/
  lines : List Char → List Char
    | '\r' :: '\n' :: r => '\n' :: lines r
    | '\r' :: r => '\n' :: lines r
    | c :: r => c :: lines r
    | [] => []

/-- The position after the first character. -/
def next (c : Cursor) : Cursor :=
  match c.rest with
  | [] => c
  | '\n' :: r => ⟨r, 0, true⟩
  | x :: r => ⟨r, c.column + 1, c.fresh && (x == ' ' || x == '\t')⟩

/-- The position after `n` characters. -/
def skip (c : Cursor) : Nat → Cursor
  | 0 => c
  | n + 1 => c.next.skip n

/-- The first character. -/
def peek? (c : Cursor) : Option Char := c.rest.head?

/-- Whether a character is a blank, a line end, or missing. -/
def isBlankOrEnd : Option Char → Bool
  | none => true
  | some x => x == ' ' || x == '\t' || x == '\n'

/-- Whether the character at an offset is a blank, a line end or the end of the text. -/
def blankAt (c : Cursor) (n : Nat) : Bool := isBlankOrEnd c.rest[n]?

/-- The text is at its end. -/
def atEnd (c : Cursor) : Bool := c.rest.isEmpty

/-- Three equal characters at the start of a line, followed by a blank, mark a document boundary. -/
def atMarker (c : Cursor) (mark : Char) : Bool :=
  c.column == 0 && c.rest.take 3 == [mark, mark, mark] && c.blankAt 3

/-- A document starts or ends here. -/
def atBoundary (c : Cursor) : Bool := c.atMarker '-' || c.atMarker '.'

/-- An item of a block list starts here. -/
def atDash (c : Cursor) : Bool := c.peek? == some '-' && c.blankAt 1

/-- A value of a block mapping starts here. -/
def atColon (c : Cursor) : Bool := c.peek? == some ':' && c.blankAt 1

/-- Skips blanks, comments and line ends up to the next token; at the fresh start of a block line a tab stays. -/
def toToken (flow : Bool) (c : Cursor) : Cursor :=
  go c.rest.length c
where
  /-- Skips at most as many characters as there are. -/
  go : Nat → Cursor → Cursor
    | 0, c => c
    | n + 1, c =>
      match c.peek? with
      | some ' ' => go n c.next
      | some '\t' => if flow || !c.fresh then go n c.next else c
      | some '\n' => go n c.next
      | some '#' => go n (c.skip (c.rest.takeWhile (· ≠ '\n')).length)
      | _ => c

/-- Skips blanks within a line. -/
def skipBlanks (c : Cursor) : Cursor :=
  c.skip (c.rest.takeWhile fun x => x = ' ' || x = '\t').length

end Cursor

end AccessGateway.Yaml
