import AccessGateway.Json.Reader
import AccessGateway.Yaml.Cursor

/-!
# YAML scalars

The four ways to write a text: plain, in single or double quotation marks, and as an indented block. Within a text
that runs over several lines one line end counts as a space and each further one as a line feed; blanks around line
ends do not count. The loops run at most once per character of the text.
-/

namespace AccessGateway.Yaml

/-- Blanks and line ends: the blanks of the first line and the number of line ends, and the position after. A tab
before a given column counts as misplaced once a line has ended. -/
def gap (column : Option Nat) (c : Cursor) : Option (List Char × Nat × Cursor) :=
  go c.rest.length [] 0 c
where
  /-- Passes at most as many characters as there are. -/
  go : Nat → List Char → Nat → Cursor → Option (List Char × Nat × Cursor)
    | 0, blanks, breaks, c => some (blanks, breaks, c)
    | n + 1, blanks, breaks, c =>
      match c.peek? with
      | some '\n' => go n [] (breaks + 1) c.next
      | some ' ' => go n (if breaks = 0 then blanks ++ [' '] else []) breaks c.next
      | some '\t' =>
        if breaks ≠ 0 && column.any (c.column < ·) then none
        else go n (if breaks = 0 then blanks ++ ['\t'] else []) breaks c.next
      | _ => some (blanks, breaks, c)

/-- What a gap stands for within a text. -/
def foldGap (blanks : List Char) (breaks : Nat) : List Char :=
  match breaks with
  | 0 => blanks
  | 1 => [' ']
  | n + 2 => List.replicate (n + 1) '\n'

/-- Characters with a meaning of their own in flow collections. -/
def isFlowIndicator (c : Char) : Bool := ",[]\x7b\x7d".toList.contains c

/-- The characters of a plain text up to a blank or an indicator that ends it; none at a colon that is misplaced in
a flow collection. -/
def plainWord (flow : Bool) : List Char → Option (List Char)
  | [] => some []
  | c :: r =>
    if Cursor.isBlankOrEnd (some c) then some []
    else if c = ':' && Cursor.isBlankOrEnd r.head? then some []
    else if flow && c = ':' && r.head?.any (fun x => isFlowIndicator x || x = '?') then none
    else if flow && isFlowIndicator c then some []
    else (plainWord flow r).map (c :: ·)

/-- Whether a plain text may start here. -/
def startsPlain (flow : Bool) (c : Cursor) : Bool :=
  match c.peek? with
  | none => false
  | some x =>
    if x = '-' then !(c.rest[1]? == some ' ' || c.rest[1]? == some '\t')
    else if x = '?' || x = ':' then !flow && !c.blankAt 1
    else !(Cursor.isBlankOrEnd (some x)) && x.toNat ≠ 0x60 && !(",[]\x7b\x7d#&*!|>'\"%@".toList.contains x)

/-- A plain text; in a block its further lines start at `indent` or right of it. -/
def plain? (flow : Bool) (indent : Nat) (c : Cursor) : Option (List Char × Cursor) :=
  go c.rest.length [] c
where
  /-- Reads words while there are any, with what stands before the next one. -/
  go : Nat → List Char → Cursor → Option (List Char × Cursor)
    | 0, _, c => some ([], c)
    | n + 1, pending, c => do
      if c.atBoundary || c.peek? == some '#' then return ([], c)
      let word ← plainWord flow c.rest
      if word.isEmpty then return ([], c)
      let c := c.skip word.length
      let (blanks, breaks, after) ← gap (if flow then none else some indent) c
      if blanks.isEmpty && breaks = 0 then return (pending ++ word, c)
      if breaks ≠ 0 && !flow && after.column < indent then return (pending ++ word, after)
      let (cs, c) ← go n (foldGap blanks breaks) after
      return (pending ++ word ++ cs, c)

/-- A text in single quotation marks, from behind the first mark; a doubled mark stands for itself. -/
def singleQuoted? (c : Cursor) : Option (List Char × Cursor) :=
  go c.rest.length c
where
  /-- Reads characters up to the closing mark. -/
  go : Nat → Cursor → Option (List Char × Cursor)
    | 0, _ => none
    | n + 1, c => do
      if c.atBoundary then none
      match c.rest with
      | '\'' :: '\'' :: _ => return (← go n (c.skip 2)).map ('\'' :: ·) id
      | '\'' :: _ => return ([], c.next)
      | x :: _ =>
        if Cursor.isBlankOrEnd (some x) then
          let (blanks, breaks, after) ← gap none c
          return (← go n after).map (foldGap blanks breaks ++ ·) id
        else return (← go n c.next).map (x :: ·) id
      | [] => none

def escapeLetter? : Char → Option Char
  | '0' => some '\x00'
  | 'a' => some '\x07'
  | 'b' => some '\x08'
  | 't' | '\t' => some '\t'
  | 'n' => some '\n'
  | 'v' => some '\x0b'
  | 'f' => some '\x0c'
  | 'r' => some '\r'
  | 'e' => some '\x1b'
  | ' ' => some ' '
  | '"' => some '"'
  | '/' => some '/'
  | '\\' => some '\\'
  | 'N' => some '\u0085'
  | '_' => some '\u00a0'
  | 'L' => some '\u2028'
  | 'P' => some '\u2029'
  | _ => none

/-- How many hexadecimal digits an escape letter announces. -/
def escapeDigits? : Char → Option Nat
  | 'x' => some 2
  | 'u' => some 4
  | 'U' => some 8
  | _ => none

/-- The character of some hexadecimal digits; none for surrogates and numbers beyond the last character. -/
def hexCharacter? (ds : List Char) : Option Char := do
  let n ← ds.foldlM (fun n d => do return n * 16 + (← Json.hexValue? d)) 0
  if n.isValidChar then some (Char.ofNat n) else none

/-- A text in double quotation marks, from behind the first mark. -/
def doubleQuoted? (c : Cursor) : Option (List Char × Cursor) :=
  go c.rest.length c
where
  /-- Reads characters up to the closing mark. -/
  go : Nat → Cursor → Option (List Char × Cursor)
    | 0, _ => none
    | n + 1, c => do
      if c.atBoundary then none
      match c.rest with
      | '"' :: _ => return ([], c.next)
      | '\\' :: '\n' :: _ =>
        let (_, breaks, after) ← gap none (c.skip 2)
        return (← go n after).map (List.replicate breaks '\n' ++ ·) id
      | '\\' :: x :: r =>
        match escapeDigits? x with
        | some k =>
          let digits := r.take k
          if digits.length < k then none
          else
            let d ← hexCharacter? digits
            return (← go n (c.skip (2 + k))).map (d :: ·) id
        | none =>
          let d ← escapeLetter? x
          return (← go n (c.skip 2)).map (d :: ·) id
      | x :: _ =>
        if Cursor.isBlankOrEnd (some x) then
          let (blanks, breaks, after) ← gap none c
          return (← go n after).map (foldGap blanks breaks ++ ·) id
        else return (← go n c.next).map (x :: ·) id
      | [] => none

/-- What happens to the line ends behind a block text. -/
inductive Chomping where
  | strip
  | clip
  | keep
deriving DecidableEq, Repr

/-- The indicators behind the sign of a block text: what happens to the line ends, and the indentation. -/
def blockHeader? (cs : List Char) : Option (Chomping × Option Nat × Nat) :=
  let chomping? : Char → Option Chomping
    | '-' => some .strip
    | '+' => some .keep
    | _ => none
  let width? (c : Char) : Option Nat := if '1' ≤ c && c ≤ '9' then some (c.toNat - 48) else none
  match cs with
  | a :: r =>
    match chomping? a, width? a with
    | some ch, _ =>
      match r.head?.bind width? with
      | some w => some (ch, some w, 2)
      | none => if r.head? == some '0' then none else some (ch, none, 1)
    | none, some w =>
      match r.head?.bind chomping? with
      | some ch => some (ch, some w, 2)
      | none => some (.clip, some w, 1)
    | none, none => if a = '0' then none else some (.clip, none, 0)
  | [] => some (.clip, none, 0)

/-- Skips blank lines of a block, and indentation up to a width if one is known: the greatest column reached, the
number of line ends, and the position after. A tab in place of indentation is refused. -/
def blockBreaks? (width : Option Nat) (c : Cursor) : Option (Nat × Nat × Cursor) :=
  go c.rest.length 0 0 c
where
  /-- Skips at most as many characters as there are. -/
  go : Nat → Nat → Nat → Cursor → Option (Nat × Nat × Cursor)
    | 0, widest, breaks, c => some (max widest c.column, breaks, c)
    | n + 1, widest, breaks, c =>
      match c.peek? with
      | some ' ' => if width.any (· ≤ c.column) then some (widest, breaks, c) else go n widest breaks c.next
      | some '\n' => go n (max widest c.column) (breaks + 1) c.next
      | some '\t' =>
        if width.all (c.column < ·) then none else some (max widest c.column, breaks, c)
      | _ => some (max widest c.column, breaks, c)

/-- A block text from behind its sign, inside a collection at column `parent`. A folded block joins neighbouring
lines by spaces, except around lines that start with a blank. -/
def blockText? (folded : Bool) (parent : Int) (c : Cursor) : Option (List Char × Cursor) := do
  let (chomping, width, used) ← blockHeader? c.rest
  let c := (c.skip used).skipBlanks
  let c := c.skip (if c.peek? == some '#' then (c.rest.takeWhile (· ≠ '\n')).length else 0)
  if !c.atEnd && c.peek? != some '\n' then none
  let base := parent.toNat
  let (widest, breaks, c) ← blockBreaks? (width.map (base + ·)) c.next
  let indent := match width with
    | some w => base + w
    | none => max widest (max (parent + 1).toNat 1)
  go indent chomping c.rest.length [] [] (List.replicate breaks '\n') false c
where
  /-- Adds lines while they start at the column of the block; `lead` is the pending line end, `trail` the blank
  lines after it, and the flag says whether the line before started with a blank. -/
  go (indent : Nat) (chomping : Chomping) :
      Nat → List Char → List Char → List Char → Bool → Cursor → Option (List Char × Cursor)
    | 0, acc, lead, trail, _, c => some (finish chomping acc lead trail, c)
    | n + 1, acc, lead, trail, blankBefore, c => do
      if c.column ≠ indent || c.atEnd then return (finish chomping acc lead trail, c)
      let blankNow := c.peek? == some ' ' || c.peek? == some '\t'
      let joint :=
        if folded && !lead.isEmpty && !blankBefore && !blankNow then
          if trail.isEmpty then [' '] else trail
        else lead ++ trail
      let line := c.rest.takeWhile (· ≠ '\n')
      let c := c.skip line.length
      let lead := if c.atEnd then [] else ['\n']
      let (_, breaks, c) ← blockBreaks? (some indent) c.next
      go indent chomping n (acc ++ joint ++ line) lead (List.replicate breaks '\n') blankNow c
  /-- The text with the line ends that are kept behind it. -/
  finish (chomping : Chomping) (acc lead trail : List Char) : List Char :=
    match chomping with
    | .strip => acc
    | .clip => acc ++ lead
    | .keep => acc ++ lead ++ trail

end AccessGateway.Yaml
