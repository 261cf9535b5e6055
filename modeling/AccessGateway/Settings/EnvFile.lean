import AccessGateway.Settings.Environment
import AccessGateway.Text.Alphanumeric
import AccessGateway.Text.Utf8

/-!
# Environment files

A file of lines `NAME=value`, optionally behind `export`, adds variables to the environment. Values may be quoted,
singly without and doubly with substitution of `$NAME`, whose name goes as far as letters and digits do, and of the
braced form; a quoted value may run over several lines. A variable that is set keeps its value, and the first bad line
ends the file. A byte order mark in front does not count.
-/

namespace AccessGateway.Settings.EnvFile

/-- How far the quotation of a line has come. -/
inductive Quotation where
  | complete
  | blank
  | escaped
  | strong
  | strongEscaped
  | weak
  | weakEscaped
deriving DecidableEq, Repr

/-- Takes one more character of a line in; none where a comment starts. -/
def Quotation.step (q : Quotation) (c : Char) : Option Quotation :=
  let opening : Quotation :=
    if c = '\\' then .escaped else if c = '"' then .weak else if c = '\'' then .strong else .complete
  match q with
  | .blank => if c = '#' then none else some opening
  | .escaped => some .complete
  | .complete => some (if Text.isBlank c && c ≠ '\n' && c ≠ '\r' then .blank else opening)
  | .weak => some (if c = '\\' then .weakEscaped else if c = '"' then .complete else .weak)
  | .weakEscaped => some .weak
  | .strong => some (if c = '\\' then .strongEscaped else if c = '\'' then .complete else .strong)
  | .strongEscaped => some .strong

/-- The quotation after a line, or the part of the line in front of a comment. -/
def afterLine (q : Quotation) : List Char → Sum Quotation (List Char)
  | [] => .inl q
  | c :: cs =>
    match q.step c with
    | none => .inr []
    | some q' => (afterLine q' cs).map id (c :: ·)

/-- The lines of a file, each with its line feed. -/
def physicalLines : List UInt8 → List (List UInt8)
  | [] => []
  | b :: bs =>
    if b = 0x0A then [b] :: physicalLines bs
    else
      match physicalLines bs with
      | [] => [[b]]
      | l :: ls => (b :: l) :: ls

/-- The lines up to the first that is no text. -/
def textLines : List (List UInt8) → List (List Char)
  | [] => []
  | l :: ls =>
    match Text.text? l with
    | some s => s.toList :: textLines ls
    | none => []

/-- A line without the line feed at its end, and without the carriage return in front of that. -/
def withoutLineEnd (cs : List Char) : List Char :=
  if cs.getLast? = some '\n' then
    let cs := cs.dropLast
    if cs.getLast? = some '\r' then cs.dropLast else cs
  else cs

/-- Joins lines into entries while a quotation or a backslash keeps one open; an entry that is open at the end of
the text is dropped. -/
def logicalLines (held : List Char) (q : Quotation) : List (List Char) → List (List Char)
  | [] => []
  | l :: ls =>
    let text := held ++ l
    if (Text.trimStart text).head? = some '#' then
      [] :: logicalLines [] .complete ls
    else
      match afterLine q l with
      | .inr before => (held ++ before) :: logicalLines [] .complete ls
      | .inl .complete => withoutLineEnd text :: logicalLines [] .complete ls
      | .inl q' => logicalLines text q' ls

/-- Where a substitution stands: outside of one, in a name behind a dollar sign, or in braces. -/
inductive Substitution where
  | outside
  | name (cs : List Char)
  | braced (cs : List Char)
deriving DecidableEq, Repr

/-- The state of reading a value. -/
structure ValueState where
  output : List Char
  strong : Bool
  weak : Bool
  escaped : Bool
  /-- A blank has ended the value. -/
  ended : Bool
  substitution : Substitution
deriving Repr

/-- The character an escape stands for. -/
def unescaped? (c : Char) : Option Char :=
  if "\\'\"$ ".toList.contains c then some c else if c = 'n' then some '\n' else none

/-- Takes one more character of a value in; none if it cannot stand there. -/
def ValueState.step (value : String → String) (s : ValueState) (c : Char) : Option ValueState :=
  let put (c : Char) : ValueState := { s with output := s.output ++ [c] }
  let substitute (name : List Char) : List Char := s.output ++ (value (String.ofList name)).toList
  if s.ended then if c = ' ' || c = '\t' then some s else none
  else if s.escaped then
    (unescaped? c).map fun x => { put x with escaped := false }
  else if s.strong then some (if c = '\'' then { s with strong := false } else put c)
  else
    match s.substitution with
    | .name cs =>
      if Text.isAlphanumeric c then some { s with substitution := .name (cs ++ [c]) }
      else if c = '\x7b' && cs.isEmpty then some { s with substitution := .braced [] }
      else if c = '$' then some { s with output := substitute cs, substitution := .name [] }
      else some { s with output := substitute cs ++ [c], substitution := .outside }
    | .braced cs =>
      if c = '\x7d' then some { s with output := substitute cs, substitution := .outside }
      else some { s with substitution := .braced (cs ++ [c]) }
    | .outside =>
      if c = '$' then some { s with substitution := .name [] }
      else if s.weak then
        some (if c = '"' then { s with weak := false } else if c = '\\' then { s with escaped := true } else put c)
      else if c = '\'' then some { s with strong := true }
      else if c = '"' then some { s with weak := true }
      else if c = '\\' then some { s with escaped := true }
      else if c = ' ' || c = '\t' then some { s with ended := true }
      else some (put c)

/-- Reads a value up to its end or to a comment behind a blank. -/
def readValue? (value : String → String) (s : ValueState) : List Char → Option (List Char)
  | [] => finish s
  | c :: cs =>
    if s.ended && c = '#' then finish s
    else
      match s.step value c with
      | some s => readValue? value s cs
      | none => none
where
  /-- The value, unless a quotation or a brace is open. -/
  finish (s : ValueState) : Option (List Char) :=
    if s.strong || s.weak then none
    else
      match s.substitution with
      | .braced _ => none
      | .name cs => some (s.output ++ (value (String.ofList cs)).toList)
      | .outside => some s.output

/-- A name and what follows it. -/
def readName? (cs : List Char) : Option (List Char × List Char) :=
  if cs.head?.any fun c => c.isAlpha || c = '_' then
    let ok (c : Char) : Bool := c.isAlphanum || c = '_' || c = '.'
    some (cs.takeWhile ok, cs.dropWhile ok)
  else none

/-- Name and text of the value of an entry; none for an empty line, a failure for a bad one. -/
def readEntry? (line : List Char) : Option (Option (String × List Char)) := do
  let cs := Text.trim line
  if cs.isEmpty || cs.head? = some '#' then return none
  let (name, r) ← readName? cs
  let r := Text.trimStart r
  let (name, r) ←
    match r with
    | '=' :: r => some (name, r)
    | _ =>
      if name = "export".toList then do
        let (name, r) ← readName? r
        let '=' :: r := Text.trimStart r | none
        some (name, r)
      else none
  return some (String.ofList name, Text.trimStart r)

/-- Adds the entries of a file: the variables set so far, the values the file itself has given, and its lines. -/
def addEntries (vs : Variables) (given : List (String × String)) : List (List Char) → Variables
  | [] => vs
  | line :: lines =>
    match readEntry? line with
    | none => vs
    | some none => addEntries vs given lines
    | some (some (name, text)) =>
      let value (n : String) : String := ((vs.get? n).or (given.lookup n)).getD ""
      let read :=
        if text.isEmpty || text.head? = some '#' then some []
        else readValue? value ⟨[], false, false, false, false, .outside⟩ text
      match read with
      | none => vs
      | some v =>
        let v := String.ofList v
        addEntries (vs.define name v) ((name, v) :: given) lines

/-- The environment with the variables of a file added. -/
def load (vs : Variables) (content : List UInt8) : Variables :=
  let bs := match content with
    | 0xEF :: 0xBB :: 0xBF :: r => r
    | bs => bs
  addEntries vs [] (logicalLines [] .complete (textLines (physicalLines bs)))

end AccessGateway.Settings.EnvFile
