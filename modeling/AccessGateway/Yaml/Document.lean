import AccessGateway.Yaml.Scalar

/-!
# YAML documents

A document is a tree of texts, lists and mappings with text keys. Block collections are laid out by columns, flow
collections by brackets; anchors name a node and aliases repeat it. A text with more than one document is refused.
The readers of nested nodes spend one unit of fuel per step, and a document gets more than it can use.
-/

namespace AccessGateway.Yaml

/-- A node. The tag is written out; a text knows whether it stands plain. -/
inductive Node where
  | text (tag : Option String) (plain : Bool) (value : String)
  | list (tag : Option String) (items : List Node)
  | mapping (tag : Option String) (entries : List (String × Node))
deriving Repr, Inhabited

/-- The node of a missing value. -/
def Node.missing : Node := .text none true ""

/-- Tag and anchor in front of a node. -/
structure Properties where
  tag : Option String
  anchor : Option String
deriving Repr

def Node.withTag (tag : Option String) : Node → Node
  | .text none plain v => .text tag plain v
  | .list none items => .list tag items
  | .mapping none entries => .mapping tag entries
  | n => n

/-- The nodes named so far, the latest first. -/
abbrev Anchors := List (String × Node)

/-- A reading step: a position and the anchors known there. -/
abbrev Step (α : Type) := StateT (Cursor × Anchors) Option α

namespace Step

def cursor : Step Cursor := do return (← get).1

/-- Moves to a position. -/
def moveTo (c : Cursor) : Step Unit := modify fun s => (c, s.2)

/-- Moves to the next token. -/
def toToken (flow : Bool) : Step Cursor := do
  let c := (← cursor).toToken flow
  moveTo c
  return c

/-- Moves past a dash or a question mark; a tab may not follow before the node does. -/
def passIndicator : Step Unit := do
  let c := (← cursor).next
  if (c.rest.dropWhile (· = ' ')).head? = some '\t' then failure
  moveTo c

/-- Runs a scanner at the position. -/
def scan (f : Cursor → Option (List Char × Cursor)) : Step (List Char) := do
  match f (← cursor) with
  | some (cs, c) => moveTo c; return cs
  | none => failure

/-- Names a node. -/
def define (anchor : Option String) (n : Node) : Step Node := do
  match anchor with
  | some a => modify fun s => (s.1, (a, n) :: s.2)
  | none => pure ()
  return n

end Step

/-- The characters of an anchor or alias name. -/
def isNameChar (c : Char) : Bool := c.isAlphanum || c == '_' || c == '-'

/-- A name behind an ampersand or an asterisk. -/
def readName : Step String := do
  let c ← Step.cursor
  let name := c.rest.takeWhile isNameChar
  let after := c.skip name.length
  let ends := after.blankAt 0 || after.rest.head?.any fun x => "?:,]\x7d%@".toList.contains x || x.toNat == 0x60
  if name.isEmpty || !ends then failure
  Step.moveTo after
  return String.ofList name

/-- A tag from behind its exclamation mark. -/
def readTag (flow : Bool) : Step String := do
  let c ← Step.cursor
  let isEnd (x : Char) : Bool := Cursor.isBlankOrEnd (some x) || (flow && isFlowIndicator x)
  match c.rest with
  | '<' :: r =>
    let inner := r.takeWhile fun x => x ≠ '>' && !Cursor.isBlankOrEnd (some x)
    if r[inner.length]? != some '>' then failure
    Step.moveTo (c.skip (inner.length + 2))
    return String.ofList inner
  | '!' :: r =>
    let name := r.takeWhile (!isEnd ·)
    if name.isEmpty then failure
    Step.moveTo (c.skip (name.length + 1))
    return "tag:yaml.org,2002:" ++ String.ofList name
  | r =>
    let name := r.takeWhile (!isEnd ·)
    Step.moveTo (c.skip name.length)
    return String.ofList ('!' :: name)

/-- A tag and an anchor, in either order, within a number of steps. -/
def readProperties (flow : Bool) : Nat → Properties → Step Properties
  | 0, p => return p
  | n + 1, p => do
    let c ← Step.cursor
    match c.peek? with
    | some '&' =>
      if p.anchor.isSome then failure
      Step.moveTo c.next
      let a ← readName
      Step.moveTo (← Step.cursor).skipBlanks
      readProperties flow n { p with anchor := some a }
    | some '!' =>
      if p.tag.isSome then failure
      Step.moveTo c.next
      let t ← readTag flow
      let c ← Step.cursor
      if !(c.blankAt 0 || (flow && c.peek? == some ',')) then failure
      Step.moveTo c.skipBlanks
      readProperties flow n { p with tag := some t }
    | _ => return p

/-- The text of a node that can be a key. -/
def keyText? : Node → Option String
  | .text _ _ v => some v
  | _ => none

/-- The node an alias stands for. -/
def resolveAlias (name : String) : Step Node := do
  match (← get).2.lookup name with
  | some n => return n
  | none => failure

mutual
/-- A node of a flow collection. -/
def flowNode : Nat → Step Node
  | 0 => failure
  | fuel + 1 => do
    let _ ← Step.toToken true
    let p ← readProperties true 2 ⟨none, none⟩
    let c ← Step.toToken true
    match c.peek? with
    | some '[' =>
      Step.moveTo c.next
      let items ← flowItems fuel
      Step.define p.anchor (.list p.tag items)
    | some '\x7b' =>
      Step.moveTo c.next
      let entries ← flowEntries fuel
      Step.define p.anchor (.mapping p.tag entries)
    | some '"' =>
      Step.moveTo c.next
      let cs ← Step.scan doubleQuoted?
      Step.define p.anchor (.text p.tag false (String.ofList cs))
    | some '\'' =>
      Step.moveTo c.next
      let cs ← Step.scan singleQuoted?
      Step.define p.anchor (.text p.tag false (String.ofList cs))
    | some '*' =>
      if p.tag.isSome || p.anchor.isSome then failure
      Step.moveTo c.next
      resolveAlias (← readName)
    | _ =>
      if startsPlain true c && !c.atBoundary then
        let cs ← Step.scan (plain? true 0)
        Step.define p.anchor (.text p.tag true (String.ofList cs))
      else if (p.tag.isSome || p.anchor.isSome) && c.peek?.any (fun x => x = ',' || x = ']' || x = '\x7d') then
        Step.define p.anchor (.text p.tag true "")
      else failure

/-- The items of a flow list up to its bracket; an item with a colon is a mapping of one entry. -/
def flowItems : Nat → Step (List Node)
  | 0 => failure
  | fuel + 1 => do
    let c ← Step.toToken true
    if c.peek? == some ']' then
      Step.moveTo c.next
      return []
    let n ← flowNode fuel
    let c ← Step.toToken true
    let n ←
      if c.peek? == some ':' then do
        Step.moveTo c.next
        let some k := keyText? n | failure
        let v ← flowValue fuel
        pure (Node.mapping none [(k, v)])
      else pure n
    let c ← Step.toToken true
    match c.peek? with
    | some ',' =>
      Step.moveTo c.next
      return n :: (← flowItems fuel)
    | some ']' =>
      Step.moveTo c.next
      return [n]
    | _ => failure

/-- The value behind a colon of a flow collection, which may be missing. -/
def flowValue : Nat → Step Node
  | 0 => failure
  | fuel + 1 => do
    let c ← Step.toToken true
    if c.peek?.any fun x => x = ',' || x = ']' || x = '\x7d' then return .missing
    flowNode fuel

/-- The entries of a flow mapping up to its brace; an entry without a colon has no value. -/
def flowEntries : Nat → Step (List (String × Node))
  | 0 => failure
  | fuel + 1 => do
    let c ← Step.toToken true
    if c.peek? == some '\x7d' then
      Step.moveTo c.next
      return []
    if c.peek? == some '?' && c.blankAt 1 then Step.moveTo c.next
    let k ← if c.peek? == some ':' then pure Node.missing else flowNode fuel
    let some k := keyText? k | failure
    let c ← Step.toToken true
    let v ←
      if c.peek? == some ':' then do
        Step.moveTo c.next
        flowValue fuel
      else pure Node.missing
    let c ← Step.toToken true
    match c.peek? with
    | some ',' =>
      Step.moveTo c.next
      return (k, v) :: (← flowEntries fuel)
    | some '\x7d' =>
      Step.moveTo c.next
      return [(k, v)]
    | _ => failure
end

/-- A single-line text that may be a key, with the position after it. -/
def keyCandidate? (c : Cursor) : Option (List Char × Cursor) :=
  match c.peek? with
  | some '"' => (doubleQuoted? c.next).filter fun r => !r.1.contains '\n' && sameLine c r.2
  | some '\'' => (singleQuoted? c.next).filter fun r => !r.1.contains '\n' && sameLine c r.2
  | _ =>
    if startsPlain false c then
      let line := c.rest.takeWhile (· ≠ '\n')
      (plain? false 0 { c with rest := line }).map fun r =>
        (r.1, c.skip (line.length - r.2.rest.length))
    else none
where
  /-- No line ends between two positions. -/
  sameLine (a b : Cursor) : Bool :=
    !(a.rest.take (a.rest.length - b.rest.length)).contains '\n'

/-- The key of an entry of a block mapping, up to and with its colon, if one stands here. -/
def blockKey? : Step (Option String) := do
  let saved ← get
  let attempt : Step String := do
    let _ ← readProperties false 2 ⟨none, none⟩
    let c ← Step.cursor
    let key ←
      if c.peek? == some '*' then do
        Step.moveTo c.next
        let some k := keyText? (← resolveAlias (← readName)) | failure
        pure k
      else do
        let cs ← Step.scan keyCandidate?
        pure (String.ofList cs)
    let c := (← Step.cursor).skipBlanks
    if !c.atColon then failure
    Step.moveTo c.next
    return key
  match attempt.run saved with
  | some (k, s) => set s; return some k
  | none => return none

mutual
/-- A node inside a collection at column `parent`. A block collection may start where the line is fresh or `inner`
is set; a list may stand at the very column of the mapping that holds it if `aligned` is set. -/
def blockNode : Nat → Int → Bool → Bool → Step Node
  | 0, _, _, _ => failure
  | fuel + 1, parent, inner, aligned => do
    let c ← Step.toToken false
    if c.atEnd || c.atBoundary then return .missing
    if c.fresh && (c.column : Int) ≤ parent && !(aligned && (c.column : Int) = parent && c.atDash) then
      return .missing
    let open' := c.fresh || inner
    if open' && c.atDash then .list none <$> blockItems fuel c.column
    else if open' && c.peek? == some '?' && c.blankAt 1 then .mapping none <$> blockEntries fuel c.column none
    else
      let key ← if open' then blockKey? else pure none
      match key with
      | some k => .mapping none <$> blockEntries fuel c.column (some k)
      | none =>
        if c.peek? == some '&' || c.peek? == some '!' then
          let p ← readProperties false 2 ⟨none, none⟩
          let n ← blockNode fuel parent false aligned
          Step.define p.anchor (n.withTag p.tag)
        else blockLeaf fuel parent

/-- A text, an alias or a flow collection inside a block. -/
def blockLeaf : Nat → Int → Step Node
  | 0, _ => failure
  | fuel + 1, parent => do
    let c ← Step.cursor
    match c.peek? with
    | some '[' | some '\x7b' => flowNode fuel
    | some '"' | some '\'' => flowNode fuel
    | some '*' =>
      Step.moveTo c.next
      resolveAlias (← readName)
    | some '|' =>
      Step.moveTo c.next
      let cs ← Step.scan (blockText? false parent)
      return .text none false (String.ofList cs)
    | some '>' =>
      Step.moveTo c.next
      let cs ← Step.scan (blockText? true parent)
      return .text none false (String.ofList cs)
    | _ =>
      if !startsPlain false c then failure
      let cs ← Step.scan (plain? false (parent + 1).toNat)
      return .text none true (String.ofList cs)

/-- The items of a block list whose dashes stand at a column. -/
def blockItems : Nat → Nat → Step (List Node)
  | 0, _ => failure
  | fuel + 1, column => do
    Step.passIndicator
    let n ← blockNode fuel column true false
    let c ← Step.toToken false
    if c.atEnd || c.atBoundary || (c.fresh && c.column < column) then return [n]
    if !c.fresh || column < c.column then failure
    if c.atDash then return n :: (← blockItems fuel column) else return [n]

/-- The entries of a block mapping whose keys stand at a column; the first key may have been read. -/
def blockEntries : Nat → Nat → Option String → Step (List (String × Node))
  | 0, _, _ => failure
  | fuel + 1, column, key => do
    let key ←
      match key with
      | some k => pure k
      | none => blockExplicitKey fuel column
    let v ← blockNode fuel column false true
    let c ← Step.toToken false
    if c.atEnd || c.atBoundary || (c.fresh && c.column < column) then return [(key, v)]
    if !c.fresh || column < c.column then failure
    if c.peek? == some '?' && c.blankAt 1 then return (key, v) :: (← blockEntries fuel column none)
    match ← blockKey? with
    | some k => return (key, v) :: (← blockEntries fuel column (some k))
    | none => failure

/-- A key behind a question mark, up to and with the colon on a line of its own. -/
def blockExplicitKey : Nat → Nat → Step String
  | 0, _ => failure
  | fuel + 1, column => do
    Step.passIndicator
    let some k := keyText? (← blockNode fuel column true false) | failure
    let c ← Step.toToken false
    if !(c.column == column && c.atColon) then failure
    Step.moveTo c.next
    return k
end

/-- Skips directives in front of a document. -/
def skipDirectives : Nat → Cursor → Cursor
  | 0, c => c
  | n + 1, c =>
    let c := c.toToken false
    if c.column == 0 && c.peek? == some '%' then
      skipDirectives n (c.skip (c.rest.takeWhile (· ≠ '\n')).length)
    else c

def skipEnds : Nat → Cursor → Cursor
  | 0, c => c
  | n + 1, c =>
    let c := c.toToken false
    if c.atMarker '.' then skipEnds n (c.skip 3) else c

/-- Characters that may stand in a YAML text. -/
def isPrintable (c : Char) : Bool :=
  let n := c.toNat
  n == 9 || n == 10 || n == 13 || (0x20 ≤ n && n ≤ 0x7E) || n == 0x85 || (0xA0 ≤ n && n ≤ 0xFFFD && n ≠ 0xFEFF) ||
    0x10000 ≤ n

/-- The document a text holds; a text without one holds a missing value. -/
def read? (s : String) : Option Node := do
  let start := Cursor.start s.toList
  if !start.rest.all isPrintable then none
  let c := skipDirectives start.rest.length start
  if c.column == 0 && c.peek? == some '%' then none
  let hasDirectives := start.toToken false != c
  let c ←
    if c.atMarker '-' then some { c.skip 3 with fresh := false }
    else if hasDirectives || c.atMarker '.' then none
    else some c
  let (n, c, _) ← (blockNode (4 * s.length + 16) (-1) false false).run (c, [])
  if (skipEnds s.length c).atEnd then some n else none

end AccessGateway.Yaml
