import AccessGateway.Settings.Basic
import AccessGateway.Time.Duration

/-!
# Typed settings

A decoder turns a tree of settings into a typed value or says which setting is to blame. A record starts from its
defaults and takes its fields from a group by name, in the order of the names, or from a list by position; entries
of other names and surplus items are ignored. The first complaint wins.

Who is to blame: a value of the wrong kind is blamed itself; a text that is no duration is blamed on the group or
list it stands in, as far as the question goes where it was given.
-/

namespace AccessGateway.Settings

/-- A complaint about a setting: the path to it, and where it was given once that is known. -/
structure Blame where
  path : List String
  origin : Option Origin
deriving DecidableEq, Repr

namespace Blame

/-- The complaint as seen from the group or list that holds the setting. -/
def under (name : String) (b : Blame) : Blame := { b with path := name :: b.path }

/-- The complaint with an origin, unless it has one. -/
def givenIn (o : Origin) (b : Blame) : Blame := { b with origin := b.origin.or (some o) }

/-- The blamed key, with points between its parts; in capitals if it was given in the environment. -/
def key? (b : Blame) : Option String :=
  let k := ".".intercalate b.path
  if b.path.isEmpty then none else some (if b.origin = some .environment then k.toUpper else k)

end Blame

/-- A reader of typed values. -/
abbrev Decoder (α : Type) := Setting → Except Blame α

namespace Decoder

variable {α β : Type}

/-- The complaint that a setting is of the wrong kind. -/
def wrongKind (s : Setting) : Except Blame α := .error ⟨[], some s.origin⟩

/-- A text; a single character is one too. -/
def text : Decoder String
  | .scalar _ (.text s) => .ok s
  | .scalar _ (.character c) => .ok (String.singleton c)
  | s => wrongKind s

/-- A truth value. -/
def bool : Decoder Bool
  | .scalar _ (.bool b) => .ok b
  | s => wrongKind s

/-- A natural number up to a limit. -/
def natural (top : Nat) : Decoder Nat
  | s@(.scalar _ (.integer i)) => if 0 ≤ i ∧ i.toNat ≤ top then .ok i.toNat else wrongKind s
  | s => wrongKind s

/-- A number of 16 bits. -/
def word16 : Decoder Nat := natural (UInt16.size - 1)

/-- A number of 32 bits. -/
def word32 : Decoder Nat := natural (UInt32.size - 1)

/-- A number of 64 bits. -/
def word64 : Decoder Nat := natural (UInt64.size - 1)

/-- A value that may be null. -/
def optional (decode : Decoder α) : Decoder (Option α)
  | .scalar _ .null => .ok none
  | s => (decode s).map some

def duration : Decoder Duration := fun s => do
  match Duration.read? (← text s) with
  | some d => return d
  | none => .error ⟨[], none⟩

/-- Items from an index on, each blamed by its index. -/
def itemsFrom (decode : Decoder α) (index : Nat) : List Setting → Except Blame (List α)
  | [] => .ok []
  | x :: xs => do
    let a ← (decode x).mapError (Blame.under (toString index))
    return a :: (← itemsFrom decode (index + 1) xs)

def list (decode : Decoder α) : Decoder (List α)
  | .list o items => (itemsFrom decode 0 items).mapError (Blame.givenIn o)
  | s => wrongKind s

/-- A group whose entries may have any name. -/
def map (decode : Decoder α) : Decoder (List (String × α))
  | .group o entries =>
    (entries.mapM fun (k, v) => ((decode v).map (k, ·)).mapError (Blame.under k)).mapError (Blame.givenIn o)
  | s => wrongKind s

/-- One of several names, as a text or as the first name of a group, with null under it. -/
def choice (ofName? : String → Option α) : Decoder α
  | s@(.scalar _ (.text t)) => (ofName? t).elim (wrongKind s) .ok
  | s@(.group _ ((k, v) :: _)) =>
    match ofName? k, v with
    | none, _ => wrongKind s
    | some a, .scalar _ .null => .ok a
    | some _, v => .error ⟨[k], some v.origin⟩
  | s => wrongKind s

/-- A field of a record: its name, and how it is put into the record. -/
structure RecordField (α : Type) where
  name : String
  put : Setting → α → Except Blame α

/-- A field from a decoder and a setter. -/
def field (name : String) (decode : Decoder β) (set : β → α → α) : RecordField α :=
  ⟨name, fun s a => (decode s).map (set · a)⟩

/-- Puts the entries of a group into a record, one after the other. -/
def putEntries (fields : List (RecordField α)) (a : α) : List (String × Setting) → Except Blame α
  | [] => .ok a
  | (k, v) :: es =>
    match fields.find? (·.name = k) with
    | some f => do putEntries fields (← (f.put v a).mapError (Blame.under k)) es
    | none => putEntries fields a es

/-- Puts the items of a list into a record, in the order of its fields. -/
def putItems (a : α) (index : Nat) : List (RecordField α) → List Setting → Except Blame α
  | f :: fs, v :: vs => do putItems (← (f.put v a).mapError (Blame.under (toString index))) (index + 1) fs vs
  | _, _ => .ok a

/-- A record over its defaults. -/
def record (fields : List (RecordField α)) (defaults : α) : Decoder α
  | .group o entries => (putEntries fields defaults entries).mapError (Blame.givenIn o)
  | .list o items => (putItems defaults 0 fields items).mapError (Blame.givenIn o)
  | s => wrongKind s

end Decoder

end AccessGateway.Settings
