/-!
# Settings

The settings of a program form a tree of named entries and lists. Every node remembers whether it came from the
configuration file or from the environment, so that a complaint can name the key as it was written there. Layers
are merged entry by entry; anything that is not a group of entries is replaced as a whole.
-/

namespace AccessGateway

/-- Where a setting was given. -/
inductive Origin where
  | file
  | environment
deriving DecidableEq, Repr, Inhabited

/-- A value that is neither a list nor a group of entries. -/
inductive Scalar where
  | null
  | bool (b : Bool)
  | integer (i : Int)
  | fraction
  | text (s : String)
  | character (c : Char)
deriving DecidableEq, Repr, Inhabited

/-- A tree of settings; the entries of a group are sorted by name, each name once. -/
inductive Setting where
  | scalar (origin : Origin) (value : Scalar)
  | list (origin : Origin) (items : List Setting)
  | group (origin : Origin) (entries : List (String × Setting))
deriving Repr, Inhabited

namespace Setting

/-- Where a node was given. -/
def origin : Setting → Origin
  | .scalar o _ | .list o _ | .group o _ => o

/-- Puts an entry in its place, in front of an entry of its own name. -/
def insertEntry (k : String) (v : Setting) : List (String × Setting) → List (String × Setting)
  | [] => [(k, v)]
  | (k', v') :: es =>
    if k < k' then (k, v) :: (k', v') :: es
    else if k = k' then (k, v) :: es
    else (k', v') :: insertEntry k v es

/-- Entries sorted by name, of which the last under each name counts. -/
def sortEntries (es : List (String × Setting)) : List (String × Setting) :=
  es.foldl (fun acc e => insertEntry e.1 e.2 acc) []

mutual
/-- Lays one tree over another. -/
def merge (base top : Setting) : Setting :=
  match top with
  | .group o entries =>
    match base with
    | .group _ es => .group o (mergeEntries es entries)
    | _ => top
  | _ => top

/-- Lays entries over others, one after the other. -/
def mergeEntries (base : List (String × Setting)) : List (String × Setting) → List (String × Setting)
  | [] => base
  | (k, v) :: es =>
    let v := match base.lookup k with
      | some b => merge b v
      | none => v
    mergeEntries (insertEntry k v base) es
end

/-- A leaf under a path of names. -/
def nest (o : Origin) (leaf : Setting) : List String → Setting
  | [] => leaf
  | k :: ks => .group o [(k, nest o leaf ks)]

end Setting

end AccessGateway
