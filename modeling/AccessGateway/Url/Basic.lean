import AccessGateway.Url.Host

/-!
# Addresses

Reading and writing of absolute web addresses. Reading is lenient as browsers are: blanks around the text and tabs
and line feeds within it are dropped, backslashes count as slashes in the web schemes, dot segments are resolved,
and what may not stand for itself is escaped. Writing gives the normalised form.
-/

namespace AccessGateway

/-- The path of an address: segments behind slashes, or an opaque text. -/
inductive UrlPath where
  | segments (ss : List (List Char))
  | opaqueText (text : List Char)
deriving DecidableEq, Repr

/-- An absolute address. -/
structure Url where
  scheme : List Char
  user : List Char
  password : List Char
  host : Option Url.Host
  portNumber : Option Nat
  path : UrlPath
  query : Option (List Char)
  fragment : Option (List Char)
deriving DecidableEq, Repr

namespace Url

/-- The port a web scheme implies. -/
def defaultPort (scheme : List Char) : Option Nat :=
  match String.ofList scheme with
  | "http" | "ws" => some 80
  | "https" | "wss" => some 443
  | "ftp" => some 21
  | _ => none

/-- The scheme is one of those with slashes and a host. -/
def isSpecial (scheme : List Char) : Bool := (defaultPort scheme).isSome || scheme == "file".toList

/-- A segment that stands for its own directory. -/
def isDot (s : List Char) : Bool :=
  let s := String.ofList (s.map Char.toLower)
  s == "." || s == "%2e"

/-- A segment that stands for the directory above. -/
def isDoubleDot (s : List Char) : Bool :=
  let s := String.ofList (s.map Char.toLower)
  s == ".." || s == ".%2e" || s == "%2e." || s == "%2e%2e"

/-- The segments of a path with dot segments resolved; a dot segment at the end leaves an empty one. -/
def resolve (done : List (List Char)) : List (List Char) → List (List Char)
  | [] => done
  | s :: rest =>
    let last := rest.isEmpty
    if isDoubleDot s then resolve (done.dropLast ++ if last then [[]] else []) rest
    else if isDot s then resolve (done ++ if last then [[]] else []) rest
    else resolve (done ++ [s]) rest

/-- The text before the first character of a class, and the rest from there. -/
def cut (stop : Char → Bool) (cs : List Char) : List Char × List Char :=
  (cs.takeWhile (!stop ·), cs.dropWhile (!stop ·))

/-- A hierarchical path that starts at a slash or is empty. -/
def readPath (special : Bool) (cs : List Char) : List (List Char) :=
  let isSlash (c : Char) := c == '/' || (special && c == '\\')
  let segments := (cs.splitOnP isSlash).map (escape inPathSet)
  match segments with
  | [] => []
  | s :: rest => if s.isEmpty then resolve [] rest else resolve [] (s :: rest)

/-- Query and fragment behind the path. -/
def readTail (special : Bool) (cs : List Char) : Option (List Char) × Option (List Char) :=
  let (beforeHash, hash) := cut (· == '#') cs
  let query := match beforeHash with
    | '?' :: q => some (escape (inQuerySet special) q)
    | _ => none
  let fragment := match hash with
    | '#' :: f => some (escape inFragmentSet f)
    | _ => none
  (query, fragment)

/-- The port after a host: none at all, or a colon and digits up to 65535; the port the scheme implies is
dropped. -/
def readPortNumber? (scheme cs : List Char) : Option (Option Nat) :=
  match cs with
  | [] | [':'] => some none
  | ':' :: ds => do
    let n ← Text.natural? ds
    if 65535 < n then none else some (if defaultPort scheme = some n then none else some n)
  | _ => none

/-- Host and the text after it, where a colon in brackets is part of the host. -/
def splitHost (cs : List Char) : List Char × List Char :=
  match cs with
  | '[' :: _ =>
    let (a, b) := cut (· == ']') cs
    let (c, d) := cut (· == ':') b
    (a ++ c, d)
  | _ => cut (· == ':') cs

/-- User name and password before the last at sign of an authority, and host and port after it. -/
def splitUser (cs : List Char) : (List Char × List Char) × List Char :=
  match Text.splitLast? '@' cs with
  | none => (([], []), cs)
  | some (u, h) =>
    match Text.splitFirst? ':' u with
    | none => ((escape inUserSet u, []), h)
    | some (a, b) => ((escape inUserSet a, escape inUserSet b), h)

/-- An address from what follows the two slashes. -/
def readAuthority? (scheme cs : List Char) : Option Url := do
  let special := isSpecial scheme
  let (authority, rest) := cut (fun c => c == '/' || c == '?' || c == '#' || (special && c == '\\')) cs
  let isFile := scheme == "file".toList
  let ((user, password), hostPort) := if isFile then (([], []), authority) else splitUser authority
  let (hostText, portText) := if isFile then (hostPort, []) else splitHost hostPort
  let host ←
    if special then
      if hostText.isEmpty then if isFile then some (.domain []) else none
      else Host.ofSpecial? hostText
    else if hostText.isEmpty && (!portText.isEmpty || !user.isEmpty || !password.isEmpty) then none
    else if authority == ['@'] && !rest.isEmpty then none
    else Host.ofOther? hostText
  let portNumber ← readPortNumber? scheme portText
  let host := if isFile && host == .domain "localhost".toList then .domain [] else host
  let (path, tail) := cut (fun c => c == '?' || c == '#') rest
  let segments := readPath special path
  let segments := if special && segments.isEmpty then [[]] else segments
  let (query, fragment) := readTail special tail
  return ⟨scheme, user, password, some host, portNumber, .segments segments, query, fragment⟩

/-- An address of another scheme without a host. -/
def readHostless (scheme cs : List Char) : Url :=
  let (path, tail) := cut (fun c => c == '?' || c == '#') cs
  let (query, fragment) := readTail false tail
  let path := match path with
    | '/' :: _ => UrlPath.segments (readPath false path)
    | _ => .opaqueText (escape isControlOrHigh path)
  ⟨scheme, [], [], none, none, path, query, fragment⟩

/-- The text without control characters and spaces at its ends, and without tabs and line ends. -/
def cleaned (cs : List Char) : List Char :=
  let edge (c : Char) : Bool := c.toNat ≤ 32
  let inner := ((cs.dropWhile edge).reverse.dropWhile edge).reverse
  inner.filter fun c => c != '\t' && c != '\n' && c != '\r'

/-- Reads an absolute address. -/
def read? (s : String) : Option Url := do
  let (scheme, rest) ← Text.splitFirst? ':' (cleaned s.toList)
  let isSchemeChar (c : Char) : Bool := c.isAlphanum || c == '+' || c == '-' || c == '.'
  if !(scheme.head?.any Char.isAlpha) || !scheme.all isSchemeChar then none
  else
    let scheme := scheme.map Char.toLower
    let isSlash (c : Char) : Bool := c == '/' || c == '\\'
    if scheme == "file".toList then
      match (rest.takeWhile isSlash).length with
      | 0 => readAuthority? scheme ('/' :: rest)
      | 1 => readAuthority? scheme rest
      | _ => readAuthority? scheme (rest.drop 2)
    else if isSpecial scheme then readAuthority? scheme (rest.dropWhile isSlash)
    else
      match rest with
      | '/' :: '/' :: r => readAuthority? scheme r
      | _ => some (readHostless scheme rest)

/-- The part of an address from its path on; an empty first segment without a host stands behind a point, so that it
is not read as a host. -/
def writeTail (u : Url) : List Char :=
  let path := match u.path, u.host with
    | .segments ([] :: s :: ss), none => "/.".toList ++ ([] :: s :: ss).flatMap ('/' :: ·)
    | .segments ss, _ => ss.flatMap ('/' :: ·)
    | .opaqueText t, _ => t
  let query := match u.query with
    | some q => '?' :: q
    | none => []
  let fragment := match u.fragment with
    | some f => '#' :: f
    | none => []
  path ++ query ++ fragment

/-- The normalised text of an address. -/
def write (u : Url) : String :=
  let authority := match u.host with
    | none => []
    | some h =>
      let password := if u.password.isEmpty then [] else ':' :: u.password
      let user := if u.user.isEmpty && u.password.isEmpty then [] else u.user ++ password ++ ['@']
      let portText := match u.portNumber with
        | some n => ':' :: Text.digits n
        | none => []
      '/' :: '/' :: user ++ h.write ++ portText
  String.ofList (u.scheme ++ ':' :: authority ++ u.writeTail)

/-- The address with a field added to its query. -/
def addField (u : Url) (name value : String) : Url :=
  let field := formEncode name ++ '=' :: formEncode value
  { u with query := some (match u.query with
      | some (c :: q) => c :: q ++ '&' :: field
      | _ => field) }

/-- The scheme is one a web client speaks. -/
def isWeb (u : Url) : Bool := u.scheme == "http".toList || u.scheme == "https".toList

end Url

end AccessGateway
