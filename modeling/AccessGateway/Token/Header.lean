import AccessGateway.Json.Reader
import AccessGateway.Text.Base64
import AccessGateway.Text.Utf8
import AccessGateway.Token.Algorithm

/-!
# Token headers

A header is an object that names the signing algorithm. The other registered fields are looked at only for their
form: most are texts, some are lists of texts, and one describes a key. A field that is not registered must be a
text. No registered field may be given twice.
-/

namespace AccessGateway.TokenHeader

/-- A text or null. -/
def isOptionalText : Json → Bool
  | .text _ | .null => true
  | _ => false

/-- A list of texts, or null. -/
def areOptionalTexts : Json → Bool
  | .null => true
  | j => j.texts?.isSome

/-- The one member under a name; none if there is none or more than one. -/
def only? (name : String) (ms : List (String × Json)) : Option Json :=
  match ms.filter (·.1 == name) with
  | [(_, j)] => some j
  | _ => none

/-- The form of a description of a key: its kind, and the texts that this kind needs. -/
def describesKey (ms : List (String × Json)) : Bool :=
  let text (name : String) : Option String := (only? name ms).bind Json.text?
  let onCurve := (text "crv").any (["P-256", "P-384", "P-521", "Ed25519"].contains ·)
  match text "kty" with
  | some "EC" => onCurve && (text "x").isSome && (text "y").isSome
  | some "RSA" => (text "n").isSome && (text "e").isSome
  | some "oct" => (text "k").isSome
  | some "OKP" => onCurve && (text "x").isSome
  | _ => false

/-- A description of a key, or null. -/
def isOptionalKey : Json → Bool
  | .null => true
  | .object ms =>
    let once (name : String) : Bool := (ms.filter (·.1 == name)).length ≤ 1
    let fits (name : String) (ok : Json → Bool) : Bool := once name && (ms.filter (·.1 == name)).all fun m => ok m.2
    ["use", "alg", "kid", "x5u", "x5t", "x5t#S256"].all (fits · isOptionalText)
      && ["key_ops", "x5c"].all (fits · areOptionalTexts) && describesKey ms
  | _ => false

/-- The registered fields beside the algorithm, and the form each must have. -/
def registered : List (String × (Json → Bool)) :=
  (["typ", "cty", "jku", "kid", "x5u", "x5t", "x5t#S256", "url", "nonce", "enc", "zip"].map (·, isOptionalText))
    ++ [("crit", areOptionalTexts), ("x5c", areOptionalTexts), ("jwk", isOptionalKey)]

/-- The algorithm of its field: a name, or a name with null under it. -/
def algorithmOf? : Json → Option Algorithm
  | .text s => Algorithm.ofName? s
  | .object [(s, .null)] => Algorithm.ofName? s
  | _ => none

/-- A field beside the algorithm has the form it must have. -/
def isField (m : String × Json) : Bool :=
  match registered.lookup m.1 with
  | some ok => ok m.2
  | none => m.1 == "alg" || m.2.text?.isSome

/-- The algorithm that a header names. -/
def algorithm? : Json → Option Algorithm
  | .object ms => do
    let a ← (only? "alg" ms).bind algorithmOf?
    let once := registered.all fun (name, _) => (ms.filter (·.1 == name)).length ≤ 1
    if once && ms.all isField then some a else none
  | _ => none

/-- Reads the header part of a token. -/
def read (encoded : List Char) : Except TokenError Algorithm :=
  match Text.Base64.decode? .url encoded with
  | none => .error (.invalid "malformed token: Base64 error")
  | some bytes =>
    match ((Text.text? bytes).bind Json.read?).bind algorithm? with
    | none => .error (.invalid "malformed token: JSON error")
    | some a => .ok a

end AccessGateway.TokenHeader
