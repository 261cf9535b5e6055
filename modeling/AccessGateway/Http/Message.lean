import AccessGateway.Http.Header
import AccessGateway.Http.RequestTarget
import AccessGateway.Json.Writer

/-!
# Requests and responses

What the web path of the gateway takes and gives. A response carries its whole body, or the chunks of a body that is
passed through as it comes.
-/

namespace AccessGateway

structure WebRequest where
  method : String
  target : RequestTarget
  headers : Headers
  body : List UInt8
  /-- The address it came from; empty if unknown. -/
  source : String
deriving DecidableEq, Repr

/-- A part of a body that comes bit by bit, or the point where it breaks off. -/
inductive BodyChunk where
  | data (bytes : List UInt8)
  | broken
deriving DecidableEq, Repr

inductive ResponseBody where
  | whole (bytes : List UInt8)
  | passed (chunks : List BodyChunk)
deriving DecidableEq, Repr

structure WebResponse where
  status : Nat
  headers : Headers
  body : ResponseBody
deriving DecidableEq, Repr

namespace BodyChunk

def bytes : BodyChunk → List UInt8
  | data bs => bs
  | broken => []

end BodyChunk

namespace WebResponse

/-- A response without a body. -/
def empty (status : Nat) (headers : Headers) : WebResponse := ⟨status, headers, .whole []⟩

def text (status : Nat) (contentType body : String) : WebResponse :=
  ⟨status, [.ofText "content-type" contentType], .whole (Text.bytes body)⟩

/-- A response with a JSON value. -/
def json (status : Nat) (j : Json) : WebResponse := text status "application/json" j.render

/-- A response that names an error. -/
def error (status : Nat) (message : String) : WebResponse := json status (.object [("error", .text message)])

/-- A response with a field more. -/
def withHeader (r : WebResponse) (field : HeaderField) : WebResponse := { r with headers := r.headers ++ [field] }

/-- A response that states the length of its body if it is known as a whole, and leaves the body out if the request
was for the head alone. -/
def sized (headOnly : Bool) (r : WebResponse) : WebResponse :=
  match r.body with
  | .whole bytes =>
    let r := if (r.headers.first? "content-length").isSome then r
      else r.withHeader (.ofText "content-length" s!"{bytes.length}")
    if headOnly then { r with body := .whole [] } else r
  | .passed _ => if headOnly then { r with body := .passed [] } else r

end WebResponse

end AccessGateway
