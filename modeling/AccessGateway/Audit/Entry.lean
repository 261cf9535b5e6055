import AccessGateway.Identity.User
import AccessGateway.Json.Writer
import AccessGateway.Mirror.Packet
import AccessGateway.Text.Utf8
import AccessGateway.Time.Calendar

/-!
# Access entries

What the audit log keeps of one unit of traffic: who wanted to reach what from where, how much went each way, and
whether it was let through. The written form of an entry is one line.
-/

namespace AccessGateway

/-- The decision on a unit of traffic. -/
inductive Verdict where
  | allowed
  | denied (reason : String)
deriving DecidableEq, Repr

/-- Bytes to the target and back. They are counted without bound, where the program has 64 bits for each: its counts
are these as long as less than 2 ^ 64 bytes go either way. -/
structure Transfer where
  up : Nat := 0
  down : Nat := 0
deriving DecidableEq, Repr, Inhabited

/-- What an entry says of an HTTP request. A status of zero means that no answer was produced. -/
structure HttpSummary where
  method : String
  path : String
  status : Nat
deriving DecidableEq, Repr

/-- An entry of the audit log. -/
structure AccessEntry where
  kind : Traffic
  userId : String
  userName : String
  source : String
  target : String
  http : Option HttpSummary
  transfer : Transfer
  verdict : Verdict
deriving DecidableEq, Repr

namespace AccessEntry

/-- An entry with the names of the user, which are empty without one. -/
private def ofUser (kind : Traffic) (user : Option User) (source target : String) (http : Option HttpSummary)
    (transfer : Transfer) (verdict : Verdict) : AccessEntry :=
  ⟨kind, (user.map User.id).getD "", (user.map User.displayName).getD "", source, target, http, transfer, verdict⟩

def request (user : Option User) (source target : String) (http : HttpSummary) (verdict : Verdict) : AccessEntry :=
  ofUser .http user source target (some http) {} verdict

def stream (user : Option User) (source target : String) (transfer : Transfer) (verdict : Verdict) : AccessEntry :=
  ofUser .tcp user source target none transfer verdict

def datagram (user : Option User) (source target : String) (transfer : Transfer) (verdict : Verdict) : AccessEntry :=
  ofUser .udp user source target none transfer verdict

/-- The traffic was let through. -/
def isAllowed (e : AccessEntry) : Bool := e.verdict = .allowed

/-- The fields of an entry that do not depend on the moment; what is missing is left out. -/
def fields (e : AccessEntry) : List (String × Json) :=
  [("kind", .text e.kind.name), ("user_id", .text e.userId), ("user_name", .text e.userName),
    ("source_addr", .text e.source), ("target", .text e.target)] ++
  (match e.http with
    | some h => [("method", .text h.method), ("path", .text h.path)] ++
        if h.status = 0 then [] else [("status", .nat h.status)]
    | none => []) ++
  [("bytes_up", .nat e.transfer.up), ("bytes_down", .nat e.transfer.down), ("allowed", .bool e.isAllowed)] ++
  match e.verdict with
  | .denied reason => [("reason", .text reason)]
  | .allowed => []

/-- The entry as a record of a moment. -/
def toJson (e : AccessEntry) (moment : Instant) : Json := .object (("timestamp", .text moment.renderExact) :: e.fields)

/-- The entry as a record without the moment. -/
def toUndatedJson (e : AccessEntry) : Json := .object e.fields

/-- The line an entry is written as, without its line feed. -/
def line (e : AccessEntry) (moment : Instant) : List UInt8 := Text.bytes (e.toJson moment).render

end AccessEntry

end AccessGateway
