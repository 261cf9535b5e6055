import AccessGateway.Json.Basic

/-!
# Users

The principal a verified token identifies. A token that names no display name or address gets both derived from
its subject. A permission counts as granted unless it is explicitly false.
-/

namespace AccessGateway

/-- An authenticated user. -/
structure User where
  id : String
  displayName : String
  email : String
  groups : List String
  role : String
  /-- Each permission once, with its value. -/
  permissions : List (String × Json)
deriving Repr, BEq

namespace User

/-- The display name made from the first eight characters of an id. -/
def derivedDisplayName (id : String) : String := "user-" ++ String.ofList (id.toList.take 8)

/-- The address made from an id. -/
def placeholderEmail (id : String) : String := id ++ "@users.headend.invalid"

/-- Whether a permission is granted. -/
def hasPermission (u : User) (permission : String) : Bool :=
  match u.permissions.lookup permission with
  | some (.bool b) => b
  | some _ => true
  | none => false

/-- Members by name, each name once with its last value. -/
def distinctMembers (ms : List (String × Json)) : List (String × Json) :=
  ms.foldr (fun m acc => if acc.any (·.1 == m.1) then acc else m :: acc) []

/-- The user as a record. -/
def toJson (u : User) : Json :=
  .object [("id", .text u.id), ("display_name", .text u.displayName), ("email", .text u.email),
    ("groups", .texts u.groups), ("role", .text u.role), ("permissions", .object u.permissions)]

/-- A permission map. -/
private def permissions? : Json → Option (List (String × Json))
  | .object ms => some (distinctMembers ms)
  | _ => none

/-- Reads a user from the values of its six fields; groups and permissions may be left out. -/
private def ofFields? (id name email groups role permissions : Option Json) : Option User := do
  let id ← (← id).text?
  let name ← (← name).text?
  let email ← (← email).text?
  let groups ← match groups with
    | some g => g.texts?
    | none => some []
  let role ← (← role).text?
  let permissions ← match permissions with
    | some p => permissions? p
    | none => some []
  return ⟨id, name, email, groups, role, permissions⟩

/-- Reads a user from a record, or from a list of its fields in order. -/
def ofJson? (j : Json) : Option User :=
  match j with
  | .object _ =>
    ofFields? (j.field? "id") (j.field? "display_name") (j.field? "email") (j.field? "groups") (j.field? "role")
      (j.field? "permissions")
  | .list xs => if xs.length ≤ 6 then ofFields? xs[0]? xs[1]? xs[2]? xs[3]? xs[4]? xs[5]? else none
  | _ => none

end User

end AccessGateway
