import AccessGateway.Proofs.Lookup
import AccessGateway.Proofs.Text.Numeral
import AccessGateway.Route
import Mathlib

/-!
# The peer of a target

A target `host:port` is looked up as it is written first and by its host second.  What the texts of targets and peers
say is an endpoint in one of three forms (`IsEndpoint`), which are the texts that split (`splitHostPort?_eq_some_iff`).
A peer that is found by host and names no port gets that of the target (`peerAt`), a peer that is found by the whole
target is dialed as it is entered.  So one rule holds for both, that a peer without a port inherits the target's,
unless an entry for the whole target names no port (`RouteTable.route_of_endpoint`, `RouteTable.route_without_port`).
-/

namespace AccessGateway

open Text

/-! ### Endpoints -/

/-- The texts of endpoints, with the host and the port that they name.  Brackets are taken off the host, which may
have colons in them; a bracket that is not closed is part of the host. -/
inductive IsEndpoint (port : Nat) : (cs host : List Char) → Prop where
  | plain {host written : List Char} (hne : host ≠ []) (hopen : host.head? ≠ some '[') (hcolon : ':' ∉ host)
      (hport : IsSignedNumeral written port) (hle : port ≤ 65535) : IsEndpoint port (host ++ ':' :: written) host
  | bracketed {host written : List Char} (hne : host ≠ []) (hport : IsSignedNumeral written port)
      (hle : port ≤ 65535) : IsEndpoint port ('[' :: (host ++ [']']) ++ ':' :: written) host
  | unclosed {host written : List Char} (hclose : host.getLast? ≠ some ']') (hport : IsSignedNumeral written port)
      (hle : port ≤ 65535) : IsEndpoint port ('[' :: host ++ ':' :: written) ('[' :: host)

theorem unbracketed_bracketed (host : List Char) : unbracketed ('[' :: (host ++ [']'])) = host := by
  simp [unbracketed]

theorem unbracketed_unclosed {host : List Char} (h : host.getLast? ≠ some ']') :
    unbracketed ('[' :: host) = '[' :: host := by
  simp [unbracketed, h]

theorem unbracketed_plain {host : List Char} (h : host.head? ≠ some '[') : unbracketed host = host := by
  unfold unbracketed
  split
  · simp at h
  · rfl

theorem splitHostPort?_append {authority written : List Char} {port : Nat} (hport : IsSignedNumeral written port)
    (hle : port ≤ 65535) :
    splitHostPort? (authority ++ ':' :: written) =
      if (unbracketed authority).isEmpty ||
          ((unbracketed authority).contains ':' && (authority ++ ':' :: written).head? != some '[')
        then none else some (unbracketed authority, port) := by
  have hsplit : splitLast? ':' (authority ++ ':' :: written) = some (authority, written) :=
    splitLast?_eq_some_iff.2 ⟨rfl, hport.not_mem_colon⟩
  have hread : unsigned? 65535 written = some port := unsigned?_eq_some_iff.2 ⟨hport, hle⟩
  simp only [splitHostPort?, hsplit, hread, Option.bind_eq_bind, Option.bind_some, Option.pure_def]

/-- The texts that split into a host and a port are the endpoints. -/
theorem splitHostPort?_eq_some_iff {cs host : List Char} {port : Nat} :
    splitHostPort? cs = some (host, port) ↔ IsEndpoint port cs host := by
  constructor
  · intro h
    obtain ⟨authority, written, hcs, hport, hle⟩ : ∃ authority written, cs = authority ++ ':' :: written ∧
        IsSignedNumeral written port ∧ port ≤ 65535 := by
      unfold splitHostPort? at h
      simp only [Option.bind_eq_bind, Option.bind_eq_some_iff] at h
      obtain ⟨⟨authority, written⟩, hsplit, read, hread, h⟩ := h
      have hread : IsSignedNumeral written read ∧ read ≤ 65535 := unsigned?_eq_some_iff.1 hread
      have hport : read = port := by
        split at h
        · cases h
        · simpa using congrArg (Option.map Prod.snd) h
      exact ⟨authority, written, (splitLast?_eq_some_iff.1 hsplit).1, hport ▸ hread⟩
    subst hcs
    rw [splitHostPort?_append hport hle] at h
    simp only [Option.ite_none_left_eq_some, Option.some.injEq, Prod.mk.injEq, and_true, Bool.not_eq_true,
      Bool.or_eq_false_iff, List.isEmpty_eq_false_iff] at h
    obtain ⟨⟨hne, hcolon⟩, rfl⟩ := h
    match authority with
    | [] => exact absurd rfl hne
    | c :: r =>
      by_cases hc : c = '['
      · subst hc
        by_cases hr : r.getLast? = some ']'
        · obtain ⟨inner, rfl⟩ := List.getLast?_eq_some_iff.1 hr
          rw [unbracketed_bracketed] at hne ⊢
          exact .bracketed hne hport hle
        · rw [unbracketed_unclosed hr]
          exact .unclosed hr hport hle
      · have hopen : (c :: r).head? ≠ some '[' := fun h => hc (by simpa using h)
        rw [unbracketed_plain hopen] at hne hcolon ⊢
        refine .plain hne hopen (fun hmem => ?_) hport hle
        simp [hmem, hc] at hcolon
  · intro h
    cases h with
    | plain hne hopen hcolon hport hle =>
      rw [splitHostPort?_append hport hle, unbracketed_plain hopen]
      simp [hne, hcolon]
    | bracketed hne hport hle =>
      rw [splitHostPort?_append hport hle, unbracketed_bracketed]
      simp [hne]
    | unclosed hclose hport hle =>
      rw [splitHostPort?_append hport hle, unbracketed_unclosed hclose]
      simp

/-! ### Peers -/

/-- A peer that carries a port. -/
def NamesPort (peer : String) : Prop := ∃ host port, IsEndpoint port peer.toList host

theorem namesPort_iff {peer : String} : NamesPort peer ↔ (splitHostPort? peer.toList).isSome = true := by
  simp only [NamesPort, ← splitHostPort?_eq_some_iff, Option.isSome_iff_exists, Prod.exists]

instance (peer : String) : Decidable (NamesPort peer) := decidable_of_iff' _ namesPort_iff

/-- A peer with the port of a target, unless it carries one. -/
def peerAt (port : Nat) (peer : String) : String := if NamesPort peer then peer else s!"{peer}:{port}"

theorem peerAt_eq_self_iff {port : Nat} {peer : String} : peerAt port peer = peer ↔ NamesPort peer := by
  unfold peerAt
  split
  · rename_i h
    exact iff_of_true rfl h
  · rename_i h
    refine iff_of_false (fun heq => ?_) h
    have hlength : (toString peer ++ toString ":" ++ toString port).length = peer.length := congrArg String.length heq
    have hpeer : toString peer = peer := rfl
    have hcolon : (toString ":").length = 1 := rfl
    rw [String.length_append, String.length_append, hpeer, hcolon] at hlength
    omega

/-! ### Routes -/

namespace RouteTable

variable {t : RouteTable} {target key peer : String} {host : List Char} {port : Nat}

/-- There is an entry under the key. -/
def HasKey (t : RouteTable) (key : String) : Prop := key ∈ t.entries.map Prod.fst

instance : Decidable (t.HasKey key) := inferInstanceAs (Decidable (_ ∈ _))

/-- The table with the entries under some keys only. -/
def restrict (t : RouteTable) (keys : List String) : RouteTable := ⟨t.entries.filter fun e => e.1 ∈ keys⟩

/-- The entry under the whole target if there is one, and else the one under its host. -/
def entry? (t : RouteTable) (target : String) (host : List Char) : Option String :=
  (t.find? target).or (t.find? (String.ofList host))

theorem find?_eq_none_iff : t.find? key = none ↔ ¬ t.HasKey key := lookup_eq_none_iff_not_mem

theorem find?_restrict {keys : List String} (h : key ∈ keys) : (t.restrict keys).find? key = t.find? key :=
  lookup_filter (p := fun k => decide (k ∈ keys)) (decide_eq_true h)

/-- What a table answers for an endpoint is read off its two entries. -/
theorem route_eq (h : splitHostPort? target.toList = some (host, port)) :
    t.route target = (t.find? target).or ((t.find? (String.ofList host)).map (peerAt port)) := by
  cases htarget : t.find? target with
  | some peer => simp [route, htarget]
  | none =>
    cases hhost : t.find? (String.ofList host) with
    | none => simp [route, htarget, h, hhost]
    | some peer =>
      rw [Option.map_some, Option.none_or, peerAt]
      cases hpeer : splitHostPort? peer.toList with
      | none =>
        have hn : ¬ NamesPort peer := by simp [namesPort_iff, hpeer]
        simp [route, htarget, h, hhost, hpeer, if_neg hn]
      | some parts =>
        have hn : NamesPort peer := by simp [namesPort_iff, hpeer]
        simp [route, htarget, h, hhost, hpeer, if_pos hn]

theorem route_eq_none_iff (h : splitHostPort? target.toList = some (host, port)) :
    t.route target = none ↔ ¬ t.HasKey target ∧ ¬ t.HasKey (String.ofList host) := by
  rw [route_eq h, Option.or_eq_none_iff, Option.map_eq_none_iff, find?_eq_none_iff, find?_eq_none_iff]

/-- One rule holds for both entries exactly if a peer entered for the whole target names a port. -/
theorem route_eq_entry?_map_iff (h : splitHostPort? target.toList = some (host, port)) :
    t.route target = (t.entry? target host).map (peerAt port) ↔ ∀ peer, t.find? target = some peer → NamesPort peer := by
  rw [route_eq h, entry?]
  cases htarget : t.find? target with
  | none => simp
  | some peer =>
    simp only [Option.some_or, Option.map_some, Option.some.injEq, forall_eq']
    rw [eq_comm, peerAt_eq_self_iff]

theorem route_restrict (h : splitHostPort? target.toList = some (host, port)) :
    (t.restrict [target, String.ofList host]).route target = t.route target := by
  rw [route_eq h, route_eq h, find?_restrict (List.mem_cons_self ..), find?_restrict (by simp)]

/-- A target has no route exactly if neither it nor its host has an entry.  The peer entered for the whole target is
dialed as it is entered and one entered for the host gets the target's port unless it names one, so that the entry
found first is dialed at the target's port in every case but that of a whole target whose peer names no port.
Entries under other keys have no part in it. -/
theorem route_of_endpoint (h : splitHostPort? target.toList = some (host, port)) :
    (t.route target = none ↔ ¬ t.HasKey target ∧ ¬ t.HasKey (String.ofList host)) ∧
    (∀ peer, t.find? target = some peer → t.route target = some peer) ∧
    (¬ t.HasKey target → t.route target = (t.find? (String.ofList host)).map (peerAt port)) ∧
    (t.route target = (t.entry? target host).map (peerAt port) ↔
      ∀ peer, t.find? target = some peer → NamesPort peer) ∧
    (t.restrict [target, String.ofList host]).route target = t.route target := by
  refine ⟨route_eq_none_iff h, fun peer hpeer => ?_, fun hkey => ?_, route_eq_entry?_map_iff h, route_restrict h⟩
  · rw [route_eq h, hpeer, Option.some_or]
  · rw [route_eq h, find?_eq_none_iff.2 hkey, Option.none_or]

/-- A bracketed target gets its peer by the host within the brackets. -/
theorem route_of_endpoint_bracketed :
    splitHostPort? "[::1]:53".toList = some ("::1".toList, 53) ∧
    (RouteTable.mk [("::1", "10.8.0.9")]).route "[::1]:53" = some "10.8.0.9:53" := by
  have hsplit : splitHostPort? "[::1]:53".toList = some ("::1".toList, 53) := by decide
  refine ⟨hsplit, ?_⟩
  have hroute := (route_of_endpoint (t := RouteTable.mk [("::1", "10.8.0.9")]) hsplit).2.2.1 (by decide)
  rw [hroute]
  decide

/-- A peer entered for the whole target does not inherit its port. -/
theorem route_without_port :
    splitHostPort? "db.branch:5432".toList = some ("db.branch".toList, 5432) ∧
    (RouteTable.mk [("db.branch:5432", "10.8.0.7")]).find? "db.branch:5432" = some "10.8.0.7" ∧
    ¬ NamesPort "10.8.0.7" ∧
    (RouteTable.mk [("db.branch:5432", "10.8.0.7")]).route "db.branch:5432" ≠ some "10.8.0.7:5432" := by
  decide

end RouteTable

end AccessGateway
