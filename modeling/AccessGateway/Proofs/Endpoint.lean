import AccessGateway.Proofs.Relay.Peer

/-!
# Endpoints that are well formed

A well-formed endpoint has a host without colons and without brackets around it, or any host within brackets, and then
a colon and a port (`IsWellFormedEndpoint`).  All of them split as they are written, and no text splits that has two
colons and does not start with a bracket.  But a host with colons behind a bracket that is never closed splits too, at
its last colon (`IsHalfOpenEndpoint`): the reader looks for the bracket that opens only.  Main statement: the texts
that split are those of these two kinds, which have none in common (`splits_exactly`).
-/

namespace AccessGateway

open Text

variable {port : Nat} {cs host inner : List Char}

/-- The host stands within brackets. -/
def IsBracketed (host : List Char) : Prop := ∃ inner, host = '[' :: (inner ++ [']'])

/-- The texts `host:port` with a host without colons and the texts `[host]:port`, with the host and the port that they
name. -/
inductive IsWellFormedEndpoint (port : Nat) : (cs host : List Char) → Prop where
  | plain {host written : List Char} (hne : host ≠ []) (hcolon : ':' ∉ host) (hbare : ¬ IsBracketed host)
      (hport : IsSignedNumeral written port) (hle : port ≤ 65535) :
      IsWellFormedEndpoint port (host ++ ':' :: written) host
  | bracketed {host written : List Char} (hne : host ≠ []) (hport : IsSignedNumeral written port)
      (hle : port ≤ 65535) : IsWellFormedEndpoint port ('[' :: (host ++ [']']) ++ ':' :: written) host

/-- The texts `[host:port` with colons in the host and no bracket at its end. -/
inductive IsHalfOpenEndpoint (port : Nat) : (cs host : List Char) → Prop where
  | intro {inner written : List Char} (hcolon : ':' ∈ inner) (hclose : inner.getLast? ≠ some ']')
      (hport : IsSignedNumeral written port) (hle : port ≤ 65535) :
      IsHalfOpenEndpoint port ('[' :: inner ++ ':' :: written) ('[' :: inner)

theorem isBracketed_cons_iff : IsBracketed ('[' :: inner) ↔ inner.getLast? = some ']' := by
  rw [List.getLast?_eq_some_iff]
  simp only [IsBracketed, List.cons.injEq, true_and]

theorem not_isBracketed_of_head? (h : host.head? ≠ some '[') : ¬ IsBracketed host := by
  rintro ⟨inner, rfl⟩
  exact h rfl

/-- An endpoint is well formed, or its bracket is not closed although there is a colon behind it. -/
theorem isEndpoint_iff :
    IsEndpoint port cs host ↔ IsWellFormedEndpoint port cs host ∨ IsHalfOpenEndpoint port cs host := by
  constructor
  · intro h
    cases h with
    | plain hne hopen hcolon hport hle => exact .inl (.plain hne hcolon (not_isBracketed_of_head? hopen) hport hle)
    | bracketed hne hport hle => exact .inl (.bracketed hne hport hle)
    | @unclosed inner _ hclose hport hle =>
      -- a bracket that is not closed is a character of the host as any other, unless there is a colon behind it
      by_cases hcolon : ':' ∈ inner
      · exact .inr (.intro hcolon hclose hport hle)
      · have hnone : ':' ∉ '[' :: inner := by simp [hcolon]
        have hbare : ¬ IsBracketed ('[' :: inner) := fun h => hclose (isBracketed_cons_iff.1 h)
        exact .inl (.plain (List.cons_ne_nil _ _) hnone hbare hport hle)
  · rintro (h | h)
    · cases h with
      | plain hne hcolon hbare hport hle =>
        by_cases hopen : host.head? = some '['
        · obtain ⟨inner, rfl⟩ := List.head?_eq_some_iff.1 hopen
          exact .unclosed (fun h => hbare (isBracketed_cons_iff.2 h)) hport hle
        · exact .plain hne hopen hcolon hport hle
      | bracketed hne hport hle => exact .bracketed hne hport hle
    · cases h with
      | intro _ hclose hport hle => exact .unclosed hclose hport hle

/-- No reading of a well-formed endpoint is one of a bracket that is not closed. -/
theorem IsHalfOpenEndpoint.not_isWellFormedEndpoint (h : IsHalfOpenEndpoint port cs host) :
    ¬ IsWellFormedEndpoint port cs host := by
  intro hformed
  cases h with
  | @intro inner written hcolon hclose hport hle =>
    generalize hcs : '[' :: inner ++ ':' :: written = cs at hformed
    generalize hhost : '[' :: inner = host at hformed
    cases hformed with
    | plain _ hnone => exact hnone (hhost ▸ List.mem_cons_of_mem _ hcolon)
    | @bracketed _ written' _ hport' =>
      -- the two texts would be equal up to the last colon, but one host has its bracket and the other lost two
      have hfront := (append_cons_inj_of_last hport.not_mem_colon hport'.not_mem_colon hcs).1
      have hlength := congrArg List.length hfront
      rw [hhost, List.length_cons, List.length_append] at hlength
      omega

/-- A text with two colons that does not start with a bracket does not split. -/
theorem splitHostPort?_eq_none_of_two_colons (hopen : cs.head? ≠ some '[') (hcolons : 2 ≤ cs.count ':') :
    splitHostPort? cs = none := by
  rw [Option.eq_none_iff_forall_ne_some]
  rintro ⟨host, port⟩ h
  obtain hformed | hhalf := isEndpoint_iff.1 (splitHostPort?_eq_some_iff.1 h)
  · cases hformed with
    | plain _ hcolon _ hport =>
      have hhost := List.count_eq_zero.2 hcolon
      have hwritten := List.count_eq_zero.2 hport.not_mem_colon
      rw [List.count_append, List.count_cons_self, hhost, hwritten] at hcolons
      omega
    | bracketed => exact hopen rfl
  · cases hhalf with
    | intro => exact hopen rfl

/-- A text splits into a host and a port exactly if it is written so, with a host without colons that is not in
brackets or with one in brackets, or if it is a host with colons behind a bracket that is not closed.  No text is of
both kinds, so that the well-formed endpoints alone split exactly among the texts that are not of the second.  A text
with two colons that does not start with a bracket never splits. -/
theorem splits_exactly (cs : List Char) :
    (∀ host port, splitHostPort? cs = some (host, port) ↔
      IsWellFormedEndpoint port cs host ∨ IsHalfOpenEndpoint port cs host) ∧
    ((∀ host port, splitHostPort? cs = some (host, port) ↔ IsWellFormedEndpoint port cs host) ↔
      ∀ host port, ¬ IsHalfOpenEndpoint port cs host) ∧
    (cs.head? ≠ some '[' → 2 ≤ cs.count ':' → splitHostPort? cs = none) := by
  have hsplit (host : List Char) (port : Nat) : splitHostPort? cs = some (host, port) ↔
      IsWellFormedEndpoint port cs host ∨ IsHalfOpenEndpoint port cs host :=
    splitHostPort?_eq_some_iff.trans isEndpoint_iff
  refine ⟨hsplit, ⟨fun h host port hhalf => ?_, fun h host port => ?_⟩, splitHostPort?_eq_none_of_two_colons⟩
  · exact hhalf.not_isWellFormedEndpoint ((h host port).1 ((hsplit host port).2 (.inr hhalf)))
  · rw [hsplit host port, or_iff_left (h host port)]

/-- The text of an IPv6 address whose bracket is not closed splits, though it is no well-formed endpoint. -/
theorem splits_half_open :
    splitHostPort? "[::1:53".toList = some ("[::1".toList, 53) ∧
    ¬ IsWellFormedEndpoint 53 "[::1:53".toList "[::1".toList := by
  refine ⟨by decide, ?_⟩
  have hport : IsSignedNumeral "53".toList 53 := isSignedNumeral_digits 53
  have hhalf : IsHalfOpenEndpoint 53 "[::1:53".toList "[::1".toList :=
    @IsHalfOpenEndpoint.intro 53 "::1".toList "53".toList (by decide) (by decide) hport (by decide)
  exact hhalf.not_isWellFormedEndpoint

end AccessGateway
