import AccessGateway.Http.RequestTarget
import AccessGateway.Http.Target
import AccessGateway.Text.Numeral

/-!
# Where an authority ends

A slash, a question mark or a number sign ends the authority of an address.  None of them is in a target that was
taken from a header (`endsAuthority_of_targetHost`), and what is asked of the target starts with one of them unless the
request line has nothing but an asterisk (`forwarded_of_read?`).
-/

namespace AccessGateway

open RequestTarget (endsAuthority)

variable {c : Char} {host line : String} {t : RequestTarget}

theorem endsAuthority_iff : endsAuthority c = true ↔ c = '/' ∨ c = '?' ∨ c = '#' := by
  have hends : "/?#".toList = ['/', '?', '#'] := by decide
  rw [endsAuthority, hends, List.contains_iff_mem]
  simp

/-! ### Targets of headers -/

private theorem toLower_eq_or (c : Char) : c.toLower = c ∨ 97 ≤ c.toLower.toNat := by
  unfold Char.toLower
  split
  · rename_i hupper
    right
    have hcode : 65 ≤ c.val.toNat ∧ c.val.toNat ≤ 90 := hupper
    show 97 ≤ (c.val + 32).toNat
    rw [UInt32.toNat_add]
    show 97 ≤ (c.val.toNat + 32) % 4294967296
    omega
  · exact .inl rfl

/-- A capital letter becomes a small one, which ends no authority. -/
theorem endsAuthority_of_toLower (h : endsAuthority c.toLower = true) : endsAuthority c = true := by
  rcases toLower_eq_or c with heq | hsmall
  · rwa [heq] at h
  · rcases endsAuthority_iff.1 h with h | h | h <;> exact absurd hsmall (by rw [h]; decide)

theorem endsAuthority_of_isDigit (h : c.isDigit = true) : endsAuthority c = false := by
  rw [← Bool.not_eq_true, endsAuthority_iff]
  rintro (rfl | rfl | rfl) <;> exact absurd h (by decide)

theorem mem_host {cs : List Char} (h : c ∈ Authority.host cs) : c ∈ cs ∨ c = ']' := by
  have hpart : ∀ d ∈ (cs.reverse.takeWhile (· ≠ '@')).reverse, d ∈ cs := by
    intro d hd
    exact List.mem_reverse.1 (List.takeWhile_subset _ (List.mem_reverse.1 hd))
  unfold Authority.host at h
  dsimp only at h
  split at h
  · rcases List.mem_append.1 h with h | h
    · exact .inl (hpart c (List.takeWhile_subset _ h))
    · exact .inr (List.mem_singleton.1 h)
  · exact .inl (hpart c (List.takeWhile_subset _ h))

theorem endsAuthority_of_normalizeTarget? {raw : List Char} (h : normalizeTarget? raw = some host)
    (hc : c ∈ host.toList) : endsAuthority c = false := by
  unfold normalizeTarget? at h
  dsimp only at h
  split at h
  · cases h
  · rename_i hraw
    have hname : ∀ d ∈ (Authority.host raw).map Char.toLower, endsAuthority d = false := by
      intro d hd
      obtain ⟨e, he, rfl⟩ := List.mem_map.1 hd
      rw [← Bool.not_eq_true]
      intro hends
      have hends' := endsAuthority_of_toLower hends
      rcases mem_host he with he | rfl
      · refine hraw (List.any_eq_true.2 ⟨e, he, ?_⟩)
        rcases endsAuthority_iff.1 hends' with rfl | rfl | rfl <;> decide
      · exact absurd hends' (by decide)
    split at h
    · cases h
    · split at h
      · cases h
      · split at h
        · obtain rfl := Option.some.inj h
          exact hname c (by rwa [String.toList_ofList] at hc)
        · obtain ⟨p, -, rfl⟩ := Option.map_eq_some_iff.1 h
          have htext (s : String) : toString s = s := rfl
          have hdigits : (toString p).toList = Nat.toDigits 10 p := Nat.toList_repr
          simp only [htext, hdigits, String.toList_append, String.toList_ofList, List.mem_append] at hc
          rcases hc with (hc | hc) | hc
          · exact hname c hc
          · obtain rfl : c = ':' := List.mem_singleton.1 hc
            decide
          · exact endsAuthority_of_isDigit (Text.isDigit_of_mem_digits hc)

theorem endsAuthority_of_targetHost {hs : Headers} (h : targetHost hs = .ok host) (hc : c ∈ host.toList) :
    endsAuthority c = false := by
  unfold targetHost at h
  split at h
  · cases h
  · split at h
    · cases h
    · dsimp only at h
      split at h
      · cases h
      · split at h
        · rename_i hnormal
          obtain rfl := Except.ok.inj h
          exact endsAuthority_of_normalizeTarget? hnormal hc
        · cases h

/-! ### Targets of request lines -/

/-- What is shown of a text that is empty or starts where an authority ends. -/
private theorem readPathAndQuery?_of_end {cs p : List Char} (hcs : ∀ d ∈ cs.head?, endsAuthority d = true)
    (h : RequestTarget.readPathAndQuery? cs = some p) : ∀ d ∈ p.head?, endsAuthority d = true := by
  unfold RequestTarget.readPathAndQuery? at h
  dsimp only at h
  split at h
  · obtain rfl := Option.some.inj h
    intro d hd
    rw [List.head?_takeWhile] at hd
    exact hcs d (Option.mem_filter_iff.1 hd).1
  · cases h

/-- What follows an authority is empty or starts where it ends. -/
private theorem head?_drop_authority (cs : List Char) :
    ∀ d ∈ (cs.drop (cs.takeWhile fun c => !endsAuthority c).length).head?, endsAuthority d = true := by
  have hdrop : cs.drop (cs.takeWhile fun c => !endsAuthority c).length = cs.dropWhile fun c => !endsAuthority c := by
    conv => lhs; arg 2; rw [← List.takeWhile_append_dropWhile (p := fun c => !endsAuthority c) (l := cs)]
    exact List.drop_left
  intro d hd
  have hhead := List.head?_dropWhile_not (fun c => !endsAuthority c) cs
  rw [hdrop] at hd
  rw [Option.mem_def.1 hd] at hhead
  simpa using hhead

theorem RequestTarget.pathAndQuery_of_read? (h : RequestTarget.read? line = some t) :
    line = "*" ∧ t.pathAndQuery = ['*'] ∨ line ≠ "*" ∧ ∀ d ∈ t.pathAndQuery.head?, endsAuthority d = true := by
  unfold RequestTarget.read? at h
  dsimp only at h
  split at h
  · cases h
  · split at h
    · cases h
    · rename_i hcs
      obtain rfl := Option.some.inj h
      exact .inl ⟨String.toList_inj.1 hcs, rfl⟩
    · rename_i rest hcs
      obtain ⟨p, hp, rfl⟩ := Option.map_eq_some_iff.1 h
      refine .inr ⟨?_, readPathAndQuery?_of_end (by simp [hcs, endsAuthority_iff]) hp⟩
      rintro rfl
      cases hcs
    · rename_i hasterisk _
      refine .inr ⟨by rintro rfl; exact hasterisk rfl, ?_⟩
      split at h
      · split at h
        · obtain rfl := Option.some.inj h
          intro d hd
          cases hd
        · cases h
      · split at h
        · cases h
        · obtain ⟨p, hp, rfl⟩ := Option.map_eq_some_iff.1 h
          exact readPathAndQuery?_of_end (head?_drop_authority _) hp

/-- What is asked of the target starts where an authority ends, unless it is an asterisk. -/
theorem RequestTarget.forwarded_of_read? (h : RequestTarget.read? line = some t) :
    line = "*" ∧ t.forwarded = "*" ∨
      line ≠ "*" ∧ ∃ d rest, t.forwarded.toList = d :: rest ∧ endsAuthority d = true := by
  unfold RequestTarget.forwarded
  rcases RequestTarget.pathAndQuery_of_read? h with ⟨hline, hpath⟩ | ⟨hline, hpath⟩
  · left
    rw [hpath]
    exact ⟨hline, rfl⟩
  · right
    refine ⟨hline, ?_⟩
    cases hpq : t.pathAndQuery with
    | nil => exact ⟨'/', [], rfl, by decide⟩
    | cons d rest =>
      rw [hpq] at hpath
      exact ⟨d, rest, String.toList_ofList, hpath d rfl⟩

end AccessGateway
