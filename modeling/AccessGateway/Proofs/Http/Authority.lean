import AccessGateway.Http.Authority
import Mathlib

/-!
# Hosts of authorities

Of an authority without a user part the host is a front: a pair of brackets with what stands between them, or else
what stands before the first colon (`host_append`, `exists_host_append`).  Whether a text is an authority depends
neither on the case of its letters nor on the digits behind its host (`isLegal_toLower_append`), because the scanner
tells only brackets, colons, at signs and percent signs from the rest.
-/

namespace AccessGateway.Authority

variable {c : Char} {cs rest ds : List Char} {s t : Scan}

/-! ### The scanner -/

/-- What one character does to the scan, and what it may be. -/
inductive Steps (s : Scan) : Char → Scan → Prop where
  | colon : Steps s ':' { s with colons := s.colons + 1, atEnd := false }
  | opening : Steps s '[' { s with opened := true, atEnd := false }
  | closing : Steps s ']' { s with closed := true, colons := 0, percent := false, atEnd := false }
  | at : Steps s '@' { s with colons := 0, percent := false, atEnd := true }
  | percent : Steps s '%' { s with percent := true, atEnd := false }
  | other {c : Char} (h : isAddressChar c = true) : Steps s c { s with atEnd := false }

theorem steps_of_step (h : s.step c = some t) : Steps s c t := by
  unfold Scan.step at h
  split at h
  · rename_i hc
    split at h
    · cases h
    · obtain rfl := Option.some.inj h
      exact hc ▸ .colon
  · split at h
    · rename_i hc
      split at h
      · cases h
      · obtain rfl := Option.some.inj h
        exact hc ▸ .opening
    · split at h
      · rename_i hc
        split at h
        · cases h
        · obtain rfl := Option.some.inj h
          exact hc ▸ .closing
      · split at h
        · rename_i hc
          obtain rfl := Option.some.inj h
          exact hc ▸ .at
        · split at h
          · rename_i hc
            obtain rfl := Option.some.inj h
            exact hc ▸ .percent
          · split at h
            · rename_i hc
              obtain rfl := Option.some.inj h
              exact .other hc
            · cases h

/-- What every step keeps a scan keeps, for the characters that occur. -/
private theorem scan_induction {motive : Scan → Prop} (hstep : ∀ c ∈ cs, ∀ s t, Steps s c t → motive s → motive t)
    (hs : motive s) (h : cs.foldlM Scan.step s = some t) : motive t := by
  induction cs generalizing s with
  | nil =>
    obtain rfl := Option.some.inj h
    exact hs
  | cons c cs ih =>
    rw [List.foldlM_cons] at h
    obtain ⟨s', hs', hnext⟩ := Option.bind_eq_some_iff.1 h
    exact ih (fun d hd => hstep d (List.mem_cons_of_mem c hd))
      (hstep c List.mem_cons_self s s' (steps_of_step hs') hs) hnext

theorem exists_scan_of_isLegal (h : isLegal cs = true) :
    ∃ t, cs.foldlM Scan.step ⟨0, false, false, false, false⟩ = some t ∧ t.opened = t.closed := by
  unfold isLegal at h
  split at h
  · rename_i t ht
    simp only [Bool.and_eq_true, beq_iff_eq] at h
    exact ⟨t, ht, h.1.1.1.2⟩
  · cases h

private theorem visible_of_isAddressChar (h : isAddressChar c = true) : 32 < c.toNat ∧ c.toNat < 127 := by
  unfold isAddressChar at h
  rcases Bool.or_eq_true_iff.1 h with hc | hc
  · simp only [Char.isAlphanum, Char.isAlpha, Char.isUpper, Char.isLower, Char.isDigit, Bool.or_eq_true,
      Bool.and_eq_true, decide_eq_true_eq, UInt32.le_iff_toNat_le, ge_iff_le] at hc
    have hval : c.toNat = c.val.toNat := rfl
    have hbounds : 'A'.val.toNat = 65 ∧ 'Z'.val.toNat = 90 ∧ 'a'.val.toNat = 97 ∧ 'z'.val.toNat = 122 ∧
        '0'.val.toNat = 48 ∧ '9'.val.toNat = 57 := by decide
    omega
  · have hall : ("!#$&'()*+,-./:;=?@[]_~".toList.all fun d => 32 < d.toNat && d.toNat < 127) = true := by
      decide +kernel
    have hvisible := List.all_eq_true.1 hall c (List.contains_iff_mem.1 hc)
    simpa using hvisible

/-- The characters of an authority are visible and ASCII. -/
theorem visible_of_isLegal (h : isLegal cs = true) (hc : c ∈ cs) : 32 < c.toNat ∧ c.toNat < 127 := by
  obtain ⟨t, ht, -⟩ := exists_scan_of_isLegal h
  obtain ⟨before, after, rfl⟩ := List.append_of_mem hc
  rw [List.foldlM_append] at ht
  obtain ⟨s, -, hs⟩ := Option.bind_eq_some_iff.1 ht
  rw [List.foldlM_cons] at hs
  obtain ⟨s', hstep, -⟩ := Option.bind_eq_some_iff.1 hs
  cases steps_of_step hstep with
  | other h => exact visible_of_isAddressChar h
  | _ => decide

/-! ### Letters and digits -/

theorem toLower_eq_iff {d : Char} (hd : d.isAlpha = false) : c.toLower = d ↔ c = d := by
  by_cases hupper : c.isUpper
  · have halpha : c.isAlpha = true := by simp [Char.isAlpha, hupper]
    refine iff_of_false ?_ ?_
    · rintro rfl
      rw [Char.isAlpha_toLower_eq_isAlpha, halpha] at hd
      cases hd
    · rintro rfl
      rw [halpha] at hd
      cases hd
  · rw [Char.toLower_eq_of_not_isUpper hupper]

/-- A letter or a digit is nothing that the scanner looks at. -/
theorem step_of_isAlphanum (h : c.isAlphanum = true) (s : Scan) : s.step c = some { s with atEnd := false } := by
  have hne {d : Char} (hd : d.isAlphanum = false) : c ≠ d := by
    rintro rfl
    rw [h] at hd
    cases hd
  have haddress : isAddressChar c = true := by rw [isAddressChar, h, Bool.true_or]
  unfold Scan.step
  rw [if_neg (hne (by decide)), if_neg (hne (by decide)), if_neg (hne (by decide)), if_neg (hne (by decide)),
    if_neg (hne (by decide)), if_pos haddress]

theorem step_toLower (s : Scan) (c : Char) : s.step c.toLower = s.step c := by
  by_cases hupper : c.isUpper
  · have halpha : c.isAlpha = true := by rw [Char.isAlpha, hupper, Bool.true_or]
    have hlower : c.toLower.isAlpha = true := by rw [Char.isAlpha_toLower_eq_isAlpha, halpha]
    rw [step_of_isAlphanum (c := c.toLower) (by rw [Char.isAlphanum, hlower, Bool.true_or]),
      step_of_isAlphanum (c := c) (by rw [Char.isAlphanum, halpha, Bool.true_or])]
  · rw [Char.toLower_eq_of_not_isUpper hupper]

theorem foldlM_toLower (s : Scan) (cs : List Char) :
    (cs.map Char.toLower).foldlM Scan.step s = cs.foldlM Scan.step s := by
  induction cs generalizing s with
  | nil => rfl
  | cons c cs ih =>
    rw [List.map_cons, List.foldlM_cons, List.foldlM_cons, step_toLower]
    cases s.step c with
    | none => rfl
    | some s' => exact ih s'

private theorem foldlM_digits (hds : ∀ d ∈ ds, d.isDigit = true) (hs : s.atEnd = false) :
    ds.foldlM Scan.step s = some s := by
  induction ds with
  | nil => rfl
  | cons d ds ih =>
    have hd : d.isAlphanum = true := by rw [Char.isAlphanum, hds d List.mem_cons_self, Bool.or_true]
    have hkeep : { s with atEnd := false } = s := by rw [← hs]
    rw [List.foldlM_cons, step_of_isAlphanum hd, hkeep]
    exact ih fun d' hd' => hds d' (List.mem_cons_of_mem d hd')

/-- The digits behind a colon make no difference. -/
theorem foldlM_append_digits (s : Scan) (cs : List Char) (hds : ∀ d ∈ ds, d.isDigit = true) :
    (cs ++ ':' :: ds).foldlM Scan.step s = (cs ++ [':']).foldlM Scan.step s := by
  rw [List.foldlM_append, List.foldlM_append]
  cases cs.foldlM Scan.step s with
  | none => rfl
  | some s' =>
    change (':' :: ds).foldlM Scan.step s' = [':'].foldlM Scan.step s'
    rw [List.foldlM_cons, List.foldlM_cons]
    cases hcolon : s'.step ':' with
    | none => rfl
    | some t =>
      have hend : t.atEnd = false := by cases steps_of_step hcolon <;> rfl
      exact foldlM_digits hds hend

private theorem isLegal_congr {es : List Char} (hcs : cs ≠ []) (hes : es ≠ [])
    (h : cs.foldlM Scan.step ⟨0, false, false, false, false⟩ =
      es.foldlM Scan.step ⟨0, false, false, false, false⟩) : isLegal cs = isLegal es := by
  unfold isLegal
  rw [h, List.isEmpty_eq_false_iff.2 hcs, List.isEmpty_eq_false_iff.2 hes]

theorem isLegal_toLower (hcs : cs ≠ []) : isLegal (cs.map Char.toLower) = isLegal cs :=
  isLegal_congr (by simpa using hcs) hcs (foldlM_toLower _ cs)

/-- Neither the case of letters nor the digits of a port make a text an authority or not. -/
theorem isLegal_toLower_append (cs : List Char) {es : List Char} (hds : ∀ d ∈ ds, d.isDigit = true)
    (hes : ∀ d ∈ es, d.isDigit = true) :
    isLegal (cs.map Char.toLower ++ ':' :: ds) = isLegal (cs ++ ':' :: es) := by
  refine isLegal_congr (by simp) (by simp) ?_
  rw [foldlM_append_digits _ _ hds, foldlM_append_digits _ _ hes, List.foldlM_append, List.foldlM_append,
    foldlM_toLower]

/-! ### Hosts -/

/-- A pair of brackets with what stands between them, or a text that has no colon and opens no bracket. -/
inductive IsHost : List Char → Prop where
  | bracketed {inner : List Char} (h : ']' ∉ inner) : IsHost ('[' :: (inner ++ [']']))
  | plain {cs : List Char} (hcolon : ':' ∉ cs) (hhead : cs.head? ≠ some '[') : IsHost cs

theorem IsHost.map_toLower {h : List Char} (hh : IsHost h) : IsHost (h.map Char.toLower) := by
  have hmem {d : Char} {cs : List Char} (hd : d.isAlpha = false) (h : d ∉ cs) : d ∉ cs.map Char.toLower := by
    intro hlower
    obtain ⟨c, hc, hcd⟩ := List.mem_map.1 hlower
    rw [toLower_eq_iff hd] at hcd
    exact h (hcd ▸ hc)
  cases hh with
  | bracketed h =>
    rw [List.map_cons, List.map_append]
    exact .bracketed (hmem (by decide) h)
  | plain hcolon hhead =>
    refine .plain (hmem (by decide) hcolon) ?_
    rw [List.head?_map]
    intro h
    obtain ⟨c, hc, hcd⟩ := Option.map_eq_some_iff.1 h
    rw [toLower_eq_iff (by decide)] at hcd
    exact hhead (hcd ▸ hc)

private theorem hostPort_eq (h : '@' ∉ cs) : (cs.reverse.takeWhile (· ≠ '@')).reverse = cs := by
  have hall : ∀ c ∈ cs.reverse, decide (c ≠ '@') = true := by
    intro c hc
    simp only [decide_eq_true_eq]
    rintro rfl
    exact h (List.mem_reverse.1 hc)
  rw [List.takeWhile_eq_self_iff.2 hall, List.reverse_reverse]

private theorem host_of_bracket (h : '@' ∉ '[' :: cs) :
    host ('[' :: cs) = '[' :: (cs.takeWhile (· ≠ ']') ++ [']']) := by
  unfold host
  rw [hostPort_eq h]
  show List.takeWhile (· ≠ ']') ('[' :: cs) ++ [']'] = _
  rw [List.takeWhile_cons_of_pos (by decide), List.cons_append]

private theorem host_of_plain (h : '@' ∉ cs) (hhead : cs.head? ≠ some '[') : host cs = cs.takeWhile (· ≠ ':') := by
  unfold host
  rw [hostPort_eq h]
  dsimp only
  split
  · exact absurd rfl hhead
  · rfl

private theorem not_mem_takeWhile (d : Char) (cs : List Char) : d ∉ cs.takeWhile (· ≠ d) := by
  intro hd
  have hne := List.mem_takeWhile_imp hd
  simp at hne

private theorem exists_dropWhile_of_mem {d : Char} (h : d ∈ cs) : ∃ tail, cs.dropWhile (· ≠ d) = d :: tail := by
  cases hdrop : cs.dropWhile (· ≠ d) with
  | nil =>
    have hall := List.dropWhile_eq_nil_iff.1 hdrop d h
    simp at hall
  | cons e tail =>
    have hhead := List.head?_dropWhile_not (· ≠ d) cs
    rw [hdrop] at hhead
    obtain rfl : e = d := by simpa using hhead
    exact ⟨tail, rfl⟩

/-- A host stands at the start, whatever comes behind brackets, and a colon or nothing behind other hosts. -/
theorem host_append {h : List Char} (hh : IsHost h) (hat : '@' ∉ h ++ rest) (hrest : ∀ c ∈ rest.head?, c = ':') :
    host (h ++ rest) = h := by
  have hstop {d : Char} {cs tail : List Char} (hcs : d ∉ cs) (htail : ∀ c ∈ tail.head?, c = d) :
      (cs ++ tail).takeWhile (· ≠ d) = cs := by
    have hall : ∀ c ∈ cs, decide (c ≠ d) = true := by
      intro c hc
      simp only [decide_eq_true_eq]
      rintro rfl
      exact hcs hc
    have hnone : tail.takeWhile (· ≠ d) = [] := by
      cases tail with
      | nil => rfl
      | cons c tail =>
        obtain rfl := htail c rfl
        rw [List.takeWhile_cons_of_neg (by simp)]
    rw [List.takeWhile_append_of_pos hall, hnone, List.append_nil]
  cases hh with
  | bracketed hinner =>
    rw [List.cons_append, List.append_assoc, List.singleton_append] at hat ⊢
    rw [host_of_bracket hat, hstop hinner (by simp)]
  | plain hcolon hhead =>
    have hstart : (h ++ rest).head? ≠ some '[' := by
      cases h with
      | nil =>
        intro hbracket
        exact absurd (hrest '[' hbracket) (by decide)
      | cons c h => exact hhead
    rw [host_of_plain hat hstart, hstop hcolon hrest]

/-- Brackets that are opened are closed. -/
private theorem mem_of_isLegal_bracket (h : isLegal ('[' :: cs) = true) : ']' ∈ cs := by
  obtain ⟨t, ht, hboth⟩ := exists_scan_of_isLegal h
  have hscan : cs.foldlM Scan.step ⟨0, false, true, false, false⟩ = some t := ht
  by_contra hnone
  have hopened : t.opened = true := by
    refine scan_induction (motive := fun s => s.opened = true) ?_ rfl hscan
    intro c _ s t hstep hs
    cases hstep <;> first | exact hs | rfl
  have hclosed : t.closed = false := by
    refine scan_induction (motive := fun s => s.closed = false) ?_ rfl hscan
    intro c hc s t hstep hs
    cases hstep with
    | closing => exact absurd hc hnone
    | _ => exact hs
  rw [hopened, hclosed] at hboth
  cases hboth

/-- The host of an authority without a user part is a front of it. -/
theorem exists_host_append (h : isLegal cs = true) (hat : '@' ∉ cs) : ∃ rest, cs = host cs ++ rest ∧ IsHost (host cs) := by
  by_cases hhead : cs.head? = some '['
  · obtain ⟨inside, rfl⟩ := List.head?_eq_some_iff.1 hhead
    have hclosing : ']' ∈ inside := mem_of_isLegal_bracket h
    rw [host_of_bracket hat]
    obtain ⟨rest, hrest⟩ := exists_dropWhile_of_mem hclosing
    refine ⟨rest, ?_, .bracketed (not_mem_takeWhile ']' inside)⟩
    conv => lhs; rw [← List.takeWhile_append_dropWhile (p := (· ≠ ']')) (l := inside), hrest]
    simp
  · rw [host_of_plain hat hhead]
    refine ⟨cs.dropWhile (· ≠ ':'), List.takeWhile_append_dropWhile.symm, .plain (not_mem_takeWhile ':' cs) ?_⟩
    intro hbracket
    rw [List.head?_takeWhile] at hbracket
    exact hhead (Option.mem_filter_iff.1 hbracket).1

end AccessGateway.Authority
