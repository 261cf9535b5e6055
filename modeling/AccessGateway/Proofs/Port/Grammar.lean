import AccessGateway.Proofs.Port.Rendering
import AccessGateway.Proofs.Text.Numeral
import Mathlib

/-!
# The grammar of range expressions

A piece of an expression is the numeral of a port, or two of them with a hyphen between and blanks around it
(`PortRange.Written`); any other piece has a first fault, found from the left (`PieceFault`).  The reader of pieces
takes exactly the first (`readPiece_eq_ok_iff`) and names exactly the fault of the others (`readPiece_eq_error_iff`).
Pieces are read in order, so an expression with a fault is refused for the leftmost (`readRanges_eq_error_iff`).
-/

namespace AccessGateway

namespace Text

/-! ### Blanks around a text -/

/-- A run of blanks. -/
def IsBlankRun (cs : List Char) : Prop := ∀ c ∈ cs, isBlank c = true

theorem exists_trimStart (cs : List Char) : ∃ before, IsBlankRun before ∧ cs = before ++ trimStart cs :=
  ⟨cs.takeWhile isBlank, fun _ hc => List.mem_takeWhile_imp hc, List.takeWhile_append_dropWhile.symm⟩

theorem exists_trimEnd (cs : List Char) : ∃ after, IsBlankRun after ∧ cs = trimEnd cs ++ after := by
  obtain ⟨before, hbefore, hcs⟩ := exists_trimStart cs.reverse
  refine ⟨before.reverse, fun c hc => hbefore c (List.mem_reverse.1 hc), ?_⟩
  rw [trimEnd, ← List.reverse_append, ← List.reverse_eq_iff]
  exact hcs

/-- Trimming takes off a run of blanks at either end. -/
theorem exists_trim (cs : List Char) :
    ∃ before after, IsBlankRun before ∧ IsBlankRun after ∧ cs = before ++ (trim cs ++ after) := by
  obtain ⟨before, hbefore, hcs⟩ := exists_trimStart cs
  obtain ⟨after, hafter, hrest⟩ := exists_trimEnd (trimStart cs)
  exact ⟨before, after, hbefore, hafter, by rw [trim, ← hrest, ← hcs]⟩

theorem trim_append_left {before : List Char} (h : IsBlankRun before) (cs : List Char) :
    trim (before ++ cs) = trim cs := by
  rw [trim, trimStart, List.dropWhile_append_of_pos h, trim, trimStart]

theorem trim_append_right {after : List Char} (h : IsBlankRun after) (cs : List Char) :
    trim (cs ++ after) = trim cs := by
  induction after using List.reverseRecOn with
  | nil => rw [List.append_nil]
  | append_singleton after c ih =>
    have hc : isBlank c = true := h c (by simp)
    rw [← List.append_assoc, trim_concat_blank _ hc]
    exact ih fun d hd => h d (List.mem_append_left _ hd)

theorem IsNumeral.not_isBlank {cs : List Char} {n : Nat} (h : IsNumeral cs n) : ∀ c ∈ cs, isBlank c = false :=
  fun c hc => isBlank_of_isDigit (h.isDigit c hc)

end Text

open Text

/-! ### Ports -/

variable {t : Transport} {piece cs : List Char} {e : PortError}

/-- A numeral that stands for a valid port. -/
def IsPort (cs : List Char) (n : Nat) : Prop := IsNumeral cs n ∧ 1 ≤ n ∧ n ≤ 65535

/-- What is wrong with a numeral of a piece, which is the one that a complaint shows. -/
inductive NumeralFault (t : Transport) (piece cs : List Char) : PortError → Prop where
  | malformed (h : cs = [] ∨ ∃ c ∈ cs, c.isDigit = false) : NumeralFault t piece cs (.malformed t (String.ofList piece))
  | outOfRange {n : Nat} (h : IsNumeral cs n) (hn : n = 0 ∨ 65535 < n) :
      NumeralFault t piece cs (.outOfRange t (min n (2 ^ 64 - 1)))

theorem readPort_eq_ok_iff {p : PortNumber} : readPort t piece cs = .ok p ↔ IsPort cs p.1 := by
  unfold readPort IsPort
  rw [← natural?_eq_some_iff]
  split
  · rename_i hnone
    simp [hnone]
  · rename_i n hsome
    rw [hsome, Option.some.injEq]
    split
    · rename_i hn
      rw [Except.ok.injEq, Subtype.ext_iff]
      exact ⟨fun h => ⟨h, p.2⟩, fun h => h.1⟩
    · rename_i hn
      refine iff_of_false (by simp) ?_
      rintro ⟨rfl, hp⟩
      exact hn hp

theorem readPort_eq_error_iff : readPort t piece cs = .error e ↔ NumeralFault t piece cs e := by
  unfold readPort
  constructor
  · intro h
    split at h
    · rename_i hnone
      obtain rfl := Except.error.inj h
      exact .malformed (natural?_eq_none_iff.1 hnone)
    · rename_i n hsome
      split at h
      · cases h
      · rename_i hn
        obtain rfl := Except.error.inj h
        exact .outOfRange (natural?_eq_some_iff.1 hsome) (by omega)
  · rintro (h | ⟨h, hn⟩)
    · rw [natural?_eq_none_iff.2 h]
    · rw [natural?_eq_some_iff.2 h]
      exact dif_neg (by omega)

/-! ### Pieces -/

/-- A piece that stands for the ports from one number to another: one numeral, or two around a hyphen. -/
inductive PortRange.Written : List Char → Nat → Nat → Prop where
  | port {cs : List Char} {n : Nat} (h : IsPort cs n) : Written cs n n
  | range {a b before after : List Char} {n m : Nat} (ha : IsPort a n) (hb : IsPort b m) (hbefore : IsBlankRun before)
      (hafter : IsBlankRun after) (hle : n ≤ m) : Written (a ++ (before ++ '-' :: (after ++ b))) n m

/-- A piece that stands for a range. -/
def PortRange.Denoted (t : Transport) (piece : List Char) (r : PortRange) : Prop :=
  r.transport = t ∧ Written piece r.first r.last

/-- The first fault of a piece, read from the left. -/
inductive PieceFault (t : Transport) : List Char → PortError → Prop where
  | alone {piece : List Char} {e : PortError} (hyphen : '-' ∉ piece) (h : NumeralFault t piece piece e) :
      PieceFault t piece e
  | first {a b : List Char} {e : PortError} (hyphen : '-' ∉ a) (h : NumeralFault t (a ++ '-' :: b) (trim a) e) :
      PieceFault t (a ++ '-' :: b) e
  | last {a b : List Char} {n : Nat} {e : PortError} (hyphen : '-' ∉ a) (ha : IsPort (trim a) n)
      (h : NumeralFault t (a ++ '-' :: b) (trim b) e) : PieceFault t (a ++ '-' :: b) e
  | reversed {a b : List Char} {n m : Nat} (hyphen : '-' ∉ a) (ha : IsPort (trim a) n) (hb : IsPort (trim b) m)
      (hlt : m < n) : PieceFault t (a ++ '-' :: b) (.reversed t n m)

theorem IsPort.not_mem_hyphen {n : Nat} (h : IsPort cs n) : '-' ∉ cs := by
  intro hmem
  have hdigit := h.1.isDigit '-' hmem
  revert hdigit
  decide

theorem IsPort.trim_eq {n : Nat} (h : IsPort cs n) : trim cs = cs := trim_of_forall h.1.not_isBlank

/-- A trimmed piece with a hyphen has no blank outside of the texts around it. -/
theorem exists_parts_of_trim {a b : List Char} (h : trim (a ++ '-' :: b) = a ++ '-' :: b) :
    ∃ before after, IsBlankRun before ∧ IsBlankRun after ∧
      a ++ '-' :: b = trim a ++ (before ++ '-' :: (after ++ trim b)) := by
  obtain ⟨lead, before, hlead, hbefore, ha⟩ := exists_trim a
  obtain ⟨after, trail, hafter, htrail, hb⟩ := exists_trim b
  have hnolead : lead = [] := by
    cases lead with
    | nil => rfl
    | cons c lead =>
      have hhead := head?_trim (a ++ '-' :: b) c (by rw [h, ha]; rfl)
      rw [hlead c List.mem_cons_self] at hhead
      cases hhead
  have hnotrail : trail = [] := by
    rcases List.eq_nil_or_concat' trail with hnil | ⟨trail, c, rfl⟩
    · exact hnil
    · have hlast := getLast?_trim (a ++ '-' :: b) c (by rw [h, hb]; simp [List.getLast?_cons, List.getLast?_append])
      rw [htrail c (by simp)] at hlast
      cases hlast
  refine ⟨before, after, hbefore, hafter, ?_⟩
  conv => lhs; rw [ha, hb, hnolead, hnotrail]
  simp only [List.nil_append, List.append_nil, List.append_assoc]

/-- The texts around the first hyphen of a piece that stands for ports are their numerals, with blanks. -/
theorem PortRange.Written.ports_of_hyphen {a b : List Char} {n m : Nat} (h : Written (a ++ '-' :: b) n m)
    (ha : '-' ∉ a) : IsPort (trim a) n ∧ IsPort (trim b) m := by
  generalize hpiece : a ++ '-' :: b = piece at h
  cases h with
  | port h => exact absurd (hpiece ▸ List.mem_append_right a List.mem_cons_self) h.not_mem_hyphen
  | @range x y before after _ _ hx hy hbefore hafter hle =>
    have hfront : '-' ∉ x ++ before := by
      rw [List.mem_append]
      rintro (h | h)
      · exact hx.not_mem_hyphen h
      · have hblank := hbefore '-' h
        revert hblank
        decide
    rw [← List.append_assoc] at hpiece
    obtain ⟨rfl, rfl⟩ := append_cons_inj ha hfront hpiece
    rw [trim_append_right hbefore, trim_append_left hafter, hx.trim_eq, hy.trim_eq]
    exact ⟨hx, hy⟩

theorem PortRange.Written.port_of_not_mem {n m : Nat} (h : Written piece n m) (hyphen : '-' ∉ piece) :
    IsPort piece n ∧ n = m := by
  cases h with
  | port h => exact ⟨h, rfl⟩
  | range => simp at hyphen

/-- The ports of two numerals as a range. -/
def rangeBetween (t : Transport) : (p q : PortNumber) → Except PortError PortRange
  | ⟨p, hp⟩, ⟨q, hq⟩ => if h : p ≤ q then .ok ⟨t, p, q, hp.1, h, hq.2⟩ else .error (.reversed t p q)

theorem readPiece_of_not_mem (h : '-' ∉ piece) :
    readPiece t piece = readPort t piece piece >>= fun p => rangeBetween t p p := by
  unfold readPiece
  rw [splitFirst?_eq_none_iff.2 h]
  cases readPort t piece piece <;> rfl

theorem readPiece_of_hyphen {a b : List Char} (h : '-' ∉ a) :
    readPiece t (a ++ '-' :: b) = readPort t (a ++ '-' :: b) (trim a) >>= fun p =>
      readPort t (a ++ '-' :: b) (trim b) >>= fun q => rangeBetween t p q := by
  unfold readPiece
  rw [splitFirst?_eq_some_iff.2 ⟨rfl, h⟩]
  dsimp only
  cases readPort t (a ++ '-' :: b) (trim a) with
  | error e => rfl
  | ok p => cases readPort t (a ++ '-' :: b) (trim b) <;> rfl

theorem rangeBetween_eq_ok_iff {p q : PortNumber} {r : PortRange} :
    rangeBetween t p q = .ok r ↔ r.transport = t ∧ p.1 = r.first ∧ q.1 = r.last := by
  obtain ⟨p, hp⟩ := p
  obtain ⟨q, hq⟩ := q
  unfold rangeBetween
  dsimp only
  split
  · rename_i hle
    rw [Except.ok.injEq]
    constructor
    · rintro rfl
      exact ⟨rfl, rfl, rfl⟩
    · rintro ⟨rfl, hfirst, hlast⟩
      simp only [hfirst, hlast]
  · rename_i hle
    refine iff_of_false (by simp) ?_
    rintro ⟨-, hfirst, hlast⟩
    exact hle (hfirst ▸ hlast ▸ r.first_le_last)

theorem rangeBetween_eq_error_iff {p q : PortNumber} :
    rangeBetween t p q = .error e ↔ q.1 < p.1 ∧ e = .reversed t p.1 q.1 := by
  obtain ⟨p, hp⟩ := p
  obtain ⟨q, hq⟩ := q
  unfold rangeBetween
  dsimp only
  split
  · rename_i hle
    exact iff_of_false (by simp) fun h => absurd h.1 (Nat.not_lt.2 hle)
  · rename_i hle
    rw [Except.error.injEq, eq_comm]
    exact ⟨fun h => ⟨Nat.not_le.1 hle, h⟩, fun h => h.2⟩

/-- A piece that is as trimmed as those of an expression reads as a range exactly if it stands for it. -/
theorem readPiece_eq_ok_iff {r : PortRange} (htrim : trim piece = piece) :
    readPiece t piece = .ok r ↔ r.Denoted t piece := by
  unfold PortRange.Denoted
  by_cases hyphen : '-' ∈ piece
  · obtain ⟨a, b, rfl, ha⟩ := List.eq_append_cons_of_mem hyphen
    simp only [readPiece_of_hyphen ha, bind_eq_ok_iff, readPort_eq_ok_iff, rangeBetween_eq_ok_iff]
    constructor
    · rintro ⟨p, hp, q, hq, htransport, hfirst, hlast⟩
      obtain ⟨before, after, hbefore, hafter, heq⟩ := exists_parts_of_trim htrim
      rw [hfirst] at hp
      rw [hlast] at hq
      rw [heq]
      exact ⟨htransport, .range hp hq hbefore hafter r.first_le_last⟩
    · rintro ⟨htransport, hwritten⟩
      obtain ⟨hp, hq⟩ := hwritten.ports_of_hyphen ha
      exact ⟨⟨r.first, hp.2⟩, hp, ⟨r.last, hq.2⟩, hq, htransport, rfl, rfl⟩
  · simp only [readPiece_of_not_mem hyphen, bind_eq_ok_iff, readPort_eq_ok_iff, rangeBetween_eq_ok_iff]
    constructor
    · rintro ⟨p, hp, htransport, hfirst, hlast⟩
      rw [hfirst] at hp
      exact ⟨htransport, hfirst.symm.trans hlast ▸ .port hp⟩
    · rintro ⟨htransport, hwritten⟩
      obtain ⟨hp, heq⟩ := hwritten.port_of_not_mem hyphen
      exact ⟨⟨r.first, hp.2⟩, hp, htransport, rfl, heq⟩

/-- A piece that does not read as a range is refused for its first fault. -/
theorem readPiece_eq_error_iff : readPiece t piece = .error e ↔ PieceFault t piece e := by
  by_cases hyphen : '-' ∈ piece
  · obtain ⟨a, b, rfl, ha⟩ := List.eq_append_cons_of_mem hyphen
    simp only [readPiece_of_hyphen ha, bind_eq_error_iff, readPort_eq_error_iff, readPort_eq_ok_iff,
      rangeBetween_eq_error_iff]
    constructor
    · rintro (hfirst | ⟨p, hp, hlast | ⟨q, hq, hlt, rfl⟩⟩)
      · exact .first ha hfirst
      · exact .last ha hp hlast
      · exact .reversed ha hp hq hlt
    · intro h
      generalize hpiece : a ++ '-' :: b = piece at h
      cases h with
      | alone hnone => exact absurd (hpiece ▸ hyphen) hnone
      | first hx hfirst =>
        obtain ⟨rfl, rfl⟩ := append_cons_inj ha hx hpiece
        exact .inl hfirst
      | @last _ _ n _ hx hn hlast =>
        obtain ⟨rfl, rfl⟩ := append_cons_inj ha hx hpiece
        exact .inr ⟨⟨n, hn.2⟩, hn, .inl hlast⟩
      | @reversed _ _ n m hx hn hm hlt =>
        obtain ⟨rfl, rfl⟩ := append_cons_inj ha hx hpiece
        exact .inr ⟨⟨n, hn.2⟩, hn, .inr ⟨⟨m, hm.2⟩, hm, hlt, rfl⟩⟩
  · simp only [readPiece_of_not_mem hyphen, bind_eq_error_iff, readPort_eq_error_iff, readPort_eq_ok_iff,
      rangeBetween_eq_error_iff, lt_irrefl, false_and, and_false, exists_false, or_false]
    constructor
    · exact .alone hyphen
    · rintro (⟨-, h⟩ | _ | _ | _)
      · exact h
      all_goals simp at hyphen

/-! ### Expressions -/

theorem trim_of_mem_rangePieces {expr : List Char} (h : piece ∈ rangePieces expr) : trim piece = piece := by
  obtain ⟨part, -, rfl⟩ := List.mem_map.1 (List.mem_of_mem_filter h)
  exact trim_trim part

/-- An expression reads as one range for each of its pieces exactly if every piece stands for one, and it is refused
for the first fault of its leftmost faulty piece otherwise. -/
theorem readRanges_accepts_grammar (t : Transport) (expr : List Char) :
    (∀ rs, readRanges t expr = .ok rs ↔ List.Forall₂ (fun piece r => r.Denoted t piece) (rangePieces expr) rs) ∧
      ∀ e, readRanges t expr = .error e ↔
        ∃ before piece after, rangePieces expr = before ++ piece :: after ∧
          (∀ earlier ∈ before, ∃ r : PortRange, r.Denoted t earlier) ∧ PieceFault t piece e := by
  have hdenoted (piece : List Char) (hpiece : piece ∈ rangePieces expr) (r : PortRange) :
      readPiece t piece = .ok r ↔ r.Denoted t piece :=
    readPiece_eq_ok_iff (trim_of_mem_rangePieces hpiece)
  refine ⟨fun rs => ?_, fun e => ?_⟩
  · have hget (i : Nat) (hi : i < (rangePieces expr).length) (r : PortRange) :
        readPiece t ((rangePieces expr).get ⟨i, hi⟩) = .ok r ↔ r.Denoted t ((rangePieces expr).get ⟨i, hi⟩) :=
      hdenoted _ (List.get_mem _ _) r
    simp only [readRanges_eq_ok_iff, List.forall₂_iff_get, hget]
  · rw [readRanges, mapM_eq_error_iff]
    simp only [readPiece_eq_error_iff]
    constructor
    · rintro ⟨before, piece, after, hpieces, hbefore, hfault⟩
      refine ⟨before, piece, after, hpieces, fun earlier hearlier => ?_, hfault⟩
      obtain ⟨r, hr⟩ := hbefore earlier hearlier
      exact ⟨r, (hdenoted earlier (hpieces ▸ List.mem_append_left _ hearlier) r).1 hr⟩
    · rintro ⟨before, piece, after, hpieces, hbefore, hfault⟩
      refine ⟨before, piece, after, hpieces, fun earlier hearlier => ?_, hfault⟩
      obtain ⟨r, hr⟩ := hbefore earlier hearlier
      exact ⟨r, (hdenoted earlier (hpieces ▸ List.mem_append_left _ hearlier) r).2 hr⟩

end AccessGateway
