import AccessGateway.Proofs.Except
import AccessGateway.Proofs.Port.Set
import AccessGateway.Proofs.Text.Basic

/-!
# Written ranges

Ranges are written with commas between them and read back piece by piece.  The key facts: a written range is a piece
of its own, without comma or blank (`rangePieces_renderRanges`), and reads as that range (`readPiece_render`), so that
a set that was read is read again from what is written of it (`read_expressions`) and is written so from then on
(`rewritten_expressions`).  An expression gives no range at all exactly when it consists of commas and blanks
(`readRanges_eq_nil_iff`).
-/

namespace AccessGateway

/-! ### Pieces -/

theorem readPort_digits (t : Transport) (piece : List Char) {n : Nat} (h : 1 ≤ n ∧ n ≤ 65535) :
    readPort t piece (Text.digits n) = .ok ⟨n, h⟩ := by
  unfold readPort
  rw [Text.natural?_digits]
  exact dif_pos h

namespace PortRange

theorem mem_render {r : PortRange} {c : Char} (h : c ∈ r.render) : c.isDigit = true ∨ c = '-' := by
  unfold render at h
  split at h
  · exact .inl (Text.isDigit_of_mem_digits h)
  · rcases List.mem_append.1 h with h | h
    · exact .inl (Text.isDigit_of_mem_digits h)
    · rcases List.mem_cons.1 h with h | h
      · exact .inr h
      · exact .inl (Text.isDigit_of_mem_digits h)

theorem render_ne_nil (r : PortRange) : r.render ≠ [] := by
  unfold render
  split
  · exact Text.digits_ne_nil r.first
  · exact List.append_ne_nil_of_left_ne_nil (Text.digits_ne_nil r.first) _

end PortRange

theorem isBlank_of_isDigit {c : Char} (h : c.isDigit = true) : Text.isBlank c = false := by
  have hc : 48 ≤ c.toNat ∧ c.toNat ≤ 57 := by
    simp only [Char.isDigit, Bool.and_eq_true, decide_eq_true_eq] at h
    exact ⟨h.1, h.2⟩
  simp only [Text.isBlank, Bool.or_eq_false_iff, Bool.and_eq_false_iff, beq_eq_false_iff_ne, decide_eq_false_iff_not]
  omega

theorem trim_of_forall {cs : List Char} (h : ∀ c ∈ cs, Text.isBlank c = false) : Text.trim cs = cs :=
  Text.trim_eq_self (fun c hc => h c (List.mem_of_mem_head? hc)) (fun c hc => h c (List.mem_of_getLast? hc))

theorem trim_digits (n : Nat) : Text.trim (Text.digits n) = Text.digits n :=
  trim_of_forall fun _ hc => isBlank_of_isDigit (Text.isDigit_of_mem_digits hc)

theorem trim_render (r : PortRange) : Text.trim r.render = r.render := by
  apply trim_of_forall
  intro c hc
  rcases PortRange.mem_render hc with h | rfl
  · exact isBlank_of_isDigit h
  · decide

theorem comma_not_mem_render (r : PortRange) : ',' ∉ r.render := by
  intro h
  rcases PortRange.mem_render h with h | h
  · revert h
    decide
  · cases h

/-- A written range reads as that range. -/
theorem readPiece_render (r : PortRange) : readPiece r.transport r.render = .ok r := by
  have hhyphen (n : Nat) : '-' ∉ Text.digits n := fun h => by
    have := Text.isDigit_of_mem_digits h
    revert this
    decide
  have hfirst : 1 ≤ r.first ∧ r.first ≤ 65535 := ⟨r.one_le_first, r.first_le_last.trans r.last_le⟩
  have hlast : 1 ≤ r.last ∧ r.last ≤ 65535 := ⟨r.one_le_first.trans r.first_le_last, r.last_le⟩
  unfold readPiece PortRange.render
  by_cases hsingle : r.first = r.last
  · rw [if_pos hsingle, Text.splitFirst?_eq_none_iff.2 (hhyphen r.first)]
    simp only [readPort_digits _ _ hfirst, bind, Except.bind, pure, Except.pure, le_refl, dite_true]
    obtain ⟨t, first, last, _, _, _⟩ := r
    obtain rfl : first = last := hsingle
    rfl
  · rw [if_neg hsingle, Text.splitFirst?_eq_some_iff.2 ⟨rfl, hhyphen r.first⟩]
    simp only [trim_digits, readPort_digits _ _ hfirst, readPort_digits _ _ hlast, bind, Except.bind, pure,
      Except.pure, dif_pos r.first_le_last]

theorem transport_of_readPiece {t : Transport} {piece : List Char} {r : PortRange} (h : readPiece t piece = .ok r) :
    r.transport = t := by
  unfold readPiece at h
  split at h
  · obtain ⟨a, -, h⟩ := bind_eq_ok_iff.1 h
    obtain ⟨b, -, h⟩ := bind_eq_ok_iff.1 h
    obtain ⟨ends, -, h⟩ := bind_eq_ok_iff.1 h
    dsimp only at h
    split at h <;> cases h
    rfl
  · obtain ⟨a, -, h⟩ := bind_eq_ok_iff.1 h
    obtain ⟨ends, -, h⟩ := bind_eq_ok_iff.1 h
    dsimp only at h
    split at h <;> cases h
    rfl

/-! ### Expressions -/

/-- An expression reads as ranges exactly when its pieces read as them one by one. -/
theorem readRanges_eq_ok_iff {t : Transport} {expr : List Char} {rs : List PortRange} :
    readRanges t expr = .ok rs ↔ List.Forall₂ (fun piece r => readPiece t piece = .ok r) (rangePieces expr) rs :=
  mapM_eq_ok_iff

theorem transport_of_readRanges {t : Transport} {expr : List Char} {rs : List PortRange}
    (h : readRanges t expr = .ok rs) : ∀ r ∈ rs, r.transport = t := by
  intro r hr
  obtain ⟨i, hi, rfl⟩ := List.mem_iff_getElem.1 hr
  obtain ⟨hlength, hpieces⟩ := List.forall₂_iff_get.1 (readRanges_eq_ok_iff.1 h)
  exact transport_of_readPiece (hpieces i (hlength ▸ hi) hi)

theorem rangePieces_eq_nil_iff {expr : List Char} :
    rangePieces expr = [] ↔ ∀ c ∈ expr, c = ',' ∨ Text.isBlank c = true := by
  rw [← Text.forall_mem_splitOn_iff, rangePieces, List.filter_eq_nil_iff]
  simp only [List.forall_mem_map, decide_eq_true_eq, ne_eq, not_not, Text.trim_eq_nil_iff]

theorem readRanges_eq_nil_iff {t : Transport} {expr : List Char} :
    readRanges t expr = .ok [] ↔ ∀ c ∈ expr, c = ',' ∨ Text.isBlank c = true := by
  rw [readRanges_eq_ok_iff, List.forall₂_nil_right_iff, rangePieces_eq_nil_iff]

theorem rangePieces_renderRanges (rs : List PortRange) : rangePieces (renderRanges rs) = rs.map PortRange.render := by
  by_cases hrs : rs = []
  · subst hrs
    rfl
  · have hsplit : (renderRanges rs).splitOn ',' = rs.map PortRange.render := by
      apply List.splitOn_intercalate
      · intro piece hpiece
        obtain ⟨r, -, rfl⟩ := List.mem_map.1 hpiece
        exact comma_not_mem_render r
      · rwa [ne_eq, List.map_eq_nil_iff]
    have htrim : Text.trim ∘ PortRange.render = PortRange.render := funext trim_render
    rw [rangePieces, hsplit, List.map_map, htrim, List.filter_eq_self]
    intro piece hpiece
    obtain ⟨r, -, rfl⟩ := List.mem_map.1 hpiece
    exact decide_eq_true r.render_ne_nil

theorem readRanges_renderRanges {t : Transport} {rs : List PortRange} (h : ∀ r ∈ rs, r.transport = t) :
    readRanges t (renderRanges rs) = .ok rs := by
  rw [readRanges_eq_ok_iff, rangePieces_renderRanges, List.forall₂_map_left_iff, List.forall₂_same]
  intro r hr
  rw [← h r hr]
  exact readPiece_render r

/-! ### Sets -/

namespace PortSet

theorem read_eq_ok_iff {tcp udp : String} {s : PortSet} :
    read tcp udp = .ok s ↔ readRanges .tcp tcp.toList = .ok s.tcp ∧ readRanges .udp udp.toList = .ok s.udp := by
  unfold read
  simp only [bind_eq_ok_iff]
  constructor
  · rintro ⟨t, ht, u, hu, hs⟩
    cases hs
    exact ⟨ht, hu⟩
  · rintro ⟨ht, hu⟩
    exact ⟨s.tcp, ht, s.udp, hu, rfl⟩

/-- A set that was read is read again from what is written of it. -/
theorem read_expressions {tcp udp : String} {s : PortSet} (h : read tcp udp = .ok s) :
    read s.tcpExpression s.udpExpression = .ok s := by
  obtain ⟨htcp, hudp⟩ := read_eq_ok_iff.1 h
  rw [read_eq_ok_iff, tcpExpression, udpExpression, String.toList_ofList, String.toList_ofList]
  exact ⟨readRanges_renderRanges (transport_of_readRanges htcp), readRanges_renderRanges (transport_of_readRanges hudp)⟩

theorem readChecked_expressions {tcp udp : String} {s : PortSet} (h : readChecked tcp udp = .ok s) :
    readChecked s.tcpExpression s.udpExpression = .ok s := by
  rw [readChecked_eq_ok_iff] at h ⊢
  exact ⟨read_expressions h.1, h.2⟩

/-- The set that is read is empty exactly when both expressions consist of commas and blanks. -/
theorem read_eq_empty_iff {tcp udp : String} :
    read tcp udp = .ok empty ↔ ∀ expr ∈ [tcp, udp], ∀ c ∈ expr.toList, c = ',' ∨ Text.isBlank c = true := by
  rw [read_eq_ok_iff, empty, readRanges_eq_nil_iff, readRanges_eq_nil_iff, List.forall_mem_cons,
    List.forall_mem_singleton]

/-! ### Writing again -/

/-- What is written of both transports. -/
def expressions (s : PortSet) : String × String := (s.tcpExpression, s.udpExpression)

/-- Expressions after they were read and written so many times. -/
def rewritten : Nat → String × String → Except PortError (String × String)
  | 0, es => .ok es
  | n + 1, es => do
    let s ← read es.1 es.2
    rewritten n s.expressions

theorem readRanges_tcpExpression_iff {t : Transport} {s : PortSet} :
    readRanges t s.tcpExpression.toList = .ok s.tcp ↔ ∀ r ∈ s.tcp, r.transport = t := by
  rw [tcpExpression, String.toList_ofList]
  exact ⟨transport_of_readRanges, readRanges_renderRanges⟩

theorem readRanges_udpExpression_iff {t : Transport} {s : PortSet} :
    readRanges t s.udpExpression.toList = .ok s.udp ↔ ∀ r ∈ s.udp, r.transport = t := by
  rw [udpExpression, String.toList_ofList]
  exact ⟨transport_of_readRanges, readRanges_renderRanges⟩

/-- What is written of a set that was read stays as it is. -/
theorem rewritten_expressions {tcp udp : String} {s : PortSet} (h : read tcp udp = .ok s) (n : Nat) :
    rewritten n s.expressions = .ok s.expressions := by
  induction n with
  | zero => rfl
  | succ n ih =>
    have hread : read s.expressions.1 s.expressions.2 = .ok s := read_expressions h
    rw [rewritten, hread]
    exact ih

/-- Ranges are read again from what is written of them exactly if they are of the transport they are read for.  So a
pair of expressions reads as what is written of its reading does, and from the first writing on nothing changes. -/
theorem read_inverts_writing :
    (∀ (t : Transport) (s : PortSet),
      (readRanges t s.tcpExpression.toList = .ok s.tcp ↔ ∀ r ∈ s.tcp, r.transport = t) ∧
        (readRanges t s.udpExpression.toList = .ok s.udp ↔ ∀ r ∈ s.udp, r.transport = t)) ∧
      ∀ tcp udp : String,
        (read tcp udp >>= fun s => read s.tcpExpression s.udpExpression) = read tcp udp ∧
          ∀ n, rewritten (n + 1) (tcp, udp) = (read tcp udp).map expressions := by
  refine ⟨fun t s => ⟨readRanges_tcpExpression_iff, readRanges_udpExpression_iff⟩, ?_⟩
  intro tcp udp
  cases hread : read tcp udp with
  | error e =>
    refine ⟨rfl, fun n => ?_⟩
    rw [rewritten, hread]
    rfl
  | ok s =>
    refine ⟨?_, fun n => ?_⟩
    · exact bind_eq_ok_iff.2 ⟨s, rfl, read_expressions hread⟩
    · rw [rewritten, hread]
      exact rewritten_expressions hread n

end PortSet

end AccessGateway
