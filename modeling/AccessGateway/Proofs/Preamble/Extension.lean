import AccessGateway.Proofs.Preamble.Grammar

/-!
# Reading a growing buffer

A buffer that is read as a preamble, or refused, stays so when bytes are added, but for one thing: a buffer that has
reached the greatest length undecided is refused as too long, and with more bytes its reason may become another one.
Key facts: a preamble is read from every buffer that holds it (`read_append_eq_ok_some_iff`), a refusal is for good
(`read_append_of_error`), and "incomplete" is said only of an undecided buffer at the end of its input
(`readComplete_eq_incomplete_iff`).
-/

namespace AccessGateway.Preamble

/-! ### Preambles -/

/-- The front of a preamble that a buffer holds decides. -/
theorem read_append_eq_ok_some_iff {buffer : List UInt8} {p : Preamble} (h : p.headerLength ≤ buffer.length)
    (more : List UInt8) : read (buffer ++ more) = .ok (some p) ↔ read buffer = .ok (some p) := by
  rw [read_eq_ok_some_iff_take, List.take_append_of_le_length h, ← read_eq_ok_some_iff_take]

theorem headerLength_le_of_read {buffer : List UInt8} {p : Preamble} (h : read buffer = .ok (some p)) :
    p.headerLength ≤ buffer.length ∧ p.headerLength ≤ maxLength := by
  obtain ⟨front, rest, rfl, hform⟩ := read_eq_ok_some_iff.1 h
  rw [hform.length_eq, List.length_append]
  exact ⟨by omega, hform.length_le⟩

theorem read_append_of_ok_some {buffer : List UInt8} {p : Preamble} (h : read buffer = .ok (some p))
    (more : List UInt8) : read (buffer ++ more) = .ok (some p) :=
  (read_append_eq_ok_some_iff (headerLength_le_of_read h).1 more).2 h

/-- An undecided buffer has not reached the greatest length. -/
theorem length_lt_of_read_eq_ok_none {buffer : List UInt8} (h : read buffer = .ok none) :
    buffer.length < maxLength := by
  rw [read_eq] at h
  split at h
  · cases h
  · split at h
    · cases h
    · omega
  · split at h <;> cases h

/-! ### Readers of fields -/

/-- What a reader says of a buffer it says of every longer one, with more bytes after the field. -/
structure Settles (r : FieldReader) : Prop where
  error {bs : List UInt8} {e : PreambleError} (h : r bs = .error e) (more : List UInt8) : r (bs ++ more) = .error e
  field {bs field rest : List UInt8} (h : r bs = .ok (some (field, rest))) (more : List UInt8) :
    r (bs ++ more) = .ok (some (field, rest ++ more))

theorem settles_readField (position : Nat) : Settles (readField position) where
  error {bs e} h more := by
    unfold readField at h ⊢
    split at h
    · dsimp only [List.cons_append] at h ⊢
      split at h
      · rename_i hmax
        rw [if_pos hmax]
        exact h
      · split at h <;> cases h
    · cases h
  field {bs field rest} h more := by
    obtain ⟨rfl, hmax⟩ := readField_eq_ok_some_iff.1 h
    exact readField_eq_ok_some_iff.2 ⟨by rw [List.append_assoc], hmax⟩

theorem compatible_of_append {marker buffer more : List UInt8} (h : compatible marker (buffer ++ more) = true) :
    compatible marker buffer = true := by
  simp only [compatible, Bool.or_eq_true, List.isPrefixOf_iff_prefix] at h ⊢
  rcases h with h | h
  · exact List.prefix_or_prefix_of_prefix h (List.prefix_append buffer more)
  · exact .inr ((List.prefix_append buffer more).trans h)

private theorem splitFirst?_append {bs line rest : List UInt8} (h : Text.splitFirst? lineFeed bs = some (line, rest))
    (more : List UInt8) : Text.splitFirst? lineFeed (bs ++ more) = some (line, rest ++ more) := by
  obtain ⟨rfl, hlf⟩ := Text.splitFirst?_eq_some_iff.1 h
  exact Text.splitFirst?_eq_some_iff.2 ⟨by simp, hlf⟩

theorem settles_readLine {marker : List UInt8} (hm : lineFeed ∉ marker) (e : PreambleError) :
    Settles (readLine marker e) where
  error {bs e'} h more := by
    unfold readLine at h ⊢
    by_cases hmore : compatible marker (bs ++ more)
    · rw [if_pos (compatible_of_append hmore)] at h
      rw [if_pos hmore]
      split at h
      · cases h
      · rename_i line rest hline
        rw [splitFirst?_append hline]
        dsimp only
        split at h
        · exact h
        · cases h
    · -- with too few bytes to tell a line is refused for the same reason as with enough
      have he : e = e' := by
        split at h
        · split at h
          · cases h
          · split at h
            · exact Except.error.inj h
            · cases h
        · exact Except.error.inj h
      rw [if_neg hmore, he]
  field {bs field rest} h more := by
    obtain ⟨rfl, hlf⟩ := (readLine_eq_ok_some_iff hm).1 h
    exact (readLine_eq_ok_some_iff hm).2 ⟨by simp, hlf⟩

/-! ### Refusals -/

theorem readPair_append_of_error {first : FieldReader} {second : List UInt8 → FieldReader}
    {finish : List UInt8 → List UInt8 → Except PreambleError Preamble} (hfirst : Settles first)
    (hsecond : ∀ token, Settles (second token)) {bs : List UInt8} {e : PreambleError}
    (h : readPair first second finish bs = .error e) (more : List UInt8) :
    readPair first second finish (bs ++ more) = .error e := by
  unfold readPair at h ⊢
  split at h
  · rename_i e' htoken
    rw [hfirst.error htoken more]
    exact h
  · cases h
  · rename_i token rest htoken
    rw [hfirst.field htoken more]
    dsimp only
    split at h
    · rename_i e' htarget
      rw [(hsecond token).error htarget more]
      exact h
    · cases h
    · rename_i target rest' htarget
      rw [(hsecond token).field htarget more]
      exact h

theorem readEither_append_of_error {buffer : List UInt8} {e : PreambleError} (h : readEither buffer = .error e)
    (more : List UInt8) : readEither (buffer ++ more) = .error e := by
  unfold readEither at h ⊢
  split at h
  · rename_i rest hmagic
    obtain rfl := Text.strip?_eq_some_iff.1 hmagic
    rw [List.append_assoc, Text.strip?_eq_some_iff.2 rfl]
    dsimp only
    rw [readBinary_eq] at h ⊢
    exact readPair_append_of_error (settles_readField 4) (fun token => settles_readField (6 + token.length)) h more
  · rename_i hmagic
    split at h
    · cases h
    · rename_i hpre
      -- no longer buffer starts with the magic bytes either, or is a part of them
      have hmagic' : Text.strip? magic (buffer ++ more) = none := by
        rcases hs : Text.strip? magic (buffer ++ more) with _ | rest
        · rfl
        · have hstart : magic <+: buffer ++ more := ⟨rest, (Text.strip?_eq_some_iff.1 hs).symm⟩
          rcases List.prefix_or_prefix_of_prefix hstart (List.prefix_append buffer more) with ⟨r, hr⟩ | hp
          · rw [Text.strip?_eq_some_iff.2 hr.symm] at hmagic
            cases hmagic
          · exact absurd (List.isPrefixOf_iff_prefix.2 hp) hpre
      have hpre' : ¬(buffer ++ more).isPrefixOf magic = true := fun hp =>
        hpre (List.isPrefixOf_iff_prefix.2 ((List.prefix_append buffer more).trans (List.isPrefixOf_iff_prefix.1 hp)))
      rw [hmagic']
      dsimp only
      rw [if_neg hpre']
      rw [readText_eq] at h ⊢
      exact readPair_append_of_error (settles_readLine (by decide) _) (fun _ => settles_readLine (by decide) _) h more

/-- A preamble that is too long as a whole is there as a whole. -/
private theorem maxLength_le_of_readEither {buffer : List UInt8} {p : Preamble} (h : readEither buffer = .ok (some p))
    (hmax : maxLength < p.headerLength) : maxLength ≤ buffer.length := by
  unfold readEither at h
  split at h
  · obtain ⟨_, _, _, _, _, _, _, hle⟩ := readBinary_eq_ok_some_iff.1 h
    omega
  · split at h
    · cases h
    · obtain ⟨token, target, rest, rfl, -, -, -, -, hn⟩ := readText_eq_ok_some_iff.1 h
      have hlen := length_textForm token target
      rw [← textForm_append, List.length_append]
      omega

/-- A refused buffer is refused with more bytes too, for the same reason unless it was too long. -/
theorem read_append_of_error {buffer : List UInt8} {e : PreambleError} (h : read buffer = .error e)
    (more : List UInt8) : ∃ e', read (buffer ++ more) = .error e' ∧ (e = .tooLong ∨ e' = e) := by
  rcases heither : readEither buffer with e' | p
  · have he : e' = e := by
      rw [read_eq, heither] at h
      exact Except.error.inj h
    refine ⟨e', ?_, .inr he⟩
    rw [read_eq, readEither_append_of_error heither more]
  · have htooLong : e = .tooLong ∧ maxLength ≤ buffer.length := by
      rw [read_eq, heither] at h
      rcases p with _ | p
      · dsimp only at h
        split at h
        · rename_i hfull
          exact ⟨(Except.error.inj h).symm, hfull⟩
        · cases h
      · dsimp only at h
        split at h
        · rename_i hmax
          exact ⟨(Except.error.inj h).symm, maxLength_le_of_readEither heither hmax⟩
        · cases h
    obtain ⟨rfl, hfull⟩ := htooLong
    rcases hmore : read (buffer ++ more) with e' | _ | q
    · exact ⟨e', rfl, .inl rfl⟩
    · have hlt := length_lt_of_read_eq_ok_none hmore
      rw [List.length_append] at hlt
      omega
    · have hq := (headerLength_le_of_read hmore).2
      rw [(read_append_eq_ok_some_iff (by omega) more).1 hmore] at h
      cases h

/-! ### Buffers that end -/

/-- No reader of fields says that the bytes are at an end. -/
private theorem readPair_ne_incomplete {first : FieldReader} {second : List UInt8 → FieldReader}
    {finish : List UInt8 → List UInt8 → Except PreambleError Preamble} (hfirst : ∀ bs, first bs ≠ .error .incomplete)
    (hsecond : ∀ token bs, second token bs ≠ .error .incomplete)
    (hfinish : ∀ token target, finish token target ≠ .error .incomplete) (bs : List UInt8) :
    readPair first second finish bs ≠ .error .incomplete := by
  intro h
  unfold readPair at h
  split at h
  · rename_i e htoken
    exact hfirst bs (Except.error.inj h ▸ htoken)
  · cases h
  · rename_i token rest _
    split at h
    · rename_i e htarget
      exact hsecond token rest (Except.error.inj h ▸ htarget)
    · cases h
    · rename_i target _ _
      rcases hp : finish token target with e | p
      · rw [hp] at h
        exact hfinish token target (hp.trans (congrArg _ (Except.error.inj h)))
      · rw [hp] at h
        cases h

private theorem readField_ne_incomplete (position : Nat) (bs : List UInt8) :
    readField position bs ≠ .error .incomplete := by
  intro h
  unfold readField at h
  split at h
  · dsimp only at h
    split at h
    · cases h
    · split at h <;> cases h
  · cases h

private theorem readLine_ne_incomplete {e : PreambleError} (he : e ≠ .incomplete) (marker bs : List UInt8) :
    readLine marker e bs ≠ .error .incomplete := by
  intro h
  unfold readLine at h
  split at h
  · split at h
    · cases h
    · split at h
      · exact he (Except.error.inj h)
      · cases h
  · exact he (Except.error.inj h)

private theorem ofFields_ne_incomplete (token target : List UInt8) (n : Nat) :
    ofFields token target n ≠ .error .incomplete := by
  unfold ofFields
  rcases Text.text? token with _ | t
  · nofun
  · rcases Text.text? target with _ | h
    · nofun
    · dsimp only [bind, Except.bind]
      split
      · nofun
      · split <;> nofun

/-- A reader that may be given more bytes never says that they are at an end. -/
theorem read_ne_incomplete (buffer : List UInt8) : read buffer ≠ .error .incomplete := by
  have heither : readEither buffer ≠ .error .incomplete := by
    unfold readEither
    split
    · rw [readBinary_eq]
      exact readPair_ne_incomplete (readField_ne_incomplete 4) (fun _ => readField_ne_incomplete _)
        (fun _ _ => ofFields_ne_incomplete _ _ _) _
    · split
      · nofun
      · rw [readText_eq]
        exact readPair_ne_incomplete (readLine_ne_incomplete (by decide) _)
          (fun _ => readLine_ne_incomplete (by decide) _) (fun _ _ => ofFields_ne_incomplete _ _ _) _
  intro h
  rw [read_eq] at h
  split at h
  · rename_i hread
    exact heither (hread.trans h)
  · split at h <;> cases h
  · split at h <;> cases h

theorem readComplete_eq (buffer : List UInt8) :
    readComplete buffer =
      match read buffer with
      | .error e => .error e
      | .ok none => .error .incomplete
      | .ok (some p) => .ok p := by
  unfold readComplete
  rcases read buffer with e | _ | p <;> rfl

theorem readComplete_eq_ok_iff {buffer : List UInt8} {p : Preamble} :
    readComplete buffer = .ok p ↔ read buffer = .ok (some p) := by
  rw [readComplete_eq]
  rcases read buffer with e | _ | q <;> simp

/-- A buffer that may not grow is incomplete exactly when it is undecided. -/
theorem readComplete_eq_incomplete_iff {buffer : List UInt8} :
    readComplete buffer = .error .incomplete ↔ read buffer = .ok none := by
  have hne := read_ne_incomplete buffer
  rw [readComplete_eq]
  rcases hread : read buffer with e | _ | q
  · rw [hread] at hne
    simpa using hne
  · simp
  · simp

end AccessGateway.Preamble
