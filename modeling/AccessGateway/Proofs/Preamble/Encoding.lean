import AccessGateway.Proofs.Preamble.Grammar

/-!
# Reading what was written

Both written forms of a token and a target are read back, in front of any payload, exactly when the two are read as
themselves at all: they are not empty, have no blanks at their ends, fit into the greatest length and, for the text
form, contain no line feed (`read_encode_iff`).  The binary form cuts a field of more than 65535 bytes, and the length
in front of the cut field is then more than the reader allows.
-/

namespace AccessGateway.Preamble

/-- A text that stands for itself: not empty and without blanks at its ends. -/
def IsField (t : String) : Prop := t ≠ "" ∧ Text.trimmed t = t

instance (t : String) : Decidable (IsField t) := inferInstanceAs (Decidable (t ≠ "" ∧ Text.trimmed t = t))

private theorem denotes_bytes_iff {s t : String} : Denotes (Text.bytes s) t ↔ t = Text.trimmed s ∧ t ≠ "" := by
  simp [Denotes]

theorem isField_iff {t : String} : IsField t ↔ Denotes (Text.bytes t) t := by
  rw [denotes_bytes_iff, IsField, and_comm, eq_comm]

/-- The text of a field has no line feed if the field has none. -/
private theorem lineFeed_not_mem_bytes {field : List UInt8} {t : String} (h : Denotes field t)
    (hlf : lineFeed ∉ field) : lineFeed ∉ Text.bytes t := by
  obtain ⟨s, rfl, rfl, -⟩ := denotes_iff.1 h
  intro hmem
  have hc : '\n' ∈ (Text.trimmed s).toList := (Text.mem_bytes_iff (by decide)).1 hmem
  rw [Text.trimmed, String.toList_ofList] at hc
  exact hlf ((Text.mem_bytes_iff (by decide)).2 (Text.mem_of_mem_trim hc))

/-! ### The text form -/

theorem encodeText_eq (t h : String) : encodeText t h = textForm (Text.bytes t) (Text.bytes h) := by
  simp [encodeText, textForm]

theorem length_encodeText (t h : String) : (encodeText t h).length = 13 + t.utf8ByteSize + h.utf8ByteSize := by
  rw [encodeText_eq, length_textForm, Text.length_bytes, Text.length_bytes]

/-- The text form in front of a payload is read back. -/
theorem read_encodeText {t h : String} (ht : IsField t) (hh : IsField h) (htlf : '\n' ∉ t.toList)
    (hhlf : '\n' ∉ h.toList) (hmax : 13 + t.utf8ByteSize + h.utf8ByteSize ≤ maxLength) (payload : List UInt8) :
    read (encodeText t h ++ payload) = .ok (some ⟨t, h, (encodeText t h).length⟩) := by
  refine read_eq_ok_some_iff.2 ⟨_, payload, rfl, ⟨Text.bytes t, Text.bytes h, ?_, isField_iff.1 ht, isField_iff.1 hh⟩,
    rfl, ?_⟩
  · rw [encodeText_eq]
    exact .text (fun hm => htlf ((Text.mem_bytes_iff (by decide)).1 hm))
      (fun hm => hhlf ((Text.mem_bytes_iff (by decide)).1 hm))
  · rw [length_encodeText]
    exact hmax

/-- A text form with a line feed in no field tells what its fields are. -/
private theorem textForm_inj {token target token' target' : List UInt8} (h : textForm token target = textForm token' target')
    (hlf : lineFeed ∉ token) (hlf' : lineFeed ∉ token') (htlf : lineFeed ∉ target) (htlf' : lineFeed ∉ target') :
    token = token' ∧ target = target' := by
  simp only [textForm, List.append_assoc] at h
  obtain ⟨rfl, hrest⟩ := Text.append_cons_inj hlf hlf' (List.append_cancel_left h)
  obtain ⟨rfl, -⟩ := Text.append_cons_inj htlf htlf' (List.append_cancel_left hrest)
  exact ⟨rfl, rfl⟩

/-! ### The binary form -/

theorem encodeField_eq (field : List UInt8) : encodeField field = prefixed (field.take 65535) := by
  unfold encodeField prefixed
  rw [List.length_take, Nat.min_comm]
  dsimp only
  rw [List.take_eq_take_iff.2 (show min (min 65535 field.length) field.length = min 65535 field.length by omega)]

theorem encodeBinary_eq (t h : String) :
    encodeBinary t h = binaryForm ((Text.bytes t).take 65535) ((Text.bytes h).take 65535) := by
  simp [encodeBinary, binaryForm, encodeField_eq]

theorem length_encodeBinary (t h : String) :
    (encodeBinary t h).length = 8 + min 65535 t.utf8ByteSize + min 65535 h.utf8ByteSize := by
  rw [encodeBinary_eq, length_binaryForm, List.length_take, List.length_take, Text.length_bytes, Text.length_bytes]

/-- The bytes of a text that the length in front of a field can count are not cut. -/
private theorem take_bytes {t : String} (h : t.utf8ByteSize ≤ 65535) : (Text.bytes t).take 65535 = Text.bytes t :=
  List.take_of_length_le (by rw [Text.length_bytes]; exact h)

/-- The binary form in front of a payload is read back. -/
theorem read_encodeBinary {t h : String} (ht : IsField t) (hh : IsField h)
    (hmax : 8 + t.utf8ByteSize + h.utf8ByteSize ≤ maxLength) (payload : List UInt8) :
    read (encodeBinary t h ++ payload) = .ok (some ⟨t, h, (encodeBinary t h).length⟩) := by
  have : maxLength = 8192 := rfl
  refine read_eq_ok_some_iff.2 ⟨_, payload, rfl, ⟨Text.bytes t, Text.bytes h, ?_, isField_iff.1 ht, isField_iff.1 hh⟩,
    rfl, ?_⟩
  · rw [encodeBinary_eq, take_bytes (by omega), take_bytes (by omega)]
    exact .binary
  · rw [length_encodeBinary]
    omega

/-- Fields that their lengths can count, with these lengths in front, stand in one way only. -/
private theorem prefixed_append_inj {a b c d : List UInt8} (ha : a.length < 65536) (hb : b.length < 65536)
    (h : prefixed a ++ c = prefixed b ++ d) : a = b ∧ c = d := by
  simp only [prefixed, List.cons_append, List.cons.injEq] at h
  obtain ⟨hhigh, hlow, h⟩ := h
  have hhigh := congrArg UInt8.toNat hhigh
  have hlow := congrArg UInt8.toNat hlow
  rw [UInt8.toNat_ofNat', UInt8.toNat_ofNat'] at hhigh hlow
  exact List.append_inj h (by omega)

private theorem readEither_magic (rest : List UInt8) : readEither (magic ++ rest) = readBinary rest := by
  unfold readEither
  rw [Text.strip?_eq_some_iff.2 rfl]

/-- Whatever does not fit is refused as too long, also where the written fields were cut. -/
theorem read_encodeBinary_eq_tooLong {t h : String} (hmax : maxLength < 8 + t.utf8ByteSize + h.utf8ByteSize)
    (payload : List UInt8) : read (encodeBinary t h ++ payload) = .error .tooLong := by
  have : maxLength = 8192 := rfl
  have htoken : ((Text.bytes t).take 65535).length = min 65535 t.utf8ByteSize := by
    rw [List.length_take, Text.length_bytes]
  have htarget : ((Text.bytes h).take 65535).length = min 65535 h.utf8ByteSize := by
    rw [List.length_take, Text.length_bytes]
  rw [encodeBinary_eq, binaryForm, List.append_assoc, List.append_assoc, read_eq, readEither_magic, readBinary_eq,
    readPair, readField_prefixed (by omega)]
  by_cases hfirst : maxLength < 4 + 2 + ((Text.bytes t).take 65535).length
  · rw [if_pos hfirst]
  · rw [if_neg hfirst]
    dsimp only
    rw [readField_prefixed (by omega), if_pos (by omega)]

/-! ### Both forms -/

private theorem binaryForm_ne_textForm (token target token' target' : List UInt8) :
    binaryForm token target ≠ textForm token' target' := by
  simp [binaryForm, textForm, magic, tokenMarker]

/-- What is read from the front of a length stands in it. -/
private theorem written_of_read {front payload : List UInt8} {t h : String}
    (hread : read (front ++ payload) = .ok (some ⟨t, h, front.length⟩)) :
    front.length ≤ maxLength ∧ ∃ token target, Written token target front ∧ Denotes token t ∧ Denotes target h := by
  obtain ⟨front', rest, hsplit, hw, hn, hmax⟩ := read_eq_ok_some_iff.1 hread
  obtain ⟨rfl, -⟩ := List.append_inj hsplit hn
  exact ⟨hmax, hw⟩

private theorem isField_of_read_encodeText {t h : String} {payload : List UInt8}
    (hread : read (encodeText t h ++ payload) = .ok (some ⟨t, h, (encodeText t h).length⟩)) :
    '\n' ∉ t.toList ∧ '\n' ∉ h.toList ∧ IsField t ∧ IsField h := by
  obtain ⟨-, token, target, hw, ht, hh⟩ := written_of_read hread
  rw [encodeText_eq] at hw
  generalize hfront : textForm (Text.bytes t) (Text.bytes h) = front at hw
  cases hw with
  | binary => exact absurd hfront.symm (binaryForm_ne_textForm _ _ _ _)
  | text htoken htarget =>
    have htlf := lineFeed_not_mem_bytes ht htoken
    have hhlf := lineFeed_not_mem_bytes hh htarget
    obtain ⟨rfl, rfl⟩ := textForm_inj hfront htlf htoken hhlf htarget
    exact ⟨fun hm => htlf ((Text.mem_bytes_iff (by decide)).2 hm), fun hm => hhlf ((Text.mem_bytes_iff (by decide)).2 hm),
      isField_iff.2 ht, isField_iff.2 hh⟩

private theorem isField_of_read_encodeBinary {t h : String} {payload : List UInt8}
    (hread : read (encodeBinary t h ++ payload) = .ok (some ⟨t, h, (encodeBinary t h).length⟩)) :
    IsField t ∧ IsField h ∧ 8 + t.utf8ByteSize + h.utf8ByteSize ≤ maxLength := by
  have : maxLength = 8192 := rfl
  obtain ⟨hmax, token, target, hw, ht, hh⟩ := written_of_read hread
  rw [length_encodeBinary] at hmax
  rw [encodeBinary_eq, take_bytes (by omega), take_bytes (by omega)] at hw
  generalize hfront : binaryForm (Text.bytes t) (Text.bytes h) = front at hw
  cases hw with
  | text htoken htarget => exact absurd hfront (binaryForm_ne_textForm _ _ _ _)
  | binary =>
    have hlen := congrArg List.length hfront
    rw [length_binaryForm, length_binaryForm, Text.length_bytes, Text.length_bytes] at hlen
    obtain ⟨rfl, hrest⟩ := prefixed_append_inj (by rw [Text.length_bytes]; omega) (by omega)
      (List.append_cancel_left hfront)
    obtain rfl : Text.bytes h = target := (List.cons.inj (List.cons.inj hrest).2).2
    exact ⟨isField_iff.2 ht, isField_iff.2 hh, by omega⟩

/-- What is written is read back, in front of any payload, exactly when both texts are read as themselves: they are not
empty, have no blanks at their ends, fit into 8192 bytes together with the rest of the form and, in the text form,
have no line feed.  A text of more than 65535 bytes, which the binary form cuts, is refused and never read shortened. -/
theorem read_encode_iff (t h : String) (payload : List UInt8) :
    (read (encodeText t h ++ payload) = .ok (some ⟨t, h, (encodeText t h).length⟩) ↔
      ('\n' ∉ t.toList ∧ '\n' ∉ h.toList) ∧ (t ≠ "" ∧ Text.trimmed t = t) ∧ (h ≠ "" ∧ Text.trimmed h = h) ∧
        13 + t.utf8ByteSize + h.utf8ByteSize ≤ 8192) ∧
    (read (encodeBinary t h ++ payload) = .ok (some ⟨t, h, (encodeBinary t h).length⟩) ↔
      (t ≠ "" ∧ Text.trimmed t = t) ∧ (h ≠ "" ∧ Text.trimmed h = h) ∧ 8 + t.utf8ByteSize + h.utf8ByteSize ≤ 8192) ∧
    (65535 < t.utf8ByteSize ∨ 65535 < h.utf8ByteSize → read (encodeBinary t h ++ payload) = .error .tooLong) := by
  refine ⟨⟨fun hread => ?_, ?_⟩, ⟨isField_of_read_encodeBinary, ?_⟩, fun hlong => ?_⟩
  · obtain ⟨htlf, hhlf, ht, hh⟩ := isField_of_read_encodeText hread
    have hmax := (written_of_read hread).1
    rw [length_encodeText] at hmax
    exact ⟨⟨htlf, hhlf⟩, ht, hh, hmax⟩
  · rintro ⟨⟨htlf, hhlf⟩, ht, hh, hmax⟩
    exact read_encodeText ht hh htlf hhlf hmax payload
  · rintro ⟨ht, hh, hmax⟩
    exact read_encodeBinary ht hh hmax payload
  · have : maxLength = 8192 := rfl
    exact read_encodeBinary_eq_tooLong (by omega) payload

/-- A token of 65536 bytes is refused although its cut form would be a whole field. -/
theorem read_encode_long_token :
    65535 < (String.ofList (List.replicate 65536 'a')).utf8ByteSize ∧
      read (encodeBinary (String.ofList (List.replicate 65536 'a')) "h:1" ++ [0x2A]) = .error .tooLong := by
  have hlen : (String.ofList (List.replicate 65536 'a')).utf8ByteSize = 65536 := by
    rw [← Text.length_bytes, Text.bytes_eq_flatMap, String.toList_ofList, List.length_flatMap, List.map_replicate,
      List.sum_replicate_nat]
    rfl
  exact ⟨by omega, (read_encode_iff _ "h:1" [0x2A]).2.2 (.inl (by omega))⟩

end AccessGateway.Preamble
