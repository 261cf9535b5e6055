import AccessGateway.Text.Utf8

/-!
# ASCII within UTF-8

A byte below 128 occurs in UTF-8 only as the character it stands for, never as a part of another one.  Key facts:
the bytes of a text contain such a byte exactly when the text contains its character (`mem_bytes_iff`), and bytes
that end in one are a text exactly when the bytes before it are (`eq_bytes_of_append_ascii`).
-/

namespace AccessGateway.Text

/-- The bytes of a text, character by character. -/
theorem bytes_eq_flatMap (s : String) : bytes s = s.toList.flatMap String.utf8EncodeChar := by
  unfold bytes
  conv => lhs; rw [← String.ofList_toList (s := s)]
  rw [String.toByteArray_ofList, List.utf8Encode, List.data_toByteArray]

@[simp] theorem bytes_append (s t : String) : bytes (s ++ t) = bytes s ++ bytes t := by
  simp [bytes_eq_flatMap]

theorem length_bytes (s : String) : (bytes s).length = s.utf8ByteSize := by
  unfold bytes
  rw [Array.length_toList, ← String.size_toByteArray, ByteArray.size]

/-- A byte below 128 is in the encoding of a character only as the whole of it. -/
theorem utf8EncodeChar_eq_of_mem {c : Char} {b : UInt8} (hb : b.toNat < 128) (h : b ∈ String.utf8EncodeChar c) :
    c.toNat = b.toNat ∧ String.utf8EncodeChar c = [b] := by
  have hv : c.val.toNat = c.toNat := rfl
  have far (n : Nat) (hn : 128 ≤ n % 256) : b ≠ UInt8.ofNat n := by
    rintro rfl
    rw [UInt8.toNat_ofNat'] at hb
    omega
  unfold String.utf8EncodeChar at h ⊢
  dsimp only at h ⊢
  split at h
  · rename_i hc
    obtain rfl := List.mem_singleton.1 h
    refine ⟨?_, if_pos hc⟩
    rw [UInt8.toNat_ofNat']
    omega
  · -- every byte of a longer encoding has its highest bit set
    exfalso
    split at h
    · simp only [List.mem_cons, List.not_mem_nil, or_false] at h
      rcases h with h | h <;> exact far _ (by omega) h
    · split at h
      · simp only [List.mem_cons, List.not_mem_nil, or_false] at h
        rcases h with h | h | h <;> exact far _ (by omega) h
      · simp only [List.mem_cons, List.not_mem_nil, or_false] at h
        rcases h with h | h | h | h <;> exact far _ (by omega) h

/-- The encoding of an ASCII character is one byte. -/
theorem utf8EncodeChar_ascii {c : Char} (hc : c.toNat < 128) :
    String.utf8EncodeChar c = [UInt8.ofNat c.toNat] := by
  have hv : c.val.toNat = c.toNat := rfl
  unfold String.utf8EncodeChar
  dsimp only
  rw [if_pos (by omega), hv]

/-- The bytes of a text contain an ASCII byte exactly when the text contains the character. -/
theorem mem_bytes_iff {c : Char} (hc : c.toNat < 128) {s : String} : UInt8.ofNat c.toNat ∈ bytes s ↔ c ∈ s.toList := by
  rw [bytes_eq_flatMap, List.mem_flatMap]
  have hb : (UInt8.ofNat c.toNat).toNat = c.toNat := by
    rw [UInt8.toNat_ofNat']
    omega
  constructor
  · rintro ⟨d, hd, h⟩
    have := (utf8EncodeChar_eq_of_mem (by omega) h).1
    obtain rfl : d = c := Char.toNat_inj.1 (by omega)
    exact hd
  · intro h
    exact ⟨c, h, by rw [utf8EncodeChar_ascii hc]; exact List.mem_singleton.2 rfl⟩

/-- The bytes of an ASCII text are its characters. -/
theorem bytes_eq_map {s : String} (hs : ∀ c ∈ s.toList, c.toNat < 128) :
    bytes s = s.toList.map fun c => UInt8.ofNat c.toNat := by
  rw [bytes_eq_flatMap]
  generalize s.toList = cs at hs ⊢
  induction cs with
  | nil => rfl
  | cons c cs ih =>
    rw [List.flatMap_cons, utf8EncodeChar_ascii (hs c List.mem_cons_self), ih fun d hd => hs d (List.mem_cons_of_mem c hd),
      List.map_cons, List.singleton_append]

theorem toNat_ofNat {n : Nat} (h : n.isValidChar) : (Char.ofNat n).toNat = n := by
  rw [Char.ofNat, dif_pos h]
  rfl

/-- Bytes below 128 are a text, byte by byte. -/
theorem text?_of_ascii {bs : List UInt8} (hbs : ∀ b ∈ bs, b.toNat < 128) :
    text? bs = some (String.ofList (bs.map fun b => Char.ofNat b.toNat)) := by
  have hval (b : UInt8) : (Char.ofNat b.toNat).toNat = b.toNat := by
    have hb : b.toNat < 256 := b.toNat_lt
    exact toNat_ofNat (.inl (by omega))
  rw [text?_eq_some_iff, bytes_eq_map, String.toList_ofList, List.map_map]
  · have hid : (fun c : Char => UInt8.ofNat c.toNat) ∘ (fun b : UInt8 => Char.ofNat b.toNat) = id := by
      funext b
      simp [hval]
    rw [hid, List.map_id]
  · intro c hc
    obtain ⟨b, hb, rfl⟩ := List.mem_map.1 (by simpa using hc)
    rw [hval]
    exact hbs b hb

/-- A text whose bytes end in an ASCII byte ends in the character, and the bytes before it are a text. -/
theorem eq_bytes_of_append_ascii {c : Char} (hc : c.toNat < 128) {s : String} {bs : List UInt8}
    (h : bytes s = bs ++ [UInt8.ofNat c.toNat]) : ∃ t : String, bs = bytes t ∧ s.toList = t.toList ++ [c] := by
  rw [bytes_eq_flatMap] at h
  rcases List.eq_nil_or_concat s.toList with hs | ⟨cs, d, hs⟩
  · rw [hs] at h
    simp at h
  · rw [hs, List.concat_eq_append, List.flatMap_append, List.flatMap_singleton] at h
    have hmem : UInt8.ofNat c.toNat ∈ String.utf8EncodeChar d := by
      have hne : String.utf8EncodeChar d ≠ [] := String.utf8EncodeChar_ne_nil
      have hl := congrArg List.getLast? h
      rw [List.getLast?_append, List.getLast?_eq_some_getLast hne, Option.some_or, List.getLast?_concat] at hl
      exact List.mem_of_getLast? (by rw [List.getLast?_eq_some_getLast hne, hl])
    have hb : (UInt8.ofNat c.toNat).toNat = c.toNat := by
      rw [UInt8.toNat_ofNat']
      omega
    obtain ⟨hd, he⟩ := utf8EncodeChar_eq_of_mem (by omega) hmem
    rw [he] at h
    have hbs := List.append_cancel_right h
    refine ⟨String.ofList cs, ?_, ?_⟩
    · rw [bytes_eq_flatMap, String.toList_ofList, hbs]
    · obtain rfl : d = c := Char.toNat_inj.1 (by omega)
      rw [hs, String.toList_ofList, List.concat_eq_append]

end AccessGateway.Text
