import AccessGateway.Preamble.Basic
import AccessGateway.Proofs.Text.Ascii

/-!
# The grammar of preambles

Which buffers start with a preamble, said without the reader: token and target stand behind the magic bytes with
their lengths in front, or in two lines behind their markers; both are UTF-8 with more than blanks in it, and the
whole is not too long.  Main statement: the reader accepts exactly these buffers (`read_accepts_grammar`), whatever
follows the preamble.
-/

namespace AccessGateway.Preamble

theorem magic_eq : magic = Text.bytes "ZTF1" := by decide

theorem tokenMarker_eq : tokenMarker = Text.bytes "TOKEN:" := by decide

theorem targetMarker_eq : targetMarker = Text.bytes "HOST:" := by decide

theorem lineFeed_eq : [lineFeed] = Text.bytes "\n" := by decide

/-- A field with its length in front, in two bytes, the high one first. -/
def prefixed (field : List UInt8) : List UInt8 :=
  UInt8.ofNat (field.length / 256) :: UInt8.ofNat (field.length % 256) :: field

/-- The bytes of a field and what they stand for: a text without blanks at its ends, and not an empty one. -/
def Denotes (field : List UInt8) (text : String) : Prop :=
  ∃ s, Text.text? field = some s ∧ text = Text.trimmed s ∧ text ≠ ""

/-- Two fields in the binary form. -/
def binaryForm (token target : List UInt8) : List UInt8 := magic ++ (prefixed token ++ prefixed target)

/-- Two fields in the text form. -/
def textForm (token target : List UInt8) : List UInt8 :=
  tokenMarker ++ token ++ lineFeed :: (targetMarker ++ target ++ [lineFeed])

theorem length_binaryForm (token target : List UInt8) :
    (binaryForm token target).length = 8 + token.length + target.length := by
  simp only [binaryForm, magic, prefixed, List.length_append, List.length_cons, List.length_nil]
  omega

theorem length_textForm (token target : List UInt8) :
    (textForm token target).length = 13 + token.length + target.length := by
  simp only [textForm, tokenMarker, targetMarker, List.length_append, List.length_cons, List.length_nil]
  omega

theorem textForm_append (token target rest : List UInt8) :
    textForm token target ++ rest =
      tokenMarker ++ token ++ lineFeed :: (targetMarker ++ target ++ lineFeed :: rest) := by
  simp [textForm]

/-- The bytes of two fields, without regard to their lengths. -/
inductive Written (token target : List UInt8) : List UInt8 → Prop where
  | binary : Written token target (binaryForm token target)
  | text (htoken : lineFeed ∉ token) (htarget : lineFeed ∉ target) : Written token target (textForm token target)

/-- The bytes of a preamble. -/
structure Form (p : Preamble) (front : List UInt8) : Prop where
  written : ∃ token target, Written token target front ∧ Denotes token p.token ∧ Denotes target p.target
  length_eq : p.headerLength = front.length
  length_le : front.length ≤ maxLength

/-! ### Fields -/

theorem denotes_iff {field : List UInt8} {text : String} :
    Denotes field text ↔ ∃ s, field = Text.bytes s ∧ text = Text.trimmed s ∧ text ≠ "" := by
  simp only [Denotes, Text.text?_eq_some_iff]

private theorem denotes_concat_return (field : List UInt8) (text : String) :
    Denotes (field ++ [0x0D]) text ↔ Denotes field text := by
  have hr : Text.bytes "\r" = [0x0D] := by decide
  rw [denotes_iff, denotes_iff]
  constructor
  · rintro ⟨s, hs, rfl, hne⟩
    obtain ⟨t, rfl, ht⟩ := Text.eq_bytes_of_append_ascii (c := '\r') (by decide) hs.symm
    exact ⟨t, rfl, Text.trimmed_eq_of_concat_blank ht (by decide), hne⟩
  · rintro ⟨s, rfl, rfl, hne⟩
    refine ⟨s ++ "\r", by rw [Text.bytes_append, hr], ?_, hne⟩
    exact (Text.trimmed_eq_of_concat_blank (by rw [String.toList_append]; rfl) (by decide)).symm

/-- A carriage return at the end makes no difference to what a field stands for. -/
theorem denotes_stripReturn_iff {field : List UInt8} {text : String} :
    Denotes (stripReturn field) text ↔ Denotes field text := by
  unfold stripReturn
  split
  · rename_i h
    obtain ⟨front, rfl⟩ := List.getLast?_eq_some_iff.1 h
    rw [List.dropLast_concat]
    exact (denotes_concat_return front text).symm
  · exact Iff.rfl

theorem ofFields_eq_ok_iff {token target : List UInt8} {n : Nat} {p : Preamble} :
    ofFields token target n = .ok p ↔ Denotes token p.token ∧ Denotes target p.target ∧ p.headerLength = n := by
  unfold ofFields Denotes
  cases ht : Text.text? token with
  | none => simp [throw, throwThe, MonadExceptOf.throw]
  | some t =>
    cases hh : Text.text? target with
    | none => simp [throw, throwThe, MonadExceptOf.throw]
    | some h =>
      obtain ⟨a, b, m⟩ := p
      by_cases ha : Text.trimmed t = ""
      · simp [ha, throw, throwThe, MonadExceptOf.throw, bind, Except.bind]
      · by_cases hb : Text.trimmed h = ""
        · simp [ha, hb, throw, throwThe, MonadExceptOf.throw, bind, Except.bind]
        · simp only [String.isEmpty_iff, ha, hb, if_false, bind, Except.bind, pure, Except.pure,
            Except.ok.injEq, Preamble.mk.injEq, Option.some.injEq, exists_eq_left']
          constructor
          · rintro ⟨rfl, rfl, rfl⟩
            exact ⟨⟨rfl, ha⟩, ⟨rfl, hb⟩, rfl⟩
          · rintro ⟨⟨rfl, -⟩, ⟨rfl, -⟩, rfl⟩
            exact ⟨rfl, rfl, rfl⟩

/-- A field with its length in front is read unless it ends too late. -/
theorem readField_prefixed {field : List UInt8} (h : field.length < 65536) (position : Nat) (rest : List UInt8) :
    readField position (prefixed field ++ rest) =
      if maxLength < position + 2 + field.length then .error .tooLong else .ok (some (field, rest)) := by
  have hn : (UInt8.ofNat (field.length / 256)).toNat * 256 + (UInt8.ofNat (field.length % 256)).toNat =
      field.length := by
    rw [UInt8.toNat_ofNat', UInt8.toNat_ofNat']
    omega
  unfold readField prefixed
  dsimp only [List.cons_append]
  rw [hn, if_pos (show field.length ≤ (field ++ rest).length by simp), List.take_left, List.drop_left]

/-- A read field stood in front of the bytes, and the rest after it. -/
theorem readField_eq_ok_some_iff {position : Nat} {bs field rest : List UInt8} :
    readField position bs = .ok (some (field, rest)) ↔
      bs = prefixed field ++ rest ∧ position + 2 + field.length ≤ maxLength := by
  constructor
  · intro h
    unfold readField at h
    split at h
    · rename_i high low tail
      have hh := high.toNat_lt
      have hl := low.toNat_lt
      dsimp only at h
      split at h
      · cases h
      · split at h
        · rename_i hmax hlen
          simp only [Except.ok.injEq, Option.some.injEq, Prod.mk.injEq] at h
          obtain ⟨rfl, rfl⟩ := h
          rw [prefixed, List.length_take, Nat.min_eq_left hlen]
          refine ⟨?_, by omega⟩
          rw [show (high.toNat * 256 + low.toNat) / 256 = high.toNat by omega,
            show (high.toNat * 256 + low.toNat) % 256 = low.toNat by omega]
          simp
        · cases h
    · cases h
  · rintro ⟨rfl, hmax⟩
    have : maxLength = 8192 := rfl
    rw [readField_prefixed (by omega), if_neg (by omega)]

/-! ### Lines -/

/-- A reader of one field: the field and the bytes after it, or none if more bytes are needed. -/
abbrev FieldReader : Type := List UInt8 → Except PreambleError (Option (List UInt8 × List UInt8))

/-- Reads a field in a line behind a marker. -/
def readLine (marker : List UInt8) (e : PreambleError) : FieldReader := fun buffer =>
  if compatible marker buffer then
    match Text.splitFirst? lineFeed buffer with
    | none => .ok none
    | some (line, rest) =>
      match Text.strip? marker line with
      | none => .error e
      | some field => .ok (some (field, rest))
  else .error e

theorem compatible_append (marker rest : List UInt8) : compatible marker (marker ++ rest) = true := by
  simp [compatible]

/-- A field is read from a line exactly when the line is the marker and the field. -/
theorem readLine_eq_ok_some_iff {marker buffer field rest : List UInt8} {e : PreambleError} (hm : lineFeed ∉ marker) :
    readLine marker e buffer = .ok (some (field, rest)) ↔
      buffer = marker ++ field ++ lineFeed :: rest ∧ lineFeed ∉ field := by
  unfold readLine
  constructor
  · intro h
    split at h
    · split at h
      · cases h
      · rename_i line rest' hline
        split at h
        · cases h
        · rename_i field' hfield
          simp only [Except.ok.injEq, Option.some.injEq, Prod.mk.injEq] at h
          obtain ⟨rfl, rfl⟩ := h
          obtain ⟨rfl, hlf⟩ := Text.splitFirst?_eq_some_iff.1 hline
          obtain rfl := Text.strip?_eq_some_iff.1 hfield
          simp only [List.mem_append, not_or] at hlf
          exact ⟨rfl, hlf.2⟩
    · cases h
  · rintro ⟨rfl, hlf⟩
    have hline : Text.splitFirst? lineFeed (marker ++ field ++ lineFeed :: rest) = some (marker ++ field, rest) :=
      Text.splitFirst?_eq_some_iff.2 ⟨rfl, by simp only [List.mem_append, not_or]; exact ⟨hm, hlf⟩⟩
    rw [if_pos (by rw [List.append_assoc]; exact compatible_append _ _), hline]
    dsimp only
    rw [Text.strip?_eq_some_iff.2 rfl]

/-! ### The two forms -/

/-- Two fields one after the other, and what they come to. -/
def readPair (first : FieldReader) (second : List UInt8 → FieldReader)
    (finish : List UInt8 → List UInt8 → Except PreambleError Preamble) (bs : List UInt8) :
    Except PreambleError (Option Preamble) :=
  match first bs with
  | .error e => .error e
  | .ok none => .ok none
  | .ok (some (token, rest)) =>
    match second token rest with
    | .error e => .error e
    | .ok none => .ok none
    | .ok (some (target, _)) => (finish token target).map some

theorem readBinary_eq (bs : List UInt8) :
    readBinary bs =
      readPair (readField 4) (fun token => readField (6 + token.length))
        (fun token target => ofFields token target (8 + token.length + target.length)) bs := by
  unfold readBinary readPair
  rcases readField 4 bs with e | _ | ⟨token, rest⟩
  · rfl
  · rfl
  · dsimp only [bind, Except.bind]
    rcases readField (6 + token.length) rest with e | _ | ⟨target, rest'⟩ <;> rfl

theorem readText_eq (buffer : List UInt8) :
    readText buffer =
      readPair (readLine tokenMarker .missingToken) (fun _ => readLine targetMarker .missingTarget)
        (fun token target => ofFields (stripReturn token) (stripReturn target) (13 + token.length + target.length))
        buffer := by
  unfold readText readPair
  rw [readLine]
  cases compatible tokenMarker buffer with
  | false => rfl
  | true =>
    simp only [Bool.not_true, Bool.false_eq_true, ↓reduceIte]
    rcases Text.splitFirst? lineFeed buffer with _ | ⟨first, rest⟩
    · rfl
    · dsimp only
      rcases htoken : Text.strip? tokenMarker first with _ | token
      · rfl
      · dsimp only
        rw [readLine]
        cases compatible targetMarker rest with
        | false => rfl
        | true =>
          simp only [Bool.not_true, Bool.false_eq_true, ↓reduceIte]
          rcases Text.splitFirst? lineFeed rest with _ | ⟨second, _⟩
          · rfl
          · dsimp only
            rcases htarget : Text.strip? targetMarker second with _ | target
            · rfl
            · have hlen : first.length + 1 + second.length + 1 = 13 + token.length + target.length := by
                rw [Text.strip?_eq_some_iff.1 htoken, Text.strip?_eq_some_iff.1 htarget, List.length_append,
                  List.length_append, tokenMarker, targetMarker]
                simp only [List.length_cons, List.length_nil]
                omega
              rw [hlen]
              rfl

private theorem map_some_eq_ok_iff {ε α : Type} {r : Except ε α} {a : α} : r.map some = .ok (some a) ↔ r = .ok a := by
  cases r <;> simp [Except.map]

theorem readPair_eq_ok_some_iff {first : FieldReader} {second : List UInt8 → FieldReader}
    {finish : List UInt8 → List UInt8 → Except PreambleError Preamble} {bs : List UInt8} {p : Preamble} :
    readPair first second finish bs = .ok (some p) ↔
      ∃ token rest target rest', first bs = .ok (some (token, rest)) ∧
        second token rest = .ok (some (target, rest')) ∧ finish token target = .ok p := by
  unfold readPair
  constructor
  · intro h
    split at h
    · cases h
    · cases h
    · rename_i token rest hfirst
      split at h
      · cases h
      · cases h
      · rename_i target rest' hsecond
        exact ⟨token, rest, target, rest', hfirst, hsecond, map_some_eq_ok_iff.1 h⟩
  · rintro ⟨token, rest, target, rest', hfirst, hsecond, hfinish⟩
    rw [hfirst]
    dsimp only
    rw [hsecond]
    exact map_some_eq_ok_iff.2 hfinish

theorem readBinary_eq_ok_some_iff {bs : List UInt8} {p : Preamble} :
    readBinary bs = .ok (some p) ↔
      ∃ token target rest, bs = prefixed token ++ prefixed target ++ rest ∧
        Denotes token p.token ∧ Denotes target p.target ∧
        p.headerLength = 8 + token.length + target.length ∧ p.headerLength ≤ maxLength := by
  rw [readBinary_eq, readPair_eq_ok_some_iff]
  constructor
  · rintro ⟨token, rest, target, rest', htoken, htarget, h⟩
    obtain ⟨rfl, -⟩ := readField_eq_ok_some_iff.1 htoken
    obtain ⟨rfl, hmax⟩ := readField_eq_ok_some_iff.1 htarget
    obtain ⟨ht, hh, hn⟩ := ofFields_eq_ok_iff.1 h
    exact ⟨token, target, rest', by rw [List.append_assoc], ht, hh, hn, by omega⟩
  · rintro ⟨token, target, rest, rfl, ht, hh, hn, hmax⟩
    refine ⟨token, prefixed target ++ rest, target, rest, ?_, ?_, ofFields_eq_ok_iff.2 ⟨ht, hh, hn⟩⟩
    · exact readField_eq_ok_some_iff.2 ⟨by rw [List.append_assoc], by omega⟩
    · exact readField_eq_ok_some_iff.2 ⟨rfl, by omega⟩

theorem readText_eq_ok_some_iff {buffer : List UInt8} {p : Preamble} :
    readText buffer = .ok (some p) ↔
      ∃ token target rest, buffer = tokenMarker ++ token ++ lineFeed :: (targetMarker ++ target ++ lineFeed :: rest) ∧
        lineFeed ∉ token ∧ lineFeed ∉ target ∧ Denotes token p.token ∧ Denotes target p.target ∧
        p.headerLength = 13 + token.length + target.length := by
  have hm : lineFeed ∉ tokenMarker := by decide
  have hm' : lineFeed ∉ targetMarker := by decide
  rw [readText_eq, readPair_eq_ok_some_iff]
  constructor
  · rintro ⟨token, rest, target, rest', htoken, htarget, h⟩
    obtain ⟨rfl, hlf⟩ := (readLine_eq_ok_some_iff hm).1 htoken
    obtain ⟨rfl, hlf'⟩ := (readLine_eq_ok_some_iff hm').1 htarget
    obtain ⟨ht, hh, hn⟩ := ofFields_eq_ok_iff.1 h
    exact ⟨token, target, rest', rfl, hlf, hlf', denotes_stripReturn_iff.1 ht, denotes_stripReturn_iff.1 hh, hn⟩
  · rintro ⟨token, target, rest, rfl, htoken, htarget, ht, hh, hn⟩
    refine ⟨token, targetMarker ++ target ++ lineFeed :: rest, target, rest, ?_, ?_, ?_⟩
    · exact (readLine_eq_ok_some_iff hm).2 ⟨rfl, htoken⟩
    · exact (readLine_eq_ok_some_iff hm').2 ⟨rfl, htarget⟩
    · exact ofFields_eq_ok_iff.2 ⟨denotes_stripReturn_iff.2 ht, denotes_stripReturn_iff.2 hh, hn⟩

/-! ### The whole -/

theorem read_eq (buffer : List UInt8) :
    read buffer =
      match readEither buffer with
      | .error e => .error e
      | .ok none => if maxLength ≤ buffer.length then .error .tooLong else .ok none
      | .ok (some p) => if maxLength < p.headerLength then .error .tooLong else .ok (some p) := by
  unfold read
  rcases readEither buffer with e | _ | p <;> rfl

private theorem read_eq_ok_some_iff_readEither {buffer : List UInt8} {p : Preamble} :
    read buffer = .ok (some p) ↔ readEither buffer = .ok (some p) ∧ p.headerLength ≤ maxLength := by
  rw [read_eq]
  rcases readEither buffer with e | _ | q
  · simp
  · simp only [Except.ok.injEq, reduceCtorEq, false_and, iff_false]
    split <;> simp
  · dsimp only
    by_cases hq : maxLength < q.headerLength
    · rw [if_pos hq]
      simp only [reduceCtorEq, Except.ok.injEq, Option.some.injEq, false_iff, not_and]
      rintro rfl
      omega
    · rw [if_neg hq]
      simp only [Except.ok.injEq, Option.some.injEq, iff_self_and]
      rintro rfl
      omega

/-- A buffer is read exactly when it starts with the bytes of a preamble. -/
theorem read_eq_ok_some_iff {buffer : List UInt8} {p : Preamble} :
    read buffer = .ok (some p) ↔ ∃ front rest, buffer = front ++ rest ∧ Form p front := by
  rw [read_eq_ok_some_iff_readEither]
  constructor
  · rintro ⟨h, hmax⟩
    unfold readEither at h
    split at h
    · rename_i afterMagic hmagic
      obtain rfl := Text.strip?_eq_some_iff.1 hmagic
      obtain ⟨token, target, rest, rfl, ht, hh, hn, -⟩ := readBinary_eq_ok_some_iff.1 h
      have hlen := length_binaryForm token target
      exact ⟨_, rest, by simp only [binaryForm, List.append_assoc], ⟨token, target, .binary, ht, hh⟩, by omega,
        by omega⟩
    · split at h
      · cases h
      · obtain ⟨token, target, rest, rfl, htoken, htarget, ht, hh, hn⟩ := readText_eq_ok_some_iff.1 h
        have hlen := length_textForm token target
        exact ⟨_, rest, (textForm_append token target rest).symm, ⟨token, target, .text htoken htarget, ht, hh⟩,
          by omega, by omega⟩
  · rintro ⟨front, rest, rfl, ⟨token, target, hw, ht, hh⟩, hn, hmax⟩
    refine ⟨?_, by omega⟩
    unfold readEither
    cases hw with
    | binary =>
      have hlen := length_binaryForm token target
      rw [binaryForm, List.append_assoc, Text.strip?_eq_some_iff.2 rfl]
      exact readBinary_eq_ok_some_iff.2 ⟨token, target, rest, rfl, ht, hh, by omega, by omega⟩
    | text htoken htarget =>
      have hlen := length_textForm token target
      -- the first byte of the token line is not that of the magic bytes
      have hmagic : Text.strip? magic (textForm token target ++ rest) = none := rfl
      have hpre : List.isPrefixOf (textForm token target ++ rest) magic = false := rfl
      rw [hmagic]
      dsimp only
      rw [hpre, if_neg Bool.false_ne_true, textForm_append]
      exact readText_eq_ok_some_iff.2 ⟨token, target, rest, rfl, htoken, htarget, ht, hh, by omega⟩

/-- What is accepted depends on the front alone. -/
theorem read_eq_ok_some_iff_take {buffer : List UInt8} {p : Preamble} :
    read buffer = .ok (some p) ↔ ∀ rest, read (buffer.take p.headerLength ++ rest) = .ok (some p) := by
  constructor
  · intro h rest
    obtain ⟨front, back, rfl, hform⟩ := read_eq_ok_some_iff.1 h
    rw [hform.length_eq, List.take_left]
    exact read_eq_ok_some_iff.2 ⟨front, rest, rfl, hform⟩
  · intro h
    have := h (buffer.drop p.headerLength)
    rwa [List.take_append_drop] at this

/-- The reader accepts exactly the grammar: two fields of UTF-8 with more than blanks in them, either behind the magic
bytes and each behind its length, or in two marked lines, and 8192 bytes at most.  The payload is never looked at, so
markers in it mean nothing. -/
theorem read_accepts_grammar (buffer : List UInt8) (p : Preamble) :
    (read buffer = .ok (some p) ↔
      p.headerLength ≤ 8192 ∧ ∃ token target rest, Denotes token p.token ∧ Denotes target p.target ∧
        ((buffer = Text.bytes "ZTF1" ++ prefixed token ++ prefixed target ++ rest ∧
            p.headerLength = 8 + token.length + target.length) ∨
          (buffer = Text.bytes "TOKEN:" ++ token ++ Text.bytes "\n" ++ Text.bytes "HOST:" ++ target ++
              Text.bytes "\n" ++ rest ∧
            0x0A ∉ token ∧ 0x0A ∉ target ∧ p.headerLength = 13 + token.length + target.length))) ∧
    (read buffer = .ok (some p) ↔ ∀ rest, read (buffer.take p.headerLength ++ rest) = .ok (some p)) := by
  refine ⟨?_, read_eq_ok_some_iff_take⟩
  rw [← magic_eq, ← tokenMarker_eq, ← targetMarker_eq, ← lineFeed_eq]
  constructor
  · intro h
    obtain ⟨front, rest, rfl, ⟨token, target, hw, ht, hh⟩, hn, hmax⟩ := read_eq_ok_some_iff.1 h
    refine ⟨by rw [hn]; exact hmax, token, target, rest, ht, hh, ?_⟩
    cases hw with
    | binary => exact .inl ⟨by simp [binaryForm], by rw [hn, length_binaryForm]⟩
    | text htoken htarget => exact .inr ⟨by simp [textForm], htoken, htarget, by rw [hn, length_textForm]⟩
  · rintro ⟨hmax, token, target, rest, ht, hh, ⟨rfl, hn⟩ | ⟨rfl, htoken, htarget, hn⟩⟩
    · rw [← length_binaryForm] at hn
      exact read_eq_ok_some_iff.2 ⟨_, rest, by simp [binaryForm], ⟨token, target, .binary, ht, hh⟩, hn, hn ▸ hmax⟩
    · rw [← length_textForm] at hn
      exact read_eq_ok_some_iff.2 ⟨_, rest, by simp [textForm], ⟨token, target, .text htoken htarget, ht, hh⟩, hn,
        hn ▸ hmax⟩

end AccessGateway.Preamble
