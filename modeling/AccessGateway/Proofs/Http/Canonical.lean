import AccessGateway.Http.Target
import AccessGateway.Proofs.Http.Authority
import AccessGateway.Proofs.Text.Ascii
import AccessGateway.Proofs.Text.Basic
import AccessGateway.Text.Numeral

/-!
# The canonical form of a target

What a header names is admissible if it is an authority without a user part whose host is not empty and whose port,
if there is one, is a number between 1 and 65535.  The target is then the host in small letters and the port without
leading zeros (`targetHost_eq_ok_iff`).  This form is admissible itself, with the same host and the same port
(`Admissible.canonical`), from which everything else follows: it is its own canonical form, and two values have one
form exactly when they name one host and one port.
-/

namespace AccessGateway

/-- A text of visible characters and spaces is what its field has for a text. -/
theorem HeaderField.text?_ofText (name : String) {t : String} (h : ∀ c ∈ t.toList, 32 ≤ c.toNat ∧ c.toNat < 127) :
    (HeaderField.ofText name t).text? = some t := by
  have hbytes : ∀ b ∈ Text.bytes t, 32 ≤ b ∧ b < 127 ∨ b = 9 := by
    intro b hb
    rw [Text.bytes_eq_map fun c hc => by have := h c hc; omega] at hb
    obtain ⟨c, hc, rfl⟩ := List.mem_map.1 hb
    have hcode := h c hc
    have hval : (UInt8.ofNat c.toNat).toNat = c.toNat := by
      rw [UInt8.toNat_ofNat']
      omega
    left
    rw [UInt8.le_iff_toNat_le, UInt8.lt_iff_toNat_lt, hval]
    exact hcode
  have hall : ((Text.bytes t).all fun b => (32 ≤ b && b < 127) || b == 9) = true := by
    simpa [List.all_eq_true] using hbytes
  rw [ofText, text?, if_pos hall, Text.text?_bytes]

theorem Text.isBlank_of_visible {c : Char} (h : 32 < c.toNat ∧ c.toNat < 127) : Text.isBlank c = false := by
  have hne : c.toNat ≠ 32 := by omega
  simp only [isBlank, Bool.or_eq_false_iff, Bool.and_eq_false_iff, decide_eq_false_iff_not, beq_eq_false_iff_ne]
  omega

/-- A token of visible characters is carried as it stands. -/
theorem bearerToken_of_first? {hs : Headers} {token : String}
    (hfirst : hs.first? "authorization" = some (.ofText "authorization" ("Bearer " ++ token)))
    (hvisible : ∀ c ∈ token.toList, 32 < c.toNat ∧ c.toNat < 127) (hne : token.toList ≠ []) :
    bearerToken hs = some token := by
  have htext : (HeaderField.ofText "authorization" ("Bearer " ++ token)).text? = some ("Bearer " ++ token) := by
    refine HeaderField.text?_ofText _ fun c hc => ?_
    rw [String.toList_append, List.mem_append] at hc
    rcases hc with hc | hc
    · have hmark : ("Bearer ".toList.all fun d => 32 ≤ d.toNat && d.toNat < 127) = true := by decide +kernel
      simpa using List.all_eq_true.1 hmark c hc
    · exact ⟨(hvisible c hc).1.le, (hvisible c hc).2⟩
  have hstrip : Text.strip? "Bearer ".toList ("Bearer " ++ token).toList = some token.toList :=
    Text.strip?_eq_some_iff.2 (String.toList_append ..)
  have htrim : Text.trim token.toList = token.toList :=
    Text.trim_eq_self (fun c hc => Text.isBlank_of_visible (hvisible c (List.mem_of_head? hc)))
      fun c hc => Text.isBlank_of_visible (hvisible c (List.mem_of_getLast? hc))
  unfold bearerToken
  simp only [hfirst, htext, hstrip, Option.bind_eq_bind, Option.bind_some, Option.some_or, htrim,
    List.isEmpty_eq_false_iff.2 hne, String.ofList_toList]
  rfl

namespace Target

open Authority (IsHost)

variable {raw raw' : List Char} {hs : Headers} {t : String}

/-- The port behind the host. -/
def port? (raw : List Char) : Option Nat := targetPort? (raw.drop (Authority.host raw).length)

/-- A host in small letters. -/
def lowerHost (raw : List Char) : List Char := (Authority.host raw).map Char.toLower

/-- A host and the port, if there is one, behind a colon. -/
def written (host : List Char) : Option Nat → List Char
  | none => host
  | some p => host ++ ':' :: Text.digits p

def canonical (raw : List Char) : List Char := written (lowerHost raw) (port? raw)

/-- What separates an authority from what surrounds it, or its host from a user. -/
def IsSeparator (c : Char) : Prop := c = '/' ∨ c = '?' ∨ c = '#' ∨ c = '@' ∨ c = '\\'

/-- A bare authority with a host and with a port that is a number, if it has one. -/
structure Admissible (raw : List Char) : Prop where
  plain : ∀ c ∈ raw, ¬ IsSeparator c ∧ Text.isBlank c = false
  legal : Authority.isLegal raw = true
  host_ne_nil : Authority.host raw ≠ []
  port : raw.drop (Authority.host raw).length ≠ [] → (port? raw).isSome = true

/-! ### Hosts and ports -/

theorem natural?_eq_some {cs : List Char} {n : Nat} (h : Text.natural? cs = some n) : ∀ c ∈ cs, c.isDigit = true :=
  (Text.natural?_isSome_iff.1 (by rw [h]; rfl)).2

theorem targetPort?_eq_some_iff {rest : List Char} {p : Nat} :
    targetPort? rest = some p ↔ ∃ ds, rest = ':' :: ds ∧ Text.natural? ds = some p ∧ 1 ≤ p ∧ p ≤ 65535 := by
  unfold targetPort?
  split
  · rename_i ds
    simp [Option.filter_eq_some_iff]
  · rename_i hcolon
    refine iff_of_false (by simp) ?_
    rintro ⟨ds, hds, -⟩
    exact hcolon ds hds

theorem targetPort?_digits {p : Nat} (hp : 1 ≤ p ∧ p ≤ 65535) : targetPort? (':' :: Text.digits p) = some p :=
  targetPort?_eq_some_iff.2 ⟨_, rfl, Text.natural?_digits p, hp⟩

namespace Admissible

theorem not_mem_at (h : Admissible raw) : '@' ∉ raw := fun hat => (h.plain '@' hat).1 (by simp [IsSeparator])

theorem isHost (h : Admissible raw) : IsHost (Authority.host raw) :=
  (Authority.exists_host_append h.legal h.not_mem_at).choose_spec.2

/-- An admissible value is a host, or a host with the digits of a port behind a colon. -/
theorem eq_host_or (h : Admissible raw) :
    raw = Authority.host raw ∧ port? raw = none ∨
      ∃ ds p, raw = Authority.host raw ++ ':' :: ds ∧ (∀ d ∈ ds, d.isDigit = true) ∧ port? raw = some p ∧
        1 ≤ p ∧ p ≤ 65535 := by
  obtain ⟨rest, hraw, -⟩ := Authority.exists_host_append h.legal h.not_mem_at
  have hdrop : raw.drop (Authority.host raw).length = rest := by
    conv => lhs; arg 2; rw [hraw]
    exact List.drop_left
  have hport : port? raw = targetPort? rest := by rw [port?, hdrop]
  cases rest with
  | nil =>
    left
    rw [List.append_nil] at hraw
    exact ⟨hraw, hport⟩
  | cons c rest =>
    right
    obtain ⟨p, hp⟩ := Option.isSome_iff_exists.1 (h.port (by rw [hdrop]; exact List.cons_ne_nil c rest))
    obtain ⟨ds, hds, hnat, hrange⟩ := targetPort?_eq_some_iff.1 (hport ▸ hp)
    exact ⟨ds, p, hds ▸ hraw, natural?_eq_some hnat, hp, hrange⟩

theorem port_le (h : Admissible raw) {p : Nat} (hp : port? raw = some p) : 1 ≤ p ∧ p ≤ 65535 := by
  rcases h.eq_host_or with ⟨-, hnone⟩ | ⟨ds, q, -, -, hq, hrange⟩
  · rw [hp] at hnone
    cases hnone
  · obtain rfl := Option.some.inj (hp.symm.trans hq)
    exact hrange

theorem mem_host (h : Admissible raw) {c : Char} (hc : c ∈ Authority.host raw) : c ∈ raw := by
  obtain ⟨rest, hraw, -⟩ := Authority.exists_host_append h.legal h.not_mem_at
  rw [hraw]
  exact List.mem_append_left rest hc

theorem lowerHost_ne_nil (h : Admissible raw) : lowerHost raw ≠ [] := by
  rw [lowerHost, ne_eq, List.map_eq_nil_iff]
  exact h.host_ne_nil

/-! ### The canonical form -/

theorem mem_canonical {c : Char} (hc : c ∈ canonical raw) :
    (∃ d ∈ Authority.host raw, c = d.toLower) ∨ c = ':' ∨ c.isDigit = true := by
  have hlower (hc : c ∈ lowerHost raw) : ∃ d ∈ Authority.host raw, c = d.toLower := by
    obtain ⟨d, hd, rfl⟩ := List.mem_map.1 hc
    exact ⟨d, hd, rfl⟩
  unfold canonical written at hc
  split at hc
  · exact .inl (hlower hc)
  · rcases List.mem_append.1 hc with hc | hc
    · exact .inl (hlower hc)
    · rcases List.mem_cons.1 hc with hc | hc
      · exact .inr (.inl hc)
      · exact .inr (.inr (Text.isDigit_of_mem_digits hc))

theorem isSeparator_toLower {c : Char} (h : IsSeparator c.toLower) : IsSeparator c := by
  rcases h with h | h | h | h | h <;> rw [Authority.toLower_eq_iff (by decide)] at h <;> rw [h] <;> simp [IsSeparator]

theorem isLegal_canonical (h : Admissible raw) : Authority.isLegal (Target.canonical raw) = true := by
  have hlegal := h.legal
  rcases h.eq_host_or with ⟨hraw, hnone⟩ | ⟨ds, p, hraw, hds, hp, -⟩
  · rw [Target.canonical, hnone, written, lowerHost, Authority.isLegal_toLower h.host_ne_nil, ← hraw]
    exact hlegal
  · rw [Target.canonical, hp, written, lowerHost,
      Authority.isLegal_toLower_append _ (fun d hd => Text.isDigit_of_mem_digits hd) hds, ← hraw]
    exact hlegal

theorem plain_canonical (h : Admissible raw) {c : Char} (hc : c ∈ Target.canonical raw) :
    ¬ IsSeparator c ∧ Text.isBlank c = false := by
  have hvisible := Authority.visible_of_isLegal h.isLegal_canonical hc
  refine ⟨fun hsep => ?_, ?_⟩
  · rcases mem_canonical hc with ⟨d, hd, rfl⟩ | rfl | hdigit
    · exact (h.plain d (h.mem_host hd)).1 (isSeparator_toLower hsep)
    · rcases hsep with h | h | h | h | h <;> cases h
    · rcases hsep with rfl | rfl | rfl | rfl | rfl <;> cases hdigit
  · exact Text.isBlank_of_visible hvisible

theorem host_canonical (h : Admissible raw) : Authority.host (Target.canonical raw) = lowerHost raw := by
  have hhost : IsHost (lowerHost raw) := h.isHost.map_toLower
  have hat : '@' ∉ Target.canonical raw := fun hat => (h.plain_canonical hat).1 (by simp [IsSeparator])
  unfold Target.canonical written at hat ⊢
  split
  · rename_i hnone
    rw [hnone] at hat
    conv => lhs; arg 1; rw [← List.append_nil (lowerHost raw)]
    exact Authority.host_append hhost (by rwa [List.append_nil]) (by simp)
  · rename_i p hp
    rw [hp] at hat
    exact Authority.host_append hhost hat (by simp)

theorem drop_canonical (h : Admissible raw) :
    (Target.canonical raw).drop (Authority.host (Target.canonical raw)).length =
      (written [] (port? raw)) := by
  rw [h.host_canonical]
  unfold Target.canonical written
  split
  · exact List.drop_length
  · exact List.drop_left

theorem port?_canonical (h : Admissible raw) : port? (Target.canonical raw) = port? raw := by
  rw [port?, h.drop_canonical]
  cases hp : port? raw with
  | none => rfl
  | some p => exact targetPort?_digits (h.port_le hp)

/-- The canonical form is admissible itself. -/
theorem canonical (h : Admissible raw) : Admissible (canonical raw) where
  plain _ hc := h.plain_canonical hc
  legal := h.isLegal_canonical
  host_ne_nil := by
    rw [h.host_canonical]
    exact h.lowerHost_ne_nil
  port hrest := by
    rw [h.port?_canonical]
    rw [h.drop_canonical] at hrest
    cases hp : port? raw with
    | none =>
      rw [hp] at hrest
      exact absurd rfl hrest
    | some p => rfl

theorem isUpper_canonical {c : Char} (hc : c ∈ Target.canonical raw) : c.isUpper = false := by
  rcases mem_canonical hc with ⟨d, -, rfl⟩ | rfl | hdigit
  · exact Char.isUpper_toLower_eq_false d
  · rfl
  · have hdigit' : c.val ≤ 57 := by simp_all [Char.isDigit]
    have hle : c.val.toNat ≤ 57 := UInt32.le_iff_toNat_le.1 hdigit'
    refine Bool.eq_false_iff.2 fun hupper => ?_
    have hupper' : 65 ≤ c.val.toNat ∧ c.val.toNat ≤ 90 := by
      simpa [Char.isUpper, UInt32.le_iff_toNat_le] using hupper
    omega

theorem lowerHost_canonical (h : Admissible raw) : lowerHost (Target.canonical raw) = lowerHost raw := by
  rw [lowerHost, h.host_canonical, lowerHost, List.map_map]
  exact List.map_congr_left fun c _ => Char.toLower_toLower_eq_toLower c

/-- A canonical form is its own canonical form. -/
theorem canonical_canonical (h : Admissible raw) : Target.canonical (Target.canonical raw) = Target.canonical raw := by
  rw [Target.canonical, h.lowerHost_canonical, h.port?_canonical, Target.canonical]

/-- Values have one canonical form exactly when they name one host and one port. -/
theorem canonical_eq_iff (h : Admissible raw) (h' : Admissible raw') :
    Target.canonical raw = Target.canonical raw' ↔ lowerHost raw = lowerHost raw' ∧ port? raw = port? raw' := by
  constructor
  · intro heq
    rw [← h.host_canonical, ← h'.host_canonical, ← h.port?_canonical, ← h'.port?_canonical, heq]
    exact ⟨rfl, rfl⟩
  · rintro ⟨hhost, hport⟩
    rw [Target.canonical, Target.canonical, hhost, hport]

end Admissible

private theorem plain_iff :
    (raw.any fun c => "/?#@\\".toList.contains c || Text.isBlank c) = false ↔
      ∀ c ∈ raw, ¬ IsSeparator c ∧ Text.isBlank c = false := by
  have hseparators : "/?#@\\".toList = ['/', '?', '#', '@', '\\'] := by decide
  rw [List.any_eq_false, hseparators]
  simp [IsSeparator]

private theorem toList_written (h : List Char) (p : Nat) :
    s!"{String.ofList h}:{p}".toList = written h (some p) := by
  have htext (s : String) : toString s = s := rfl
  have hdigits : (toString p).toList = Nat.toDigits 10 p := Nat.toList_repr
  have hcolon : ":".toList = [':'] := rfl
  simp only [htext, String.toList_append, String.toList_ofList, hdigits, hcolon, written, Text.digits,
    List.append_assoc, List.singleton_append]

theorem normalizeTarget?_eq_some_iff :
    normalizeTarget? raw = some t ↔ Admissible raw ∧ t.toList = canonical raw := by
  unfold normalizeTarget?
  dsimp only
  split
  · rename_i hany
    refine iff_of_false (by simp) fun ⟨h, _⟩ => ?_
    rw [plain_iff.2 h.plain] at hany
    cases hany
  · rename_i hany
    have hplain := plain_iff.1 (Bool.eq_false_iff.2 hany)
    split
    · rename_i hlegal
      refine iff_of_false (by simp) fun ⟨h, _⟩ => ?_
      rw [h.legal] at hlegal
      cases hlegal
    · rename_i hlegal
      split
      · rename_i hempty
        exact iff_of_false (by simp) fun ⟨h, _⟩ => h.host_ne_nil (List.isEmpty_iff.1 hempty)
      · rename_i hempty
        have hadmissible (hport : raw.drop (Authority.host raw).length ≠ [] → (port? raw).isSome = true) :
            Admissible raw :=
          ⟨hplain, by simpa using hlegal, fun hnil => hempty (List.isEmpty_iff.2 hnil), hport⟩
        split
        · rename_i hrest
          rw [List.isEmpty_iff] at hrest
          have hport : port? raw = none := by rw [port?, hrest]; rfl
          rw [canonical, hport, written, Option.some.injEq]
          constructor
          · rintro rfl
            exact ⟨hadmissible fun hne => absurd hrest hne, String.toList_ofList⟩
          · rintro ⟨-, ht⟩
            rw [← String.toList_inj, ht, String.toList_ofList, lowerHost]
        · rename_i hrest
          rw [Option.map_eq_some_iff]
          constructor
          · rintro ⟨p, hp, rfl⟩
            have hport : port? raw = some p := hp
            refine ⟨hadmissible fun _ => by rw [hport]; rfl, ?_⟩
            rw [toList_written, canonical, hport, lowerHost]
          · rintro ⟨h, ht⟩
            obtain ⟨p, hp⟩ := Option.isSome_iff_exists.1 (h.port fun hnil => hrest (List.isEmpty_iff.2 hnil))
            refine ⟨p, hp, ?_⟩
            rw [← String.toList_inj, toList_written, ht, canonical, hp, lowerHost]

/-! ### Headers -/

/-- The trimmed text of the header that names the target. -/
def named? (hs : Headers) : Option (List Char) :=
  ((hs.first? targetHeader).bind HeaderField.text?).map fun text => Text.trim text.toList

theorem named?_eq_some_iff :
    named? hs = some raw ↔ ∃ field text, hs.first? targetHeader = some field ∧ field.text? = some text ∧
      raw = Text.trim text.toList := by
  simp only [named?, Option.map_eq_some_iff, Option.bind_eq_some_iff]
  constructor
  · rintro ⟨text, ⟨field, hfield, htext⟩, rfl⟩
    exact ⟨field, text, hfield, htext, rfl⟩
  · rintro ⟨field, text, hfield, htext, rfl⟩
    exact ⟨text, ⟨field, hfield, htext⟩, rfl⟩

/-- A target is taken from admissible text, as its canonical form. -/
theorem targetHost_eq_ok_iff :
    targetHost hs = .ok t ↔ ∃ raw, named? hs = some raw ∧ Admissible raw ∧ t.toList = canonical raw := by
  unfold targetHost named?
  cases hfield : hs.first? targetHeader with
  | none => simp
  | some field =>
    cases htext : field.text? with
    | none => simp [htext]
    | some text =>
      have hnil : Text.trim text.toList = [] → ¬ Admissible (Text.trim text.toList) :=
        fun hnil h => h.host_ne_nil (by rw [hnil]; rfl)
      simp only [Option.bind_some, htext, Option.map_some, Option.some.injEq, exists_eq_left', List.isEmpty_iff]
      split
      · rename_i hempty
        simp [hnil hempty]
      · rw [← normalizeTarget?_eq_some_iff]
        cases normalizeTarget? (Text.trim text.toList) <;> simp

/-- Bytes that show nothing. -/
def IsBlankValue (value : List UInt8) : Prop := ∀ b ∈ value, b = 32 ∨ b = 9

private theorem text?_eq (field : HeaderField) (h : ∀ b ∈ field.value, 32 ≤ b ∧ b < 127 ∨ b = 9) :
    field.text? = some (String.ofList (field.value.map fun b => Char.ofNat b.toNat)) := by
  have hall : (field.value.all fun b => (32 ≤ b && b < 127) || b == 9) = true := by simpa [List.all_eq_true] using h
  rw [HeaderField.text?, if_pos hall]
  refine Text.text?_of_ascii fun b hb => ?_
  rcases h b hb with ⟨-, hlt⟩ | rfl
  · have hlt' : b.toNat < 127 := UInt8.lt_iff_toNat_lt.1 hlt
    omega
  · decide

private theorem visible_of_text? {field : HeaderField} {text : String} (h : field.text? = some text) :
    ∀ b ∈ field.value, 32 ≤ b ∧ b < 127 ∨ b = 9 := by
  unfold HeaderField.text? at h
  split at h
  · rename_i hall
    simpa [List.all_eq_true] using hall
  · cases h

private theorem isBlank_ofNat_iff {b : UInt8} (h : 32 ≤ b ∧ b < 127 ∨ b = 9) :
    Text.isBlank (Char.ofNat b.toNat) = true ↔ b = 32 ∨ b = 9 := by
  have hlt : b.toNat < 256 := b.toNat_lt
  have hval : (Char.ofNat b.toNat).toNat = b.toNat := Text.toNat_ofNat (.inl (by omega))
  have hb : 32 ≤ b.toNat ∧ b.toNat < 127 ∨ b.toNat = 9 := by
    rw [UInt8.le_iff_toNat_le, UInt8.lt_iff_toNat_lt, ← UInt8.toNat_inj] at h
    exact h
  have hgoal : b = 32 ∨ b = 9 ↔ b.toNat = 32 ∨ b.toNat = 9 := by simp only [← UInt8.toNat_inj]; rfl
  rw [hgoal]
  simp only [Text.isBlank, hval, Bool.or_eq_true, Bool.and_eq_true, decide_eq_true_eq, beq_iff_eq]
  omega

/-- A value shows nothing exactly when its text has only blanks. -/
theorem isBlankValue_iff (field : HeaderField) :
    IsBlankValue field.value ↔ ∃ text, field.text? = some text ∧ Text.trim text.toList = [] := by
  have htrim (hvisible : ∀ b ∈ field.value, 32 ≤ b ∧ b < 127 ∨ b = 9) :
      Text.trim (field.value.map fun b => Char.ofNat b.toNat) = [] ↔ IsBlankValue field.value := by
    rw [Text.trim_eq_nil_iff, List.forall_mem_map]
    exact forall₂_congr fun b hb => isBlank_ofNat_iff (hvisible b hb)
  constructor
  · intro hblank
    have hvisible : ∀ b ∈ field.value, 32 ≤ b ∧ b < 127 ∨ b = 9 := by
      intro b hb
      rcases hblank b hb with rfl | rfl <;> decide
    exact ⟨_, text?_eq field hvisible, by rw [String.toList_ofList]; exact (htrim hvisible).2 hblank⟩
  · rintro ⟨text, htext, hnil⟩
    have hvisible := visible_of_text? htext
    rw [text?_eq field hvisible] at htext
    obtain rfl := Option.some.inj htext
    rw [String.toList_ofList] at hnil
    exact (htrim hvisible).1 hnil

theorem targetHost_eq_missing_iff :
    targetHost hs = .error .missingTarget ↔ ∀ field, hs.first? targetHeader = some field → IsBlankValue field.value := by
  unfold targetHost
  cases hfield : hs.first? targetHeader with
  | none => simp
  | some field =>
    simp only [Option.some.injEq, forall_eq', isBlankValue_iff]
    cases htext : field.text? with
    | none => simp
    | some text =>
      simp only [Option.some.injEq, exists_eq_left', List.isEmpty_iff]
      split
      · rename_i hnil
        exact iff_of_true rfl hnil
      · rename_i hnil
        refine iff_of_false ?_ hnil
        split <;> simp

theorem targetHost_eq_invalid {e : Failure} (h : targetHost hs = .error e) (he : e ≠ .missingTarget) :
    ∃ shown, e = .invalidTarget shown := by
  unfold targetHost at h
  split at h
  · exact absurd (Except.error.inj h).symm he
  · split at h
    · exact ⟨_, (Except.error.inj h).symm⟩
    · dsimp only at h
      split at h
      · exact absurd (Except.error.inj h).symm he
      · split at h
        · cases h
        · exact ⟨_, (Except.error.inj h).symm⟩

/-- A header that holds an admissible value in its canonical form names that form. -/
theorem named?_of_canonical (h : Admissible raw) (ht : t.toList = canonical raw) {name : String}
    (hfield : hs.first? targetHeader = some (.ofText name t)) : named? hs = some (canonical raw) := by
  have hvisible {c : Char} (hc : c ∈ t.toList) : 32 < c.toNat ∧ c.toNat < 127 :=
    Authority.visible_of_isLegal h.isLegal_canonical (ht ▸ hc)
  have htext : (HeaderField.ofText name t).text? = some t :=
    HeaderField.text?_ofText name fun c hc => ⟨(hvisible hc).1.le, (hvisible hc).2⟩
  have htrim : Text.trim t.toList = t.toList := by
    have hblank {c : Char} (hc : c ∈ t.toList) : Text.isBlank c = false := (h.plain_canonical (ht ▸ hc)).2
    exact Text.trim_eq_self (fun c hc => hblank (List.mem_of_head? hc)) fun c hc => hblank (List.mem_of_getLast? hc)
  exact named?_eq_some_iff.2 ⟨_, t, hfield, htext, by rw [htrim, ht]⟩

/-- What is written of a target: a host that is not empty, and a port behind a colon if there is one, in which
nothing is a capital, a blank or a separator. -/
structure IsCanonical (t : String) : Prop where
  written : ∃ host port, IsHost host ∧ host ≠ [] ∧ t.toList = written host port ∧
    ∀ p ∈ port, 1 ≤ p ∧ p ≤ 65535
  plain : ∀ c ∈ t.toList, c.isUpper = false ∧ Text.isBlank c = false ∧ ¬ IsSeparator c

theorem Admissible.isCanonical (h : Admissible raw) (ht : t.toList = Target.canonical raw) : IsCanonical t where
  written := ⟨lowerHost raw, port? raw, h.isHost.map_toLower, h.lowerHost_ne_nil, ht, fun _ hp => h.port_le hp⟩
  plain c hc := by
    rw [ht] at hc
    have hplain := h.plain_canonical hc
    exact ⟨isUpper_canonical hc, hplain.2, hplain.1⟩

/-- The target of a request is the canonical form of what its header names; blank and absent headers are told from
what is no target. -/
theorem targetHost_canonical (hs : Headers) :
    (targetHost hs = .error .missingTarget ↔
        ∀ field, hs.first? targetHeader = some field → IsBlankValue field.value) ∧
      (∀ e, targetHost hs = .error e → e ≠ .missingTarget → ∃ shown, e = .invalidTarget shown) ∧
      ∀ t, targetHost hs = .ok t → IsCanonical t ∧
        (∀ hs', hs'.first? targetHeader = some (.ofText targetHeader t) → targetHost hs' = .ok t) ∧
        ∀ hs' t', targetHost hs' = .ok t' → ∃ raw raw', named? hs = some raw ∧ named? hs' = some raw' ∧
          (t = t' ↔ lowerHost raw = lowerHost raw' ∧ port? raw = port? raw') := by
  refine ⟨targetHost_eq_missing_iff, fun e h he => targetHost_eq_invalid h he, fun t h => ?_⟩
  obtain ⟨raw, hraw, hadmissible, ht⟩ := targetHost_eq_ok_iff.1 h
  refine ⟨hadmissible.isCanonical ht, fun hs' hfield => ?_, fun hs' t' h' => ?_⟩
  · have hnamed := named?_of_canonical hadmissible ht hfield
    have hself : t.toList = canonical (canonical raw) := by rw [hadmissible.canonical_canonical, ht]
    exact targetHost_eq_ok_iff.2 ⟨canonical raw, hnamed, hadmissible.canonical, hself⟩
  · obtain ⟨raw', hraw', hadmissible', ht'⟩ := targetHost_eq_ok_iff.1 h'
    refine ⟨raw, raw', hraw, hraw', ?_⟩
    rw [← hadmissible.canonical_eq_iff hadmissible', ← ht, ← ht', String.toList_inj]

theorem targetHost_canonical_capitals :
    let hs := [HeaderField.ofText targetHeader " [FE80::A]:08443"]
    let hs' := [HeaderField.ofText targetHeader "[fe80::a]:8443"]
    targetHost [] = .error .missingTarget ∧
      targetHost [HeaderField.ofText targetHeader "u@h"] = .error (.invalidTarget "u@h") ∧
      targetHost hs = .ok "[fe80::a]:8443" ∧ targetHost hs' = .ok "[fe80::a]:8443" ∧
      IsCanonical "[fe80::a]:8443" ∧
      ∃ raw raw', named? hs = some raw ∧ named? hs' = some raw' ∧ lowerHost raw = lowerHost raw' ∧ port? raw = port? raw' := by
  intro hs hs'
  have hmissing := (targetHost_canonical []).1.2 (by intro field h; cases h)
  have hinvalid : targetHost [HeaderField.ofText targetHeader "u@h"] = .error (.invalidTarget "u@h") := by decide +kernel
  have hok : targetHost hs = .ok "[fe80::a]:8443" := by decide +kernel
  have hcanonical := (targetHost_canonical hs).2.2 "[fe80::a]:8443" hok
  have hok' : targetHost hs' = .ok "[fe80::a]:8443" := hcanonical.2.1 hs' rfl
  obtain ⟨raw, raw', hraw, hraw', hsame⟩ := hcanonical.2.2 hs' "[fe80::a]:8443" hok'
  exact ⟨hmissing, hinvalid, hok, hok', hcanonical.1, raw, raw', hraw, hraw', hsame.1 rfl⟩

end Target

end AccessGateway
