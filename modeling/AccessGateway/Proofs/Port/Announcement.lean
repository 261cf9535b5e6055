import AccessGateway.Port.Announcement
import AccessGateway.Proofs.Port.Rendering

/-!
# Accepted announcements

An announcement is taken exactly when it is meant for this gateway, is not blank, and reads as a set that names no
port twice (`accept_eq_ok_iff`).  Whether it is blank is asked of the text and not of the set, and an expression of
commas names no port without being blank; so the empty set is taken too, from the announcements described by
`accept_eq_empty_iff`.
-/

namespace AccessGateway

namespace PortAnnouncement

/-- It names this gateway, or none. -/
def AddressedTo (gatewayId : String) (a : PortAnnouncement) : Prop :=
  ∀ other, a.gatewayId = some other → other = "" ∨ other = gatewayId

/-- The expressions of both transports. -/
def expressions (a : PortAnnouncement) : List String := [a.tcpRanges, a.udpRanges]

/-- There is nothing but blanks in it. -/
def IsBlank (a : PortAnnouncement) : Prop := ∀ expr ∈ a.expressions, ∀ c ∈ expr.toList, Text.isBlank c = true

/-- There is nothing but commas and blanks in it. -/
def NamesNoPort (a : PortAnnouncement) : Prop :=
  ∀ expr ∈ a.expressions, ∀ c ∈ expr.toList, c = ',' ∨ Text.isBlank c = true

variable {gatewayId : String} {a : PortAnnouncement} {s : PortSet}

private theorem addressedTo_iff :
    a.AddressedTo gatewayId ↔ a.gatewayId.filter (fun id => !id.isEmpty && id ≠ gatewayId) = none := by
  unfold AddressedTo
  cases a.gatewayId with
  | none => simp
  | some other =>
    by_cases hempty : other = ""
    · simp [hempty]
    · by_cases hid : other = gatewayId <;> simp [hempty, hid]

private theorem isBlank_iff :
    a.IsBlank ↔ ((Text.trimmed a.tcpRanges).isEmpty && (Text.trimmed a.udpRanges).isEmpty) = true := by
  rw [Bool.and_eq_true, Text.isEmpty_trimmed_iff, Text.isEmpty_trimmed_iff, IsBlank, expressions,
    List.forall_mem_cons, List.forall_mem_singleton]

theorem accept_eq_ok_iff :
    a.accept gatewayId = .ok s ↔ a.AddressedTo gatewayId ∧ ¬ a.IsBlank ∧
      PortSet.readChecked a.tcpRanges a.udpRanges = .ok s := by
  rw [addressedTo_iff, isBlank_iff]
  unfold accept
  split
  · rename_i other hother
    simp only [hother, reduceCtorEq, false_and]
  · rename_i hnone
    simp only [hnone, true_and]
    split
    · rename_i hblank
      simp only [hblank, not_true_eq_false, false_and, reduceCtorEq]
    · rename_i hblank
      rw [and_iff_right hblank]
      cases PortSet.readChecked a.tcpRanges a.udpRanges <;> simp [Except.mapError]

theorem namesNoPort_iff (h : a.accept gatewayId = .ok s) : a.NamesNoPort ↔ s.expand = [] := by
  have hread := (PortSet.readChecked_eq_ok_iff.1 (accept_eq_ok_iff.1 h).2.2).1
  rw [NamesNoPort, expressions, ← PortSet.read_eq_empty_iff, hread, PortSet.expand_eq_nil_iff, Except.ok.injEq]

/-- An announcement that names no port is not blank exactly when there is a comma in it. -/
private theorem not_isBlank_iff (h : a.NamesNoPort) : ¬ a.IsBlank ↔ ∃ expr ∈ a.expressions, ',' ∈ expr.toList := by
  unfold IsBlank
  push Not
  constructor
  · rintro ⟨expr, hexpr, c, hc, hblank⟩
    rcases h expr hexpr c hc with rfl | hc'
    · exact ⟨expr, hexpr, hc⟩
    · exact absurd hc' hblank
  · rintro ⟨expr, hexpr, hc⟩
    exact ⟨expr, hexpr, ',', hc, by decide⟩

/-- The empty set is taken from what has commas and otherwise only blanks. -/
theorem accept_eq_empty_iff :
    a.accept gatewayId = .ok .empty ↔
      a.AddressedTo gatewayId ∧ a.NamesNoPort ∧ ∃ expr ∈ a.expressions, ',' ∈ expr.toList := by
  constructor
  · intro h
    have hnames : a.NamesNoPort := (namesNoPort_iff h).2 rfl
    obtain ⟨haddressed, hblank, -⟩ := accept_eq_ok_iff.1 h
    exact ⟨haddressed, hnames, (not_isBlank_iff hnames).1 hblank⟩
  · rintro ⟨haddressed, hnames, hcomma⟩
    refine accept_eq_ok_iff.2 ⟨haddressed, (not_isBlank_iff hnames).2 hcomma, ?_⟩
    exact PortSet.readChecked_eq_ok_iff.2 ⟨PortSet.read_eq_empty_iff.2 hnames, List.nodup_nil⟩

end PortAnnouncement

namespace PortSource

variable {p : PortSource} {σ : Type} {backend : String → σ → Exchange × σ} {w : σ} {s : PortSet}

/-- What is fetched was announced. -/
theorem exists_accept_of_fetch (h : (p.fetch backend w).1 = .ok s) :
    ∃ a : PortAnnouncement, a.accept p.gatewayId = .ok s := by
  unfold fetch at h
  split at h
  · cases h
  · simp only [Prod.map_fst] at h
    unfold received at h
    split at h
    · cases h
    · split at h
      · cases h
      · exact ⟨_, h⟩

/-- The same answer to the same request is the same set. -/
theorem fetch_congr {w' : σ} (h : ∀ url, p.requestUrl = .ok url → (backend url w').1 = (backend url w).1) :
    (p.fetch backend w').1 = (p.fetch backend w).1 := by
  unfold fetch
  split
  · rfl
  · rename_i url hurl
    rw [Prod.map_fst, Prod.map_fst, h url hurl]

end PortSource

end AccessGateway
