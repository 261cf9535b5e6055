import AccessGateway.Proofs.Token.Signed
import AccessGateway.Proofs.Token.Verifier

/-!
# Accepted tokens

A token that names the algorithm of a verifier is judged under the current key, and if only its signature is wrong
there, under the key of one forced refresh (`validate_of_named`); any other token is turned away before a key is asked
for (`validate_of_unnamed`).  The keys are those of the cache and of the backend, told without the verdict: `currentKey`
is the kept key while it is fresh or else the answer of a refresh, `renewedKey` the answer of a forced refresh.  Under a
key a token is good exactly if the key vouches for it and its claims are those of an access token
(`judge_eq_ok_iff`).
-/

namespace AccessGateway

namespace KeyTask

variable {κ α σ : Type}

/-- The current key for a task that runs alone: the kept one, or the answer of a refresh. -/
def currentAlone (p : KeyPolicy) (now : Nat) (fetch : σ → Except String κ × σ) (c : KeyCache κ) (s : σ) :
    Except String κ × KeyCache κ × σ :=
  match c.current? p now with
  | some k => (.ok k, c, s)
  | none => refreshAlone p now fetch false c s

theorem run_current {p : KeyPolicy} {now : Nat} {fetch : σ → Except String κ × σ}
    (next : Except String κ → KeyTask κ α) (c : KeyCache κ) (s : σ) :
    run p now fetch (.current next) c s =
      run p now fetch (next (currentAlone p now fetch c s).1) (currentAlone p now fetch c s).2.1
        (currentAlone p now fetch c s).2.2 := by
  rw [run, currentAlone]
  cases c.current? p now <;> rfl

end KeyTask

/-! ### Users -/

namespace User

end User

namespace Claims

end Claims

namespace Verifier

variable {v : Verifier} {now : Nat} {σ : Type} {backend : String → σ → Exchange × σ} {token : String} {w : σ}
  {t : SignedToken} {key : VerificationKey}

/-! ### The keys of a verifier -/

/-- The key that the backend answers with, and the backend after it. -/
def fetch {σ : Type} (v : Verifier) (backend : String → σ → Exchange × σ) (w : σ) :
    Except String VerificationKey × σ :=
  let address := v.keyAddress.getD ""
  match requestAddress address with
  | .error e => (.error e.message, w)
  | .ok url => (backend url w).map (keyOf v.algorithm url) id

/-- The current key at a time in seconds, with the verifier and the backend after it: the kept key while it is fresh,
or else the answer of a refresh. -/
def currentKey {σ : Type} (v : Verifier) (now : Nat) (backend : String → σ → Exchange × σ) (w : σ) :
    Except String VerificationKey × Verifier × σ :=
  let (r, cache, w) := KeyTask.currentAlone v.policy (now * 1000) (v.fetch backend) v.cache w
  (r, { v with cache }, w)

/-- The answer of one forced refresh at a time in seconds, with the verifier and the backend after it. -/
def renewedKey {σ : Type} (v : Verifier) (now : Nat) (backend : String → σ → Exchange × σ) (w : σ) :
    Except String VerificationKey × Verifier × σ :=
  let (r, cache, w) := KeyTask.refreshAlone v.policy (now * 1000) (v.fetch backend) true v.cache w
  (r, { v with cache }, w)

/-- How a verdict ends after a forced refresh: without a key the wrong signature stands. -/
def renewal (a : Algorithm) (now : Nat) (t : SignedToken) :
    Except String VerificationKey → KeyTask VerificationKey (Except TokenError User)
  | .error _ => .done (.error CheckError.signatureMismatch.refusal)
  | .ok fresh => .done (t.judge now a fresh)

/-- How a verdict goes on with the current key: only a wrong signature leads to a forced refresh. -/
def judgement (a : Algorithm) (now : Nat) (t : SignedToken) :
    Except String VerificationKey → KeyTask VerificationKey (Except TokenError User)
  | .error reason => .done (.error (.keyUnavailable reason))
  | .ok key => if t.IsForged a key then .refresh true (renewal a now t) else .done (t.judge now a key)

theorem verdict_of_named {a : Algorithm} (hread : SignedToken.readWithAlgorithm token = .ok (t, a)) :
    verdict a now token = .current (judgement a now t) := by
  unfold verdict
  rw [hread]
  dsimp only
  rw [if_neg (fun hnot => hnot rfl)]
  refine congrArg KeyTask.current (funext fun r => ?_)
  cases r with
  | error reason => rfl
  | ok key =>
    dsimp only
    by_cases hforged : t.IsForged a key
    · have hcheck : t.check now a key = .error .signatureMismatch := SignedToken.check_eq_mismatch_iff.2 hforged
      rw [judgement, if_pos hforged, hcheck]
      refine congrArg (KeyTask.refresh true) (funext fun r => ?_)
      cases r with
      | error reason => rfl
      | ok fresh =>
        rw [renewal, SignedToken.judge]
        dsimp only
        cases t.check now a fresh <;> rfl
    · rw [judgement, if_neg hforged, SignedToken.judge]
      cases hcheck : t.check now a key with
      | ok claims => rfl
      | error e =>
        cases e with
        | signatureMismatch => exact absurd (SignedToken.check_eq_mismatch_iff.1 hcheck) hforged
        | rejected e => rfl

/-- The verdict on a token that names the algorithm, by the keys that the cache and the backend give. -/
theorem validate_of_named (hread : SignedToken.readWithAlgorithm token = .ok (t, v.algorithm)) :
    v.validate now backend token w =
      let current := v.currentKey now backend w
      let renewed := current.2.1.renewedKey now backend current.2.2
      match current.1 with
      | .error reason => (.error (.keyUnavailable reason), current.2)
      | .ok key =>
        if t.IsForged v.algorithm key then
          (match renewed.1 with
            | .error _ => .error CheckError.signatureMismatch.refusal
            | .ok fresh => t.judge now v.algorithm fresh, renewed.2)
        else (t.judge now v.algorithm key, current.2) := by
  have hrun : v.validate now backend token w =
      let r := KeyTask.run v.policy (now * 1000) (v.fetch backend) (verdict v.algorithm now token) v.cache w
      (r.1, { v with cache := r.2.1 }, r.2.2) := rfl
  rw [hrun, verdict_of_named hread, KeyTask.run_current]
  unfold currentKey
  generalize KeyTask.currentAlone v.policy (now * 1000) (v.fetch backend) v.cache w = current
  obtain ⟨r, cache, w⟩ := current
  dsimp only
  cases r with
  | error reason => rfl
  | ok key =>
    dsimp only
    by_cases hforged : t.IsForged v.algorithm key
    · rw [judgement, if_pos hforged, if_pos hforged, KeyTask.run]
      unfold renewedKey
      -- how the backend is asked does not depend on the cache
      have hfetch : ({ v with cache } : Verifier).fetch backend = v.fetch backend := rfl
      rw [hfetch]
      dsimp only
      generalize KeyTask.refreshAlone v.policy (now * 1000) (v.fetch backend) true cache w = renewed
      obtain ⟨r, cache, w⟩ := renewed
      cases r <;> rfl
    · rw [judgement, if_neg hforged, if_neg hforged]
      rfl

/-- A token that does not name the algorithm is turned away before a key is asked for. -/
theorem validate_of_unnamed (h : ∀ t, SignedToken.readWithAlgorithm token ≠ .ok (t, v.algorithm)) :
    ∃ e, v.validate now backend token w = (.error e, v, w) := by
  have hverdict : ∃ e, verdict v.algorithm now token = .done (.error e) := by
    unfold verdict
    split
    · exact ⟨_, rfl⟩
    · rename_i t named hread
      have hnamed : named ≠ v.algorithm := by
        rintro rfl
        exact h t hread
      rw [if_pos hnamed]
      exact ⟨_, rfl⟩
  obtain ⟨e, hverdict⟩ := hverdict
  unfold validate
  rw [hverdict]
  exact ⟨e, rfl⟩

theorem validate_eq_ok_iff {user : User} : (v.validate now backend token w).1 = .ok user ↔
    ∃ t key claims, SignedToken.readWithAlgorithm token = .ok (t, v.algorithm) ∧
      (v.currentKey now backend w).1 = .ok key ∧
      (t.Vouches now v.algorithm key claims ∨ t.IsForged v.algorithm key ∧ ∃ fresh,
        ((v.currentKey now backend w).2.1.renewedKey now backend (v.currentKey now backend w).2.2).1 = .ok fresh ∧
          t.Vouches now v.algorithm fresh claims) ∧
      claims.kind = some Claims.accessKind ∧ user = claims.toUser := by
  constructor
  · intro h
    by_cases hnamed : ∃ t, SignedToken.readWithAlgorithm token = .ok (t, v.algorithm)
    · obtain ⟨t, hread⟩ := hnamed
      rw [validate_of_named hread] at h
      dsimp only at h
      cases hcurrent : (v.currentKey now backend w).1 with
      | error reason =>
        rw [hcurrent] at h
        cases h
      | ok key =>
        rw [hcurrent] at h
        dsimp only at h
        by_cases hforged : t.IsForged v.algorithm key
        · rw [if_pos hforged] at h
          dsimp only at h
          cases hrenewed :
              ((v.currentKey now backend w).2.1.renewedKey now backend (v.currentKey now backend w).2.2).1 with
          | error reason =>
            rw [hrenewed] at h
            cases h
          | ok fresh =>
            rw [hrenewed] at h
            obtain ⟨claims, hvouches, hkind, rfl⟩ := SignedToken.judge_eq_ok_iff.1 h
            exact ⟨t, key, claims, hread, rfl, .inr ⟨hforged, fresh, rfl, hvouches⟩, hkind, rfl⟩
        · rw [if_neg hforged] at h
          obtain ⟨claims, hvouches, hkind, rfl⟩ := SignedToken.judge_eq_ok_iff.1 h
          exact ⟨t, key, claims, hread, rfl, .inl hvouches, hkind, rfl⟩
    · obtain ⟨e, he⟩ := validate_of_unnamed (not_exists.1 hnamed)
      rw [he] at h
      cases h
  · rintro ⟨t, key, claims, hread, hcurrent, hvouches, hkind, rfl⟩
    rw [validate_of_named hread]
    dsimp only
    rw [hcurrent]
    dsimp only
    rcases hvouches with hvouches | ⟨hforged, fresh, hrenewed, hvouches⟩
    · rw [if_neg hvouches.not_isForged]
      exact SignedToken.judge_eq_ok_iff.2 ⟨claims, hvouches, hkind, rfl⟩
    · rw [if_pos hforged]
      dsimp only
      rw [hrenewed]
      exact SignedToken.judge_eq_ok_iff.2 ⟨claims, hvouches, hkind, rfl⟩

end Verifier

end AccessGateway
