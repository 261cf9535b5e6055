import AccessGateway.Proofs.Token.KeySystem
import AccessGateway.Token.Verifier

/-!
# The keys of a verifier

Any number of calls of a verifier run at once, one step after the other in any order, and every fetch may end in any
way. The distance of the fetches and the keys that calls get are those of every system of tasks; what is left to show
is that a verifier starts without an attempt, and that a call says that there is no key only right after it was told so
(`blamesKey_verdict`), which is when none has been obtained.
-/

namespace AccessGateway

namespace KeyTask

variable {κ α β : Type}

/-- The task with its result in another form. -/
def map (f : α → β) : KeyTask κ α → KeyTask κ β
  | .done a => .done (f a)
  | .current next => .current fun r => (next r).map f
  | .refresh force next => .refresh force fun r => (next r).map f

/-- The task ends with a result of this kind only right after an answer that is an error. -/
def BlamesKey (kind : α → Prop) : KeyTask κ α → Prop
  | .done a => ¬ kind a
  | .current next | .refresh _ next =>
    (∀ k, (next (.ok k)).BlamesKey kind) ∧
      ∀ reason, (∃ a, next (.error reason) = .done a) ∨ (next (.error reason)).BlamesKey kind

private theorem blamesKey_map_next {kind : α → Prop} {kind' : β → Prop} {f : α → β}
    {next : Except String κ → KeyTask κ α}
    (ih : ∀ r, (next r).BlamesKey kind → ((next r).map f).BlamesKey kind') (h : (current next).BlamesKey kind) :
    ((current next).map f).BlamesKey kind' := by
  obtain ⟨hok, herror⟩ := h
  refine ⟨fun k => ih _ (hok k), ?_⟩
  intro reason
  rcases herror reason with ⟨a, ha⟩ | hlater
  · exact .inl ⟨f a, congrArg (map f) ha⟩
  · exact .inr (ih _ hlater)

theorem blamesKey_map {kind : α → Prop} {kind' : β → Prop} {f : α → β} (hf : ∀ a, kind' (f a) → kind a)
    {t : KeyTask κ α} (h : t.BlamesKey kind) : (t.map f).BlamesKey kind' := by
  induction t with
  | done a => exact fun hkind => h (hf a hkind)
  | current next ih => exact blamesKey_map_next ih h
  | refresh force next ih => exact blamesKey_map_next ih h

end KeyTask

namespace KeyThread

variable {κ α : Type} {kind : α → Prop} {key : Option κ} {th th' : KeyThread κ α}

/-- The task of a thread has ended, or will end with a result of this kind only right after an error. -/
def BlamesKey (kind : α → Prop) : KeyThread κ α → Prop
  | .ready (.done _) => True
  | .ready t => t.BlamesKey kind
  | .waiting force next => (KeyTask.refresh force next).BlamesKey kind
  | .fetching next => (KeyTask.current next).BlamesKey kind

theorem blamesKey_ready {t : KeyTask κ α} (h : (∃ a, t = .done a) ∨ t.BlamesKey kind) :
    (KeyThread.ready t).BlamesKey kind := by
  cases t with
  | done a => trivial
  | current next | refresh force next =>
    rcases h with ⟨a, ha⟩ | h
    · cases ha
    · exact h

theorem blamesKey_pending {next : Except String κ → KeyTask κ α} (h : th.BlamesKey kind)
    (hnext : th.pending? = some next) : (KeyTask.current next).BlamesKey kind := by
  cases th with
  | ready t =>
    cases t with
    | done a => cases hnext
    | current next' | refresh force next' =>
      obtain rfl := Option.some.inj hnext
      exact h
  | waiting force next' | fetching next' =>
    obtain rfl := Option.some.inj hnext
    exact h

theorem Moves.blamesKey (hmoves : th.Moves key th') (h : th.BlamesKey kind) : th'.BlamesKey kind := by
  cases hmoves with
  | stays => exact h
  | waits hnext force => exact blamesKey_pending h hnext
  | fetches force next => exact h
  | answered hnext hr =>
    rename_i r
    obtain ⟨hok, herror⟩ := blamesKey_pending h hnext
    cases r with
    | ok k => exact blamesKey_ready (.inr (hok k))
    | error reason => exact blamesKey_ready (herror reason)

/-- A result of this kind is given only while there is no key. -/
theorem Moves.key_eq_none (hmoves : th.Moves key th') (h : th.BlamesKey kind) {a : α} (hend : th' = .ready (.done a))
    (ha : kind a) : th = th' ∨ key = none := by
  cases hmoves with
  | stays => exact .inl rfl
  | waits hnext force => cases hend
  | fetches force next => cases hend
  | answered hnext hr =>
    rename_i next r
    right
    cases r with
    | ok k =>
      have hlater := (blamesKey_pending h hnext).1 k
      have hdone : next (.ok k) = .done a := by injection hend
      rw [hdone] at hlater
      exact absurd ha hlater
    | error reason => exact hr

end KeyThread

namespace KeySystem

variable {κ α : Type} {kind : α → Prop} {p : KeyPolicy} {s : KeySystem κ α}

theorem blamesKey_run (hs : ∀ (i : Nat) (th : KeyThread κ α), s.threads[i]? = some th → th.BlamesKey kind)
    (events : List (KeyEvent κ)) :
    ∀ (i : Nat) (th : KeyThread κ α), (s.run p events).threads[i]? = some th → th.BlamesKey kind := by
  induction events using List.reverseRecOn with
  | nil => exact hs
  | append_singleton events e ih =>
    intro i th hth
    obtain ⟨th₀, hth₀⟩ := exists_before_of_run p s events e hth
    obtain ⟨th₁, hth₁, hmoves⟩ := moves_run p s events e hth₀
    obtain rfl := Option.some.inj (hth.symm.trans hth₁)
    exact hmoves.blamesKey (ih i th₀ hth₀)

/-- A result of this kind is given in an event only if no key has been obtained by then. -/
theorem latest_eq_none_of_result (hs : ∀ (i : Nat) (th : KeyThread κ α), s.threads[i]? = some th → th.BlamesKey kind)
    (events : List (KeyEvent κ)) (e : KeyEvent κ) {i : Nat} {a : α}
    (hend : (s.run p (events ++ [e])).threads[i]? = some (.ready (.done a))) (ha : kind a) :
    (s.run p events).threads[i]? = some (.ready (.done a)) ∨ latest p s (events ++ [e]) = none := by
  obtain ⟨th₀, hth₀⟩ := exists_before_of_run p s events e hend
  obtain ⟨th₁, hth₁, hmoves⟩ := moves_run p s events e hth₀
  obtain rfl := Option.some.inj (hend.symm.trans hth₁)
  rcases hmoves.key_eq_none (blamesKey_run hs events i th₀ hth₀) rfl ha with rfl | hnone
  · exact .inl hth₀
  · exact .inr hnone

end KeySystem

/-- What a call answers: nothing, or the user of a token. -/
abbrev VerifierAnswer : Type := Except TokenError (Option User)

/-- Calls of a verifier that run at once. -/
abbrev VerifierSystem : Type := KeySystem VerificationKey VerifierAnswer

/-- A call of a verifier. -/
inductive VerifierCall where
  /-- The verdict on a token, at a time in seconds. -/
  | validate (now : Nat) (token : String)
  | refresh (force : Bool)

/-- What a call says that was told that there is no key. -/
def IsUnavailable {α : Type} (result : Except TokenError α) : Prop := ∃ reason, result = .error (.keyUnavailable reason)

namespace VerifierCall

/-- The work of a call; only a verdict has a user. -/
def task (a : Algorithm) : VerifierCall → KeyTask VerificationKey VerifierAnswer
  | .validate now token => (Verifier.verdict a now token).map (·.map some)
  | .refresh force => (Verifier.refreshTask force).map (·.map fun _ => none)

end VerifierCall

namespace Verifier

/-- The verifiers that can be made: from a configuration or with a pinned key, with any spacing. -/
inductive Built : Verifier → Prop where
  | fetching {c : AuthConfig} {v : Verifier} (h : ofConfig c = .ok v) : Built v
  | pinned {pem algorithm : String} {v : Verifier} (h : ofPem pem algorithm = .ok v) : Built v
  | spaced {v : Verifier} (h : Built v) (spacing : Nat) : Built { v with policy := { v.policy with spacing } }

/-- Calls of a verifier that are about to run. -/
def system (v : Verifier) (calls : List VerifierCall) : VerifierSystem :=
  ⟨v.cache, calls.map fun c => .ready (c.task v.algorithm)⟩

/-- What one event of a run does to the key and to the calls. -/
structure Serves (p : KeyPolicy) (s : VerifierSystem) (before : List (KeyEvent VerificationKey))
    (e : KeyEvent VerificationKey) : Prop where
  key_eq : (s.run p (before ++ [e])).cache.key = ((s.run p before).obtained? e).or (s.run p before).cache.key
  key_eq_latest : (s.run p (before ++ [e])).cache.key = KeySystem.latest p s (before ++ [e])
  moves : ∀ (i : Nat) (th : KeyThread VerificationKey VerifierAnswer), (s.run p before).threads[i]? = some th →
    ∃ th', (s.run p (before ++ [e])).threads[i]? = some th' ∧ th.Moves (KeySystem.latest p s (before ++ [e])) th'
  unavailable : ∀ (i : Nat) (result : VerifierAnswer), IsUnavailable result →
    (s.run p (before ++ [e])).threads[i]? = some (.ready (.done result)) →
    (s.run p before).threads[i]? = some (.ready (.done result)) ∨ KeySystem.latest p s (before ++ [e]) = none

/-! ### Calls that find no key -/

theorem isUnavailable_of_map {α β : Type} {f : α → β} {result : Except TokenError α}
    (h : IsUnavailable (result.map f)) : IsUnavailable result := by
  obtain ⟨reason, h⟩ := h
  cases result with
  | error e => exact ⟨reason, congrArg _ (Except.error.inj h)⟩
  | ok a => cases h

private theorem not_isUnavailable_readWithAlgorithm (token : String) :
    ¬ IsUnavailable (SignedToken.readWithAlgorithm token) := by
  rintro ⟨reason, h⟩
  unfold SignedToken.readWithAlgorithm at h
  split at h
  · cases h
  · rename_i t _
    unfold TokenHeader.read at h
    split at h
    · cases h
    · split at h <;> cases h

private theorem not_isUnavailable_read (now : Nat) (encoded : List Char) : ¬ IsUnavailable (Claims.read now encoded) := by
  rintro ⟨reason, h⟩
  unfold Claims.read at h
  split at h
  · cases h
  · split at h
    · cases h
    · split at h
      · cases h
      · split at h <;> cases h

private theorem not_isUnavailable_accessUser (c : Claims) : ¬ IsUnavailable c.accessUser := by
  rintro ⟨reason, h⟩
  unfold Claims.accessUser at h
  dsimp only at h
  split at h <;> cases h

private theorem not_isUnavailable_check {t : SignedToken} {now : Nat} {a : Algorithm} {key : VerificationKey}
    {e : CheckError} (h : t.check now a key = .error e) :
    ¬ IsUnavailable (.error e.refusal : Except TokenError User) := by
  unfold SignedToken.check at h
  split at h
  · obtain rfl := Except.error.inj h
    rintro ⟨reason, hreason⟩
    cases hreason
  · split at h
    · cases hread : Claims.read now t.payload with
      | error e' =>
        rw [hread] at h
        obtain rfl := Except.error.inj h
        rintro ⟨reason, hreason⟩
        refine not_isUnavailable_read now t.payload ⟨reason, ?_⟩
        rw [hread]
        exact congrArg _ (Except.error.inj hreason)
      | ok c =>
        rw [hread] at h
        cases h
    · obtain rfl := Except.error.inj h
      rintro ⟨reason, hreason⟩
      cases hreason

/-- A verdict blames the key only if there is none. -/
theorem blamesKey_verdict (a : Algorithm) (now : Nat) (token : String) :
    (verdict a now token).BlamesKey IsUnavailable := by
  unfold verdict
  split
  · rename_i e hread
    rintro ⟨reason, h⟩
    refine not_isUnavailable_readWithAlgorithm token ⟨reason, ?_⟩
    rw [hread]
    exact congrArg _ (Except.error.inj h)
  · rename_i t named hread
    split
    · rintro ⟨reason, h⟩
      cases h
    · refine ⟨?_, fun reason => .inl ⟨_, rfl⟩⟩
      intro key
      dsimp only
      split
      · exact not_isUnavailable_accessUser _
      · rename_i e hcheck
        exact not_isUnavailable_check hcheck
      · refine ⟨?_, fun reason => .inl ⟨_, rfl⟩⟩
        intro fresh
        dsimp only
        split
        · exact not_isUnavailable_accessUser _
        · rename_i e hcheck
          exact not_isUnavailable_check hcheck

theorem blamesKey_refreshTask (force : Bool) : (refreshTask force).BlamesKey IsUnavailable := by
  refine ⟨?_, fun reason => .inl ⟨_, rfl⟩⟩
  rintro k ⟨reason, h⟩
  cases h

theorem blamesKey_task (a : Algorithm) (c : VerifierCall) : (c.task a).BlamesKey IsUnavailable := by
  cases c with
  | validate now token => exact KeyTask.blamesKey_map (fun _ => isUnavailable_of_map) (blamesKey_verdict a now token)
  | refresh force => exact KeyTask.blamesKey_map (fun _ => isUnavailable_of_map) (blamesKey_refreshTask force)

theorem blamesKey_system (v : Verifier) (calls : List VerifierCall) (i : Nat)
    (th : KeyThread VerificationKey VerifierAnswer) (h : (v.system calls).threads[i]? = some th) :
    th.BlamesKey IsUnavailable := by
  obtain ⟨c, -, rfl⟩ := List.mem_map.1 (List.mem_of_getElem? h)
  exact KeyThread.blamesKey_ready (.inr (blamesKey_task v.algorithm c))

/-! ### Every run -/

theorem eq_of_ofConfig {c : AuthConfig} {v : Verifier} (h : ofConfig c = .ok v) :
    ∃ a address interval, v = ⟨a, some address, ⟨false, interval, defaultSpacing⟩, {}⟩ := by
  unfold ofConfig at h
  cases ha : Algorithm.configured c.algorithm with
  | error f =>
    rw [ha] at h
    cases h
  | ok a =>
    rw [ha] at h
    simp only [bind, Except.bind] at h
    split at h
    · cases h
    · exact ⟨_, _, _, (Except.ok.inj h).symm⟩

theorem eq_of_ofPem {pem algorithm : String} {v : Verifier} (h : ofPem pem algorithm = .ok v) :
    ∃ a k, v = ⟨a, none, ⟨true, leastRefreshInterval, defaultSpacing⟩, ⟨some k, some 0, none⟩⟩ := by
  unfold ofPem at h
  cases ha : Algorithm.configured algorithm with
  | error f =>
    rw [ha] at h
    cases h
  | ok a =>
    rw [ha] at h
    simp only [bind, Except.bind] at h
    split at h
    · cases h
    · exact ⟨_, _, (Except.ok.inj h).symm⟩

theorem lastAttempt_of_built {v : Verifier} (h : v.Built) : v.cache.lastAttempt = none := by
  induction h with
  | fetching h =>
    obtain ⟨a, address, interval, rfl⟩ := eq_of_ofConfig h
    rfl
  | pinned h =>
    obtain ⟨a, k, rfl⟩ := eq_of_ofPem h
    rfl
  | spaced h spacing ih => exact ih

/-- A key is pinned exactly if there is no address to fetch it from. -/
theorem pinned_iff_of_built {v : Verifier} (h : v.Built) : v.policy.pinned ↔ v.keyAddress = none := by
  induction h with
  | fetching h =>
    obtain ⟨a, address, interval, rfl⟩ := eq_of_ofConfig h
    simp
  | pinned h =>
    obtain ⟨a, k, rfl⟩ := eq_of_ofPem h
    simp
  | spaced h spacing ih => exact ih

/-- A verdict that is worked out alone is one of those that calls get which run at once. -/
theorem reaches_validate {σ : Type} (v : Verifier) (now : Nat) (backend : String → σ → Exchange × σ) (token : String)
    (w : σ) :
    KeySystem.Reaches v.policy (now * 1000) ⟨v.cache, [.ready (verdict v.algorithm now token)]⟩
      ⟨(v.validate now backend token w).2.1.cache, [.ready (.done (v.validate now backend token w).1)]⟩ :=
  KeySystem.reaches_run v.policy (now * 1000) _ (verdict v.algorithm now token) v.cache w

/-- What holds in every run of calls of a verifier, in any order and with any results of the fetches.  Fetches start
at least the spacing apart, and a verifier with a pinned key starts none.  After every event the cache holds the key
obtained last, which is never lost and changes only to a key that a fetch gave; every call that is answered gets this
key, or an error while there is none, and only then a call says that no key is available.  Calls that find no fresh key
within less than the spacing have one fetch between them. -/
theorem keys_of_run {v : Verifier} (hv : v.Built) (calls : List VerifierCall)
    {events : List (KeyEvent VerificationKey)} (horder : KeyEvent.InOrder events) :
    let p := v.policy
    let s := v.system calls
    (KeySystem.fetchTimes p s events).Pairwise (fun t u => t + p.spacing ≤ u) ∧
      (v.keyAddress = none → KeySystem.fetchTimes p s events = []) ∧
      (∀ (i : Nat) (result : VerifierAnswer), IsUnavailable result →
        s.threads[i]? ≠ some (.ready (.done result))) ∧
      (∀ before e after, events = before ++ e :: after → Serves p s before e) ∧
      (∀ t, ((KeySystem.fetchTimes p s events).filter fun u => t ≤ u ∧ u < t + p.spacing).length ≤ 1) ∧
      ∀ before i now after, events = before ++ .advance i now :: after →
        KeySystem.Misses p (s.run p before) i now →
        ∃ t ∈ KeySystem.fetchTimes p s events, t = now ∨ t ≤ now ∧ now < t + p.spacing := by
  intro p s
  have hs : s.cache.lastAttempt = none := lastAttempt_of_built hv
  have hblame := blamesKey_system v calls
  refine ⟨KeySystem.fetchTimes_pairwise hs horder, ?_, ?_, ?_, KeySystem.length_filter_fetchTimes_le hs horder, ?_⟩
  · intro hpinned
    apply KeySystem.fetchTimes_eq_nil_of_pinned ((pinned_iff_of_built hv).2 hpinned)
    intro th hth
    obtain ⟨c, -, rfl⟩ := List.mem_map.1 hth
    exact ⟨_, rfl⟩
  · intro i result hresult hi
    obtain ⟨c, -, hc⟩ := List.mem_map.1 (List.mem_of_getElem? hi)
    have htask : c.task v.algorithm = .done result := by injection hc
    have hc := blamesKey_task v.algorithm c
    rw [htask] at hc
    exact hc hresult
  · intro before e after _
    refine ⟨?_, KeySystem.key_run p s _, ?_, ?_⟩
    · rw [KeySystem.run_concat]
      exact KeySystem.key_step p _ e
    · intro i th hth
      exact KeySystem.moves_run p s before e hth
    · intro i result hresult hend
      exact KeySystem.latest_eq_none_of_result hblame before e hend hresult
  · rintro before i now after rfl hmiss
    exact KeySystem.exists_fetch_of_misses hs horder hmiss

/-- Two forced refreshes at once: the second is answered with the key of the first, and there is one fetch. -/
theorem keys_of_two_refreshes :
    ∃ (v : Verifier) (k : VerificationKey) (events : List (KeyEvent VerificationKey)), v.Built ∧ KeyEvent.InOrder events ∧
      KeySystem.fetchTimes v.policy (v.system [.refresh true, .refresh true]) events = [0] ∧
      KeySystem.latest v.policy (v.system [.refresh true, .refresh true]) events = some k ∧
      (KeySystem.fetchTimes v.policy (v.system [.refresh true, .refresh true]) events).Pairwise
        (fun t u => t + v.policy.spacing ≤ u) := by
  let k : VerificationKey := ⟨.rsa, []⟩
  let events : List (KeyEvent VerificationKey) :=
    [.advance 0 0, .advance 1 0, .advance 0 0, .fetched 0 1 (.ok k), .advance 1 2]
  have horder : KeyEvent.InOrder events := by
    show [0, 0, 0, 1, 2].Pairwise (· ≤ ·)
    decide
  let v : Verifier := ⟨.rs256, some "http://b/verification-key", ⟨false, leastRefreshInterval, defaultSpacing⟩, {}⟩
  have hv : ofConfig ⟨.jwt, "http://b", "RS256", .ofSeconds 3600⟩ = .ok v := by rfl
  have hbuilt : v.Built := .fetching hv
  have htimes : KeySystem.fetchTimes v.policy (v.system [.refresh true, .refresh true]) events = [0] := by
    decide +kernel
  have hlatest : KeySystem.latest v.policy (v.system [.refresh true, .refresh true]) events = some k := by
    decide +kernel
  exact ⟨v, k, events, hbuilt, horder, htimes, hlatest, (keys_of_run hbuilt [.refresh true, .refresh true] horder).1⟩

end Verifier

end AccessGateway
