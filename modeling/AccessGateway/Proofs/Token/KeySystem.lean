import AccessGateway.Token.KeyCache
import Mathlib.Data.List.Induction

/-!
# Tasks that share a key cache

What a run of tasks does is read off its events: when fetches start (`fetchTimes`) and which key was obtained last
(`latest`). One event does one of six things (`happens_step`). From this follow, for every order of the events, that
the cache holds the key obtained last (`key_run`), that a task which is answered gets that key, or an error if there
is none (`moves_run`), and that the starts of fetches keep their distance (`fetchTimes_pairwise`), because the time of
the last attempt is the time of the last start (`lastAttempt_run`).
-/

namespace AccessGateway

variable {κ α : Type}

/-- The moment of an event. -/
def KeyEvent.time : KeyEvent κ → Nat
  | .advance _ now | .fetched _ now _ => now

/-- Events whose moments do not go back. -/
def KeyEvent.InOrder (events : List (KeyEvent κ)) : Prop := (events.map KeyEvent.time).Pairwise (· ≤ ·)

/-- An answer gives the key there is, or an error if there is none. -/
def Answers (key : Option κ) : Except String κ → Prop
  | .ok k => key = some k
  | .error _ => key = none

namespace KeyThread

/-- The task is fetching. -/
def isFetching : KeyThread κ α → Bool
  | .fetching _ => true
  | .ready _ | .waiting _ _ => false

/-- How a task that has asked for a key goes on with the answer. -/
def pending? : KeyThread κ α → Option (Except String κ → KeyTask κ α)
  | .ready (.current next) | .ready (.refresh _ next) | .waiting _ next | .fetching next => some next
  | .ready (.done _) => none

/-- What may become of a task in one event, if `key` is the key there is after it. -/
inductive Moves (key : Option κ) : KeyThread κ α → KeyThread κ α → Prop where
  | stays (th : KeyThread κ α) : Moves key th th
  | waits {t : KeyTask κ α} {next : Except String κ → KeyTask κ α} (h : (ready t).pending? = some next) (force : Bool) :
      Moves key (.ready t) (.waiting force next)
  | fetches (force : Bool) (next : Except String κ → KeyTask κ α) : Moves key (.waiting force next) (.fetching next)
  | answered {th : KeyThread κ α} {next : Except String κ → KeyTask κ α} (h : th.pending? = some next)
      {r : Except String κ} (hr : Answers key r) : Moves key th (.ready (next r))

end KeyThread

namespace KeyCache

variable {c : KeyCache κ} {p : KeyPolicy} {force : Bool} {now : Nat}

theorem answers_orElse (c : KeyCache κ) (reason : String) : Answers c.key (c.orElse reason) := by
  unfold orElse
  split
  · assumption
  · assumption

theorem key_of_current? {k : κ} (h : c.current? p now = some k) : c.key = some k := by
  unfold current? at h
  split at h
  · exact h
  · cases h

/-- A refresh is answered from the cache after a recent attempt, or with a fresh key if it is not forced; otherwise
it fetches. -/
theorem attempt_cases (p : KeyPolicy) (force : Bool) (now : Nat) (c : KeyCache κ) :
    (∃ r, c.attempt p force now = (.answered r, c) ∧ Answers c.key r ∧
        (c.triedRecently p now ∨ force = false ∧ c.key.isSome ∧ c.isFresh p now)) ∨
      c.attempt p force now = (.fetch, { c with lastAttempt := some now }) ∧ c.triedRecently p now = false := by
  unfold attempt
  split
  · rename_i k hk
    split
    · rename_i h
      rw [Bool.or_eq_true, Bool.and_eq_true, Bool.not_eq_true'] at h
      refine .inl ⟨_, rfl, hk, ?_⟩
      rcases h with ⟨hforce, hfresh⟩ | htried
      · exact .inr ⟨hforce, by rw [hk]; rfl, hfresh⟩
      · exact .inl htried
    · rename_i h
      rw [Bool.or_eq_true, not_or, Bool.not_eq_true] at h
      exact .inr ⟨rfl, by simpa using h.2⟩
  · rename_i hk
    split
    · rename_i htried
      exact .inl ⟨_, rfl, hk, .inl htried⟩
    · rename_i htried
      exact .inr ⟨rfl, by simpa using htried⟩

theorem answers_conclude (now : Nat) (result : Except String κ) (c : KeyCache κ) :
    Answers (c.conclude now result).2.key (c.conclude now result).1 := by
  cases result with
  | error reason => exact answers_orElse c reason
  | ok k => rfl

theorem lastAttempt_conclude (now : Nat) (result : Except String κ) (c : KeyCache κ) :
    (c.conclude now result).2.lastAttempt = c.lastAttempt := by
  cases result <;> rfl

theorem triedRecently_iff : c.triedRecently p now ↔ ∃ t, c.lastAttempt = some t ∧ now - t < p.spacing := by
  simp [triedRecently, Option.any_eq_true]

end KeyCache

namespace KeySystem

/-- How many tasks are fetching. -/
def fetching (s : KeySystem κ α) : Nat := s.threads.countP KeyThread.isFetching

/-- The moment of an event that starts a fetch. -/
def startTime? (p : KeyPolicy) (s : KeySystem κ α) (e : KeyEvent κ) : Option Nat :=
  if s.fetching < (s.step p e).fetching then some e.time else none

/-- The key that is obtained in an event, with which the fetch of a task ends. -/
def obtained? (s : KeySystem κ α) : KeyEvent κ → Option κ
  | .fetched i _ (.ok k) => if (s.threads[i]?).any KeyThread.isFetching then some k else none
  | _ => none

/-- What the events of a run bring, in their order. -/
def collect {β : Type} (p : KeyPolicy) (f : KeySystem κ α → KeyEvent κ → Option β) :
    KeySystem κ α → List (KeyEvent κ) → List β
  | _, [] => []
  | s, e :: events => (f s e).toList ++ collect p f (s.step p e) events

/-- The moments at which fetches start. -/
def fetchTimes (p : KeyPolicy) (s : KeySystem κ α) (events : List (KeyEvent κ)) : List Nat :=
  collect p (startTime? p) s events

/-- The key obtained last: by the last fetch that gave one, or else the one there was before. -/
def latest (p : KeyPolicy) (s : KeySystem κ α) (events : List (KeyEvent κ)) : Option κ :=
  (s.cache.key.toList ++ collect p obtained? s events).getLast?

/-- A task that waits to refresh has its turn, and there is no fresh key that would do. -/
def Misses (p : KeyPolicy) (s : KeySystem κ α) (i now : Nat) : Prop :=
  s.isFetching = false ∧ ∃ force next, s.threads[i]? = some (.waiting force next) ∧
    ¬ (force = false ∧ s.cache.key.isSome ∧ s.cache.isFresh p now)

/-- What one event can do. -/
inductive Happens (p : KeyPolicy) (s : KeySystem κ α) : KeyEvent κ → KeySystem κ α → Prop where
  | nothing {e : KeyEvent κ} (h : s.obtained? e = none) : Happens p s e s
  | current {i now : Nat} {next : Except String κ → KeyTask κ α} {k : κ}
      (hi : s.threads[i]? = some (.ready (.current next))) (hk : s.cache.current? p now = some k) :
      Happens p s (.advance i now) { s with threads := s.threads.set i (.ready (next (.ok k))) }
  | asked {i now : Nat} {t : KeyTask κ α} {force : Bool} {next : Except String κ → KeyTask κ α}
      (hi : s.threads[i]? = some (.ready t)) (ht : (KeyThread.ready t).pending? = some next) :
      Happens p s (.advance i now) { s with threads := s.threads.set i (ask p s.cache force next) }
  | answered {i now : Nat} {force : Bool} {next : Except String κ → KeyTask κ α} {r : Except String κ}
      (hi : s.threads[i]? = some (.waiting force next)) (hr : Answers s.cache.key r) :
      Happens p s (.advance i now) { s with threads := s.threads.set i (.ready (next r)) }
  | started {i now : Nat} {force : Bool} {next : Except String κ → KeyTask κ α}
      (hi : s.threads[i]? = some (.waiting force next)) (hidle : s.isFetching = false)
      (htried : s.cache.triedRecently p now = false) :
      Happens p s (.advance i now) ⟨{ s.cache with lastAttempt := some now }, s.threads.set i (.fetching next)⟩
  | ended {i now : Nat} {result : Except String κ} {next : Except String κ → KeyTask κ α}
      (hi : s.threads[i]? = some (.fetching next)) :
      Happens p s (.fetched i now result)
        ⟨(s.cache.conclude now result).2, s.threads.set i (.ready (next (s.cache.conclude now result).1))⟩

variable {p : KeyPolicy} {s s' : KeySystem κ α} {e : KeyEvent κ}

/-! ### One event -/

theorem happens_step (p : KeyPolicy) (s : KeySystem κ α) (e : KeyEvent κ) : Happens p s e (s.step p e) := by
  cases e with
  | advance i now =>
    unfold step
    dsimp only
    split
    · rename_i next hi
      split
      · rename_i k hk
        exact .current hi hk
      · exact .asked hi rfl
    · rename_i force next hi
      exact .asked hi rfl
    · rename_i force next hi
      split
      · exact .nothing rfl
      · rename_i hidle
        rcases KeyCache.attempt_cases p force now s.cache with ⟨r, hattempt, hr, -⟩ | ⟨hattempt, htried⟩
        · rw [hattempt]
          exact .answered hi hr
        · rw [hattempt]
          exact .started hi (by simpa using hidle) htried
    · exact .nothing rfl
  | fetched i now result =>
    unfold step
    dsimp only
    split
    · rename_i next hi
      exact .ended hi
    · rename_i hnot
      -- the end of a fetch that nobody waits for brings no key
      refine .nothing ?_
      cases result with
      | error reason => rfl
      | ok k =>
        refine if_neg ?_
        intro hany
        obtain ⟨th, hi, hfetching⟩ := (Option.any_eq_true _ _).1 hany
        cases th with
        | fetching next => exact hnot next hi
        | ready t | waiting force next => cases hfetching

/-- A key that is obtained takes the place of the one there was; nothing else touches it. -/
theorem key_step (p : KeyPolicy) (s : KeySystem κ α) (e : KeyEvent κ) :
    (s.step p e).cache.key = (s.obtained? e).or s.cache.key := by
  have h := happens_step p s e
  revert h
  generalize s.step p e = s'
  rintro (h | _ | _ | _ | _ | ⟨hi⟩)
  · rw [h, Option.none_or]
  · rfl
  · rfl
  · rfl
  · rfl
  · rename_i i now result next
    cases result with
    | error reason => rfl
    | ok k =>
      have hobtained : s.obtained? (.fetched i now (.ok k)) = some k := by
        rw [obtained?, hi]
        rfl
      rw [hobtained]
      rfl

theorem moves_ask (p : KeyPolicy) (c : KeyCache κ) {t : KeyTask κ α} {next : Except String κ → KeyTask κ α}
    (h : (KeyThread.ready t).pending? = some next) (force : Bool) :
    (KeyThread.ready t).Moves c.key (ask p c force next) := by
  unfold ask
  split
  · exact .answered h (c.answers_orElse _)
  · exact .waits h force

/-- A task moves, and the others stay as they are. -/
private theorem moves_set {threads : List (KeyThread κ α)} {key : Option κ} {i : Nat} {th th' : KeyThread κ α}
    (hi : threads[i]? = some th) (hmoves : th.Moves key th') {j : Nat} {th₀ : KeyThread κ α}
    (hj : threads[j]? = some th₀) : ∃ th₁, (threads.set i th')[j]? = some th₁ ∧ th₀.Moves key th₁ := by
  by_cases hij : i = j
  · subst hij
    obtain rfl := Option.some.inj (hj.symm.trans hi)
    obtain ⟨hlt, -⟩ := List.getElem?_eq_some_iff.1 hi
    exact ⟨th', List.getElem?_set_self hlt, hmoves⟩
  · exact ⟨th₀, by rw [List.getElem?_set_ne hij, hj], .stays th₀⟩

/-- What an event makes of each task. -/
theorem moves_step (p : KeyPolicy) (s : KeySystem κ α) (e : KeyEvent κ) {j : Nat} {th : KeyThread κ α}
    (hth : s.threads[j]? = some th) :
    ∃ th', (s.step p e).threads[j]? = some th' ∧ th.Moves (s.step p e).cache.key th' := by
  have h := happens_step p s e
  revert h
  generalize s.step p e = s'
  rintro (_ | ⟨hi, hk⟩ | ⟨hi, ht⟩ | ⟨hi, hr⟩ | ⟨hi⟩ | ⟨hi⟩)
  · exact ⟨th, hth, .stays th⟩
  · have hanswers : Answers s.cache.key (.ok _) := KeyCache.key_of_current? hk
    exact moves_set hi (.answered rfl hanswers) hth
  · exact moves_set hi (moves_ask p s.cache ht _) hth
  · exact moves_set hi (.answered rfl hr) hth
  · exact moves_set hi (.fetches _ _) hth
  · exact moves_set hi (.answered rfl (KeyCache.answers_conclude _ _ _)) hth

theorem length_step (p : KeyPolicy) (s : KeySystem κ α) (e : KeyEvent κ) :
    (s.step p e).threads.length = s.threads.length := by
  have h := happens_step p s e
  revert h
  generalize s.step p e = s'
  rintro (_ | _ | _ | _ | _ | _)
  · rfl
  all_goals exact List.length_set

theorem fetching_set {i : Nat} {th : KeyThread κ α} (hi : s.threads[i]? = some th) (th' : KeyThread κ α) :
    (s.threads.set i th').countP KeyThread.isFetching + th.isFetching.toNat =
      s.fetching + th'.isFetching.toNat := by
  obtain ⟨hlt, rfl⟩ := List.getElem?_eq_some_iff.1 hi
  have hle : s.threads[i].isFetching.toNat ≤ s.threads.countP KeyThread.isFetching := by
    cases hfetching : s.threads[i].isFetching with
    | false => exact Nat.zero_le _
    | true => exact List.countP_pos_iff.2 ⟨_, List.getElem_mem hlt, hfetching⟩
  have hcount : ∀ b : Bool, (if b = true then 1 else 0) = b.toNat := by decide
  rw [List.countP_set hlt, hcount, hcount, fetching]
  omega

private theorem not_fetching_lt_set {i : Nat} {th th' : KeyThread κ α} (hi : s.threads[i]? = some th)
    (hth' : th'.isFetching = false) : ¬ s.fetching < (s.threads.set i th').countP KeyThread.isFetching := by
  have hcount := fetching_set hi th'
  rw [hth', Bool.toNat_false] at hcount
  omega

/-- An event starts a fetch, after no recent attempt and for a task that waited, or it leaves the time of the last
attempt alone. -/
theorem startTime?_cases (p : KeyPolicy) (s : KeySystem κ α) (e : KeyEvent κ) :
    s.startTime? p e = none ∧ (s.step p e).cache.lastAttempt = s.cache.lastAttempt ∨
      s.startTime? p e = some e.time ∧ (s.step p e).cache.lastAttempt = some e.time ∧
        s.cache.triedRecently p e.time = false ∧ ∃ force next, .waiting force next ∈ s.threads := by
  unfold startTime?
  have h := happens_step p s e
  revert h
  generalize s.step p e = s'
  rintro (_ | ⟨hi, -⟩ | ⟨hi, -⟩ | ⟨hi, -⟩ | ⟨hi, -, htried⟩ | ⟨hi⟩)
  · exact .inl ⟨if_neg (Nat.lt_irrefl _), rfl⟩
  · exact .inl ⟨if_neg (not_fetching_lt_set hi rfl), rfl⟩
  · refine .inl ⟨if_neg (not_fetching_lt_set hi ?_), rfl⟩
    unfold ask
    split <;> rfl
  · exact .inl ⟨if_neg (not_fetching_lt_set hi rfl), rfl⟩
  · rename_i i now force next
    right
    refine ⟨if_pos ?_, rfl, htried, force, next, List.mem_of_getElem? hi⟩
    have hadded : (s.threads.set i (.fetching next)).countP KeyThread.isFetching = s.fetching + 1 :=
      fetching_set hi (.fetching next)
    exact Nat.lt_of_succ_le (Nat.le_of_eq hadded.symm)
  · exact .inl ⟨if_neg (not_fetching_lt_set hi rfl), KeyCache.lastAttempt_conclude _ _ _⟩

/-! ### Runs -/

theorem run_concat (p : KeyPolicy) (s : KeySystem κ α) (events : List (KeyEvent κ)) (e : KeyEvent κ) :
    s.run p (events ++ [e]) = (s.run p events).step p e := by
  unfold run
  rw [List.foldl_append]
  rfl

theorem collect_append {β : Type} (p : KeyPolicy) (f : KeySystem κ α → KeyEvent κ → Option β) (s : KeySystem κ α)
    (events events' : List (KeyEvent κ)) :
    collect p f s (events ++ events') = collect p f s events ++ collect p f (s.run p events) events' := by
  induction events generalizing s with
  | nil => rfl
  | cons e events ih =>
    show (f s e).toList ++ collect p f (s.step p e) (events ++ events') = _
    rw [ih, ← List.append_assoc]
    rfl

theorem collect_concat {β : Type} (p : KeyPolicy) (f : KeySystem κ α → KeyEvent κ → Option β) (s : KeySystem κ α)
    (events : List (KeyEvent κ)) (e : KeyEvent κ) :
    collect p f s (events ++ [e]) = collect p f s events ++ (f (s.run p events) e).toList := by
  rw [collect_append]
  exact congrArg _ (List.append_nil _)

theorem exists_of_mem_collect {β : Type} {f : KeySystem κ α → KeyEvent κ → Option β} {events : List (KeyEvent κ)}
    {b : β} (h : b ∈ collect p f s events) : ∃ s₁, ∃ e ∈ events, f s₁ e = some b := by
  induction events generalizing s with
  | nil => cases h
  | cons e events ih =>
    rcases List.mem_append.1 h with h | h
    · exact ⟨s, e, List.mem_cons_self, Option.mem_toList.1 h⟩
    · obtain ⟨s₁, e₁, he₁, hb⟩ := ih h
      exact ⟨s₁, e₁, List.mem_cons_of_mem e he₁, hb⟩

/-- The cache holds the key that was obtained last. -/
theorem key_run (p : KeyPolicy) (s : KeySystem κ α) (events : List (KeyEvent κ)) :
    (s.run p events).cache.key = latest p s events := by
  induction events using List.reverseRecOn with
  | nil =>
    show s.cache.key = (s.cache.key.toList ++ []).getLast?
    cases s.cache.key <;> rfl
  | append_singleton events e ih =>
    rw [run_concat, key_step, ih, latest, latest, collect_concat, ← List.append_assoc]
    cases ((s.run p events).obtained? e) with
    | none => rw [Option.none_or, Option.toList_none, List.append_nil]
    | some k => rw [Option.some_or, Option.toList_some, List.getLast?_concat]

/-- What one event of a run makes of each task. -/
theorem moves_run (p : KeyPolicy) (s : KeySystem κ α) (events : List (KeyEvent κ)) (e : KeyEvent κ) {i : Nat}
    {th : KeyThread κ α} (hth : (s.run p events).threads[i]? = some th) :
    ∃ th', (s.run p (events ++ [e])).threads[i]? = some th' ∧ th.Moves (latest p s (events ++ [e])) th' := by
  rw [← key_run, run_concat]
  exact moves_step p _ e hth

/-- An event adds no task. -/
theorem exists_before_of_run (p : KeyPolicy) (s : KeySystem κ α) (events : List (KeyEvent κ)) (e : KeyEvent κ) {i : Nat}
    {th : KeyThread κ α} (hth : (s.run p (events ++ [e])).threads[i]? = some th) :
    ∃ th₀, (s.run p events).threads[i]? = some th₀ := by
  obtain ⟨hlt, -⟩ := List.getElem?_eq_some_iff.1 hth
  rw [run_concat, length_step] at hlt
  exact ⟨_, List.getElem?_eq_getElem hlt⟩

/-! ### The distance of fetches -/

theorem fetchTimes_concat (p : KeyPolicy) (s : KeySystem κ α) (events : List (KeyEvent κ)) (e : KeyEvent κ) :
    fetchTimes p s (events ++ [e]) = fetchTimes p s events ++ (startTime? p (s.run p events) e).toList :=
  collect_concat p _ s events e

/-- The time of the last attempt is the time at which the last fetch started. -/
theorem lastAttempt_run (hs : s.cache.lastAttempt = none) (events : List (KeyEvent κ)) :
    (s.run p events).cache.lastAttempt = (fetchTimes p s events).getLast? := by
  induction events using List.reverseRecOn with
  | nil => exact hs
  | append_singleton events e ih =>
    rw [run_concat, fetchTimes_concat]
    rcases startTime?_cases p (s.run p events) e with ⟨hnone, hlast⟩ | ⟨hsome, hlast, -⟩
    · rw [hnone, hlast, ih, Option.toList_none, List.append_nil]
    · rw [hsome, hlast, Option.toList_some, List.getLast?_concat]

theorem le_of_mem_fetchTimes {events : List (KeyEvent κ)} (horder : KeyEvent.InOrder (events ++ [e])) {t : Nat}
    (ht : t ∈ fetchTimes p s events) : t ≤ e.time := by
  obtain ⟨s₁, e₁, he₁, hstart⟩ := exists_of_mem_collect ht
  have htime : t = e₁.time := by
    rcases startTime?_cases p s₁ e₁ with ⟨hnone, -⟩ | ⟨hsome, -⟩
    · rw [hnone] at hstart
      cases hstart
    · exact Option.some.inj (hstart.symm.trans hsome)
  rw [KeyEvent.InOrder, List.map_append, List.pairwise_append] at horder
  rw [htime]
  exact horder.2.2 _ (List.mem_map_of_mem he₁) _ List.mem_cons_self

theorem inOrder_of_append {events after : List (KeyEvent κ)} (horder : KeyEvent.InOrder (events ++ after)) :
    KeyEvent.InOrder events := by
  rw [KeyEvent.InOrder, List.map_append, List.pairwise_append] at horder
  exact horder.1

/-- Fetches start at least the spacing apart. -/
theorem fetchTimes_pairwise (hs : s.cache.lastAttempt = none) {events : List (KeyEvent κ)}
    (horder : KeyEvent.InOrder events) : (fetchTimes p s events).Pairwise fun t u => t + p.spacing ≤ u := by
  induction events using List.reverseRecOn with
  | nil => exact List.Pairwise.nil
  | append_singleton events e ih =>
    have hbefore := ih (inOrder_of_append horder)
    rw [fetchTimes_concat]
    rcases startTime?_cases p (s.run p events) e with ⟨hnone, -⟩ | ⟨hsome, -, htried, -⟩
    · rwa [hnone, Option.toList_none, List.append_nil]
    · rw [hsome, Option.toList_some, List.pairwise_append]
      refine ⟨hbefore, List.pairwise_singleton _ _, ?_⟩
      intro t ht u hu
      obtain rfl := List.mem_singleton.1 hu
      -- the last fetch before is not recent, and no other one is later than it
      rcases List.eq_nil_or_concat (fetchTimes p s events) with hnil | ⟨earlier, last, hlast⟩
      · rw [hnil] at ht
        cases ht
      · rw [List.concat_eq_append] at hlast
        have hattempt : (s.run p events).cache.lastAttempt = some last := by
          rw [lastAttempt_run hs, hlast, List.getLast?_concat]
        have hnotRecent : ¬ e.time - last < p.spacing := by
          intro hrecent
          rw [KeyCache.triedRecently_iff.2 ⟨last, hattempt, hrecent⟩] at htried
          cases htried
        have hle : last ≤ e.time := le_of_mem_fetchTimes horder (by rw [hlast]; exact List.mem_concat_self)
        rw [hlast] at ht hbefore
        rcases List.mem_append.1 ht with ht | ht
        · have hdistance := (List.pairwise_append.1 hbefore).2.2 t ht last (List.mem_singleton_self last)
          omega
        · obtain rfl := List.mem_singleton.1 ht
          omega

/-- No two fetches start within less than the spacing. -/
theorem length_filter_fetchTimes_le (hs : s.cache.lastAttempt = none) {events : List (KeyEvent κ)}
    (horder : KeyEvent.InOrder events) (t : Nat) :
    ((fetchTimes p s events).filter fun u => t ≤ u ∧ u < t + p.spacing).length ≤ 1 := by
  have hpairs := (fetchTimes_pairwise (p := p) hs horder).filter fun u => t ≤ u ∧ u < t + p.spacing
  have hwindow : ∀ u ∈ (fetchTimes p s events).filter (fun u => t ≤ u ∧ u < t + p.spacing),
      t ≤ u ∧ u < t + p.spacing := by
    intro u hu
    simpa using (List.mem_filter.1 hu).2
  revert hpairs hwindow
  generalize (fetchTimes p s events).filter (fun u => t ≤ u ∧ u < t + p.spacing) = starts
  intro hpairs hwindow
  match starts with
  | [] => exact Nat.zero_le _
  | [u] => exact Nat.le_refl _
  | u :: v :: rest =>
    have hdistance := (List.pairwise_cons.1 hpairs).1 v List.mem_cons_self
    have hu := hwindow u List.mem_cons_self
    have hv := hwindow v (List.mem_cons_of_mem _ List.mem_cons_self)
    omega

/-- A task that has its turn and finds no fresh key starts a fetch, unless one started less than the spacing before. -/
theorem exists_fetch_of_misses (hs : s.cache.lastAttempt = none) {events after : List (KeyEvent κ)} {i now : Nat}
    (horder : KeyEvent.InOrder (events ++ .advance i now :: after)) (hmiss : Misses p (s.run p events) i now) :
    ∃ t ∈ fetchTimes p s (events ++ .advance i now :: after), t = now ∨ t ≤ now ∧ now < t + p.spacing := by
  rw [List.append_cons] at horder ⊢
  have horder := inOrder_of_append horder
  have hmem : ∀ {t : Nat}, t ∈ fetchTimes p s (events ++ [.advance i now]) →
      t ∈ fetchTimes p s (events ++ [.advance i now] ++ after) := by
    intro t ht
    rw [fetchTimes, collect_append]
    exact List.mem_append_left _ ht
  obtain ⟨hidle, force, next, hi, hstale⟩ := hmiss
  rcases KeyCache.attempt_cases p force now (s.run p events).cache with ⟨r, -, -, hreason⟩ | ⟨hattempt, -⟩
  · rcases hreason with htried | hfresh
    · obtain ⟨t, hlast, hrecent⟩ := KeyCache.triedRecently_iff.1 htried
      rw [lastAttempt_run hs] at hlast
      have ht : t ∈ fetchTimes p s events := List.mem_of_getLast? hlast
      have hle : t ≤ now := le_of_mem_fetchTimes horder ht
      have ht' : t ∈ fetchTimes p s (events ++ [.advance i now]) := by
        rw [fetchTimes_concat]
        exact List.mem_append_left _ ht
      exact ⟨t, hmem ht', .inr ⟨hle, by omega⟩⟩
    · exact absurd hfresh hstale
  · have hlast : (s.run p (events ++ [.advance i now])).cache.lastAttempt = some now := by
      rw [run_concat]
      unfold step
      simp only [hi, hidle, hattempt, Bool.false_eq_true, if_false]
    rw [lastAttempt_run hs] at hlast
    exact ⟨now, hmem (List.mem_of_getLast? hlast), .inl rfl⟩

/-! ### Pinned keys -/

/-- With a pinned key no task ever waits. -/
theorem ready_step (hp : p.pinned) (hready : ∀ th ∈ s.threads, ∃ t, th = .ready t) (e : KeyEvent κ) :
    ∀ th ∈ (s.step p e).threads, ∃ t, th = .ready t := by
  have hset : ∀ (i : Nat) (t : KeyTask κ α), ∀ th ∈ s.threads.set i (.ready t), ∃ t, th = .ready t := by
    intro i t th hth
    rcases List.mem_or_eq_of_mem_set hth with hth | rfl
    · exact hready th hth
    · exact ⟨t, rfl⟩
  have h := happens_step p s e
  revert h
  generalize s.step p e = s'
  rintro (_ | _ | _ | _ | ⟨hi⟩ | _)
  · exact hready
  · exact hset _ _
  · rw [ask, if_pos hp]
    exact hset _ _
  · exact hset _ _
  · -- only a task that waits can start a fetch
    obtain ⟨t, ht⟩ := hready _ (List.mem_of_getElem? hi)
    cases ht
  · exact hset _ _

/-- With a pinned key no fetch ever starts. -/
theorem fetchTimes_eq_nil_of_pinned (hp : p.pinned) (hready : ∀ th ∈ s.threads, ∃ t, th = .ready t)
    (events : List (KeyEvent κ)) : fetchTimes p s events = [] := by
  induction events generalizing s with
  | nil => rfl
  | cons e events ih =>
    have hstart : s.startTime? p e = none := by
      rcases startTime?_cases p s e with ⟨hnone, -⟩ | ⟨-, -, -, force, next, hwaiting⟩
      · exact hnone
      · obtain ⟨t, ht⟩ := hready _ hwaiting
        cases ht
    show (s.startTime? p e).toList ++ fetchTimes p (s.step p e) events = []
    rw [hstart, ih (ready_step hp hready e)]
    rfl

/-! ### A task alone -/

/-- Events of one moment lead from one state of a system to another. -/
def Reaches (p : KeyPolicy) (now : Nat) (s s' : KeySystem κ α) : Prop :=
  ∃ events : List (KeyEvent κ), (∀ e ∈ events, e.time = now) ∧ s.run p events = s'

theorem reaches_refl (p : KeyPolicy) (now : Nat) (s : KeySystem κ α) : Reaches p now s s := ⟨[], nofun, rfl⟩

theorem reaches_step (p : KeyPolicy) (s : KeySystem κ α) (e : KeyEvent κ) : Reaches p e.time s (s.step p e) := by
  refine ⟨[e], ?_, rfl⟩
  intro e' he'
  rw [List.mem_singleton.1 he']

theorem Reaches.trans {now : Nat} {s₁ s₂ s₃ : KeySystem κ α} (h : Reaches p now s₁ s₂) (h' : Reaches p now s₂ s₃) :
    Reaches p now s₁ s₃ := by
  obtain ⟨events, htimes, rfl⟩ := h
  obtain ⟨events', htimes', rfl⟩ := h'
  refine ⟨events ++ events', ?_, List.foldl_append⟩
  intro e he
  rcases List.mem_append.1 he with he | he
  · exact htimes e he
  · exact htimes' e he

private theorem reaches_refreshAlone {σ : Type} (p : KeyPolicy) (now : Nat) (fetch : σ → Except String κ × σ)
    (force : Bool) (next : Except String κ → KeyTask κ α) (c : KeyCache κ) (w : σ) :
    Reaches p now ⟨c, [ask p c force next]⟩
      ⟨(KeyTask.refreshAlone p now fetch force c w).2.1,
        [.ready (next (KeyTask.refreshAlone p now fetch force c w).1)]⟩ := by
  unfold ask KeyTask.refreshAlone
  by_cases hp : p.pinned = true
  · rw [if_pos hp, if_pos hp]
    exact reaches_refl p now _
  · rw [if_neg hp, if_neg hp]
    have hturn := reaches_step p ⟨c, [.waiting force next]⟩ (.advance 0 now)
    rcases KeyCache.attempt_cases p force now c with ⟨r, hattempt, -⟩ | ⟨hattempt, -⟩
    · rw [hattempt]
      simpa [step, isFetching, hattempt, KeyEvent.time] using hturn
    · rw [hattempt]
      have hstart : Reaches p now ⟨c, [.waiting force next]⟩ ⟨{ c with lastAttempt := some now }, [.fetching next]⟩ := by
        simpa [step, isFetching, hattempt, KeyEvent.time] using hturn
      exact hstart.trans
        (reaches_step p ⟨{ c with lastAttempt := some now }, [.fetching next]⟩ (.fetched 0 now (fetch w).1))

/-- A task that runs alone runs as one of the runs of a system that holds no other. -/
theorem reaches_run {σ : Type} (p : KeyPolicy) (now : Nat) (fetch : σ → Except String κ × σ) (t : KeyTask κ α)
    (c : KeyCache κ) (w : σ) :
    Reaches p now ⟨c, [.ready t]⟩ ⟨(t.run p now fetch c w).2.1, [.ready (.done (t.run p now fetch c w).1)]⟩ := by
  induction t generalizing c w with
  | done a => exact reaches_refl p now _
  | current next ih =>
    have hturn := reaches_step p ⟨c, [.ready (.current next)]⟩ (.advance 0 now)
    unfold KeyTask.run
    cases hcurrent : c.current? p now with
    | some k =>
      have hserved : Reaches p now ⟨c, [.ready (.current next)]⟩ ⟨c, [.ready (next (.ok k))]⟩ := by
        simpa [step, hcurrent, KeyEvent.time] using hturn
      exact hserved.trans (ih (.ok k) c w)
    | none =>
      have hasked : Reaches p now ⟨c, [.ready (.current next)]⟩ ⟨c, [ask p c false next]⟩ := by
        simpa [step, hcurrent, KeyEvent.time] using hturn
      exact hasked.trans ((reaches_refreshAlone p now fetch false next c w).trans (ih _ _ _))
  | refresh force next ih =>
    unfold KeyTask.run
    have hasked : Reaches p now ⟨c, [.ready (.refresh force next)]⟩ ⟨c, [ask p c force next]⟩ :=
      reaches_step p ⟨c, [.ready (.refresh force next)]⟩ (.advance 0 now)
    exact hasked.trans ((reaches_refreshAlone p now fetch force next c w).trans (ih _ _ _))

end KeySystem

end AccessGateway
