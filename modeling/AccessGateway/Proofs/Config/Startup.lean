import AccessGateway.Gateway.Startup
import AccessGateway.Proofs.Except
import AccessGateway.Proofs.Port.Listening
import AccessGateway.Proofs.Text.Basic
import Mathlib

/-!
# What a checked configuration starts with

A configuration is checked for addresses that are not blank, and the parts that use them look for what is left of an
address without the slashes at its end.  So an address that passes the check is missing for its part exactly if it
consists of slashes (`isSlashes_iff`), and that is the only way in which the start of a checked configuration finds an
address missing.  The initial dynamic ports are read at both places in the same way.
-/

namespace AccessGateway

variable {u : String} {f : Failure}

/-- A text of slashes and nothing else. -/
def IsSlashes (u : String) : Prop := u ≠ "" ∧ ∀ c ∈ u.toList, c = '/'

theorem isEmpty_withoutTrailingSlashes_iff :
    (withoutTrailingSlashes u).isEmpty = true ↔ ∀ c ∈ u.toList, c = '/' := by
  rw [withoutTrailingSlashes, String.isEmpty_iff, ← String.toList_inj, String.toList_ofList, String.toList_empty,
    List.reverse_eq_nil_iff, List.dropWhile_eq_nil_iff]
  simp only [List.mem_reverse, decide_eq_true_eq]

theorem Config.isGiven_iff : isGiven u = true ↔ ∃ c ∈ u.toList, Text.isBlank c = false := by
  rw [isGiven, Bool.not_eq_true', ← Bool.not_eq_true, Text.isEmpty_trimmed_iff]
  push Not
  simp only [Bool.not_eq_true]

/-- The texts that pass the check and are no address. -/
theorem isSlashes_iff : IsSlashes u ↔ Config.isGiven u = true ∧ (withoutTrailingSlashes u).isEmpty = true := by
  rw [Config.isGiven_iff, isEmpty_withoutTrailingSlashes_iff, IsSlashes]
  refine and_congr_left fun hslashes => ?_
  constructor
  · intro hne
    obtain ⟨c, hc⟩ := List.exists_mem_of_ne_nil u.toList (mt String.toList_eq_nil_iff.1 hne)
    refine ⟨c, hc, ?_⟩
    rw [hslashes c hc]
    decide
  · rintro ⟨c, hc, -⟩ rfl
    cases hc

/-! ### What passes the check -/

namespace Config

theorem require_eq_ok_iff {holds : Bool} {text : String} {x : Unit} : require holds text = .ok x ↔ holds = true := by
  cases holds <;> simp [require]

theorem checkDynamicPorts_eq_ok_iff {c : DynamicPortsConfig} : checkDynamicPorts c = .ok () ↔
    isGiven c.backendUrl = true ∧ isGiven c.gatewayId = true ∧
      ∃ set, PortSet.readChecked c.tcpRanges c.udpRanges = .ok set := by
  unfold checkDynamicPorts
  cases PortSet.readChecked c.tcpRanges c.udpRanges <;>
    simp [bind_eq_ok_iff, require_eq_ok_iff, throw, throwThe, MonadExceptOf.throw, pure, Except.pure]

/-- The requirements of a section count if it is switched on. -/
theorem check_eq_ok_iff {c : Config} : c.check = .ok () ↔
    isGiven c.auth.backendUrl = true ∧ (c.mirror.enabled = true → checkMirror c.mirror = .ok ()) ∧
      (c.firewall.enabled = true → isGiven c.firewall.url = true) ∧
      (c.dynamicPorts.enabled = true → checkDynamicPorts c.dynamicPorts = .ok ()) := by
  unfold check
  cases c.mirror.enabled <;> cases c.firewall.enabled <;> cases c.dynamicPorts.enabled <;>
    simp [bind_eq_ok_iff, require_eq_ok_iff, Unique.exists_iff, pure, Except.pure]

end Config

/-! ### Failures that say that something is required -/

/-- The failure says that something is required. -/
def Failure.SaysRequired (f : Failure) : Prop := ∃ what, f = .config (what ++ " is required")

theorem Failure.SaysRequired.getLast? {text : String} (h : (Failure.config text).SaysRequired) :
    text.toList.getLast? = some 'd' := by
  obtain ⟨what, hwhat⟩ := h
  rw [Failure.config.inj hwhat, String.toList_append, List.getLast?_append]
  rfl

/-- Of the refusals of an algorithm only that of a symmetric one says so. -/
theorem Algorithm.symmetric_of_saysRequired {text : String} (h : configured text = .error f) (hf : f.SaysRequired) :
    ∃ a, ofName? (Text.trimmed text) = some a ∧ a.isSymmetric = true := by
  unfold configured at h
  split at h
  · obtain rfl := Except.error.inj h
    have hlast := hf.getLast?
    rw [String.toList_append, List.getLast?_append] at hlast
    cases hlast
  · rename_i a ha
    split at h
    · exact ⟨a, ha, ‹_›⟩
    · cases h

/-! ### What the parts refuse -/

theorem Verifier.ofConfig_eq_error_iff {c : AuthConfig} : Verifier.ofConfig c = .error f ↔
    Algorithm.configured c.algorithm = .error f ∨ (∃ a, Algorithm.configured c.algorithm = .ok a) ∧
      (withoutTrailingSlashes c.backendUrl).isEmpty = true ∧ f = .config "auth.backend_url is required" := by
  unfold ofConfig
  dsimp only
  generalize (withoutTrailingSlashes c.backendUrl).isEmpty = empty
  cases Algorithm.configured c.algorithm with
  | error e => simp [bind, Except.bind]
  | ok a => cases empty <;>
      simp [bind, Except.bind, throw, throwThe, MonadExceptOf.throw, pure, Except.pure, eq_comm (a := f)]

theorem Firewall.ofConfig_eq_error_iff {c : FirewallConfig} {vs : Settings.Variables} :
    Firewall.ofConfig c vs = .error f ↔ c.enabled = true ∧ (withoutTrailingSlashes c.url).isEmpty = true ∧
      f = .config "firewall.url is required" := by
  unfold ofConfig
  dsimp only
  generalize (withoutTrailingSlashes c.url).isEmpty = empty
  cases c.enabled <;> cases empty <;> simp [eq_comm (a := f)]

theorem PortSource.ofConfig_eq_error_iff {c : DynamicPortsConfig} : PortSource.ofConfig c = .error f ↔
    (withoutTrailingSlashes c.backendUrl).isEmpty = true ∧ f = .config "dynamic_ports.backend_url is required" := by
  unfold ofConfig
  dsimp only
  generalize (withoutTrailingSlashes c.backendUrl).isEmpty = empty
  cases empty <;> simp [eq_comm (a := f)]

namespace Config

variable {c : Config} {bind : Binding}

theorem assigned_of_read {tcp udp : String} {set : PortSet} (h : PortSet.read tcp udp = .ok set) :
    assigned tcp udp = .ok { ranges := set } := by
  unfold assigned DynamicPorts.assign
  rw [h]
  rfl

theorem assigned_of_read_error {tcp udp : String} {e : PortError} (h : PortSet.read tcp udp = .error e) :
    assigned tcp udp = .error (.portRange e) := by
  unfold assigned DynamicPorts.assign
  rw [h]
  rfl

/-- The static ports fail for no reason that lies in the configuration. -/
theorem startStaticPorts_ne_config {text : String} : c.startStaticPorts bind ≠ .error (.config text) := by
  intro h
  unfold startStaticPorts at h
  dsimp only at h
  split at h
  · cases h
  cases hread : PortSet.read (singlePort c.server.tcpPort) (singlePort c.server.udpPort) with
  | error e =>
    rw [assigned_of_read_error hread] at h
    cases h
  | ok set =>
    rw [assigned_of_read hread] at h
    rcases bind_eq_error_iff.1 h with h | ⟨d, hd, h⟩
    · cases h
    · obtain rfl := Except.ok.inj hd
      rcases bind_eq_error_iff.1 h with h | ⟨n, -, h⟩
      · rcases DynamicPorts.error_start rfl h with ⟨e, -, he⟩ | ⟨-, p, rest, message, -, -, hp⟩
        · cases he
        · cases hp
      · cases h

theorem startDynamicPorts_eq_error_iff (hread : c.dynamicPorts.enabled = true → ∃ set,
      PortSet.read c.dynamicPorts.tcpRanges c.dynamicPorts.udpRanges = .ok set) :
    c.startDynamicPorts bind = .error f ↔
      c.dynamicPorts.enabled = true ∧ PortSource.ofConfig c.dynamicPorts = .error f := by
  unfold startDynamicPorts
  cases henabled : c.dynamicPorts.enabled with
  | false => simp [pure, Except.pure]
  | true =>
    obtain ⟨set, hset⟩ := hread henabled
    rw [assigned_of_read hset]
    cases PortSource.ofConfig c.dynamicPorts <;> simp [bind_eq_error_iff, pure, Except.pure]

/-- Where the failure of a start comes from. -/
theorem cause_of_start {s : StartConditions} (h : c.start s = .error f) :
    c.webAddress = .error f ∨ (∃ e, f = .io e) ∨ Verifier.ofConfig c.auth = .error f ∨
      Firewall.ofConfig c.firewall s.environment = .error f ∨ c.startMirror = .error f ∨
      c.startStaticPorts s.binding = .error f ∨ c.startDynamicPorts s.binding = .error f := by
  unfold start at h
  simp only [bind_eq_error_iff, startVerifier] at h
  rcases h with h | ⟨address, -, h⟩
  · exact .inl h
  split at h
  · rename_i e _
    exact .inr (.inl ⟨e, (Except.error.inj h).symm⟩)
  · simp only [bind_eq_error_iff, pure, Except.pure, reduceCtorEq, and_false, exists_false, or_false] at h
    rcases h with h | ⟨-, -, h | ⟨-, -, h | ⟨-, -, h | ⟨-, -, h⟩⟩⟩⟩
    · exact .inr (.inr (.inl h))
    · exact .inr (.inr (.inr (.inl h)))
    · exact .inr (.inr (.inr (.inr (.inl h))))
    · exact .inr (.inr (.inr (.inr (.inr (.inl h)))))
    · exact .inr (.inr (.inr (.inr (.inr (.inr h)))))

/-- The addresses that the parts of a configuration are built from; those of a section count if it is switched on. -/
def addresses (c : Config) : List String :=
  [c.auth.backendUrl] ++ (if c.firewall.enabled then [c.firewall.url] else []) ++
    if c.dynamicPorts.enabled then [c.dynamicPorts.backendUrl] else []

theorem webAddress_not_saysRequired (h : c.webAddress = .error f) : ¬ f.SaysRequired := by
  unfold webAddress at h
  split at h
  · obtain rfl := Except.error.inj h
    intro hf
    cases hf.getLast?
  · cases h

theorem startMirror_not_saysRequired (h : c.startMirror = .error f) : ¬ f.SaysRequired := by
  have hfault : MirrorEngine.startFailure? c.mirror false = some f := by
    unfold startMirror MirrorEngine.start at h
    cases henabled : c.mirror.enabled with
    | false => simp [henabled] at h
    | true =>
      cases hfault : MirrorEngine.startFailure? c.mirror false with
      | none => simp [henabled, hfault, MirrorEngine.isRunning, Except.map] at h
      | some e => simpa [henabled, hfault, MirrorEngine.isRunning, Except.map] using h
  rw [MirrorEngine.startFailure?, if_neg Bool.false_ne_true] at hfault
  split at hfault
  · obtain rfl := Option.some.inj hfault
    intro hf
    cases hf.getLast?
  · cases hfault

/-! ### The start of a checked configuration -/

theorem verifier_of_checked (h : c.check = .ok ()) : Verifier.ofConfig c.auth = .error f ↔
    Algorithm.configured c.auth.algorithm = .error f ∨
      (∃ a, Algorithm.configured c.auth.algorithm = .ok a) ∧ IsSlashes c.auth.backendUrl ∧
        f = .config "auth.backend_url is required" := by
  obtain ⟨hgiven, -⟩ := check_eq_ok_iff.1 h
  rw [Verifier.ofConfig_eq_error_iff, isSlashes_iff, and_iff_right hgiven]

theorem firewall_of_checked (h : c.check = .ok ()) (vs : Settings.Variables) :
    Firewall.ofConfig c.firewall vs = .error f ↔
      c.firewall.enabled = true ∧ IsSlashes c.firewall.url ∧ f = .config "firewall.url is required" := by
  obtain ⟨-, -, hgiven, -⟩ := check_eq_ok_iff.1 h
  rw [Firewall.ofConfig_eq_error_iff]
  refine and_congr_right fun henabled => ?_
  rw [isSlashes_iff, and_iff_right (hgiven henabled)]

theorem portSource_of_checked (h : c.check = .ok ()) (henabled : c.dynamicPorts.enabled = true) :
    PortSource.ofConfig c.dynamicPorts = .error f ↔
      IsSlashes c.dynamicPorts.backendUrl ∧ f = .config "dynamic_ports.backend_url is required" := by
  obtain ⟨-, -, -, hports⟩ := check_eq_ok_iff.1 h
  obtain ⟨hgiven, -⟩ := checkDynamicPorts_eq_ok_iff.1 (hports henabled)
  rw [PortSource.ofConfig_eq_error_iff, isSlashes_iff, and_iff_right hgiven]

theorem ranges_of_checked (h : c.check = .ok ()) (henabled : c.dynamicPorts.enabled = true) :
    ∃ set, PortSet.read c.dynamicPorts.tcpRanges c.dynamicPorts.udpRanges = .ok set ∧ set.expand.Nodup := by
  obtain ⟨-, -, -, hports⟩ := check_eq_ok_iff.1 h
  obtain ⟨-, -, set, hset⟩ := checkDynamicPorts_eq_ok_iff.1 (hports henabled)
  exact ⟨set, PortSet.readChecked_eq_ok_iff.1 hset⟩

/-- The start of dynamic ports that have no duplicate fails only for a port that cannot be bound. -/
theorem unbindable_of_start {set : PortSet} (hnodup : set.expand.Nodup)
    (hf : (DynamicPorts.start bind { ranges := set }).1 = .error f) :
    ∃ p text, p ∈ set.expand ∧ bind p = some text ∧ f = .listenerBind p.1 p.2 text := by
  rcases DynamicPorts.error_start rfl hf with ⟨e, he, -⟩ | ⟨-, p, rest, text, hp, htext, hf⟩
  · rw [PortSet.check_eq_ok_iff.2 hnodup] at he
    cases he
  · exact ⟨p, text, hp ▸ List.mem_cons_self, htext, hf⟩

/-- A failure that says that something is required is that of an address of slashes, or of an algorithm that is
symmetric, which is not about something missing. -/
theorem required_of_start (h : c.check = .ok ()) {s : StartConditions} (hstart : c.start s = .error f)
    (hf : f.SaysRequired) : (∃ u ∈ c.addresses, IsSlashes u) ∨
      ∃ a, Algorithm.ofName? (Text.trimmed c.auth.algorithm) = some a ∧ a.isSymmetric = true := by
  rcases cause_of_start hstart with hweb | ⟨e, rfl⟩ | hverifier | hfirewall | hmirror | hstatic | hdynamic
  · exact absurd hf (webAddress_not_saysRequired hweb)
  · obtain ⟨what, hwhat⟩ := hf
    cases hwhat
  · rcases (verifier_of_checked h).1 hverifier with halgorithm | ⟨-, hslashes, -⟩
    · exact .inr (Algorithm.symmetric_of_saysRequired halgorithm hf)
    · exact .inl ⟨_, by simp [addresses], hslashes⟩
  · obtain ⟨henabled, hslashes, -⟩ := (firewall_of_checked h s.environment).1 hfirewall
    exact .inl ⟨_, by simp [addresses, henabled], hslashes⟩
  · exact absurd hf (startMirror_not_saysRequired hmirror)
  · obtain ⟨what, rfl⟩ := hf
    exact absurd hstatic startStaticPorts_ne_config
  · -- the ranges were read when they were checked, so only the address is left to fail
    have hread henabled := (ranges_of_checked h henabled).imp fun _ => And.left
    obtain ⟨henabled, hsource⟩ := (startDynamicPorts_eq_error_iff hread).1 hdynamic
    obtain ⟨hslashes, -⟩ := (portSource_of_checked h henabled).1 hsource
    exact .inl ⟨_, by simp [addresses, henabled], hslashes⟩

/-- What the start of a checked configuration can still find missing. -/
theorem start_of_checked (h : c.check = .ok ()) :
    (∀ f, Verifier.ofConfig c.auth = .error f ↔ Algorithm.configured c.auth.algorithm = .error f ∨
      (∃ a, Algorithm.configured c.auth.algorithm = .ok a) ∧ IsSlashes c.auth.backendUrl ∧
        f = .config "auth.backend_url is required") ∧
    (∀ vs f, Firewall.ofConfig c.firewall vs = .error f ↔ c.firewall.enabled = true ∧ IsSlashes c.firewall.url ∧
      f = .config "firewall.url is required") ∧
    (c.dynamicPorts.enabled = true →
      (∀ f, PortSource.ofConfig c.dynamicPorts = .error f ↔ IsSlashes c.dynamicPorts.backendUrl ∧
        f = .config "dynamic_ports.backend_url is required") ∧
      ∃ set, PortSet.read c.dynamicPorts.tcpRanges c.dynamicPorts.udpRanges = .ok set ∧ set.expand.Nodup ∧
        assigned c.dynamicPorts.tcpRanges c.dynamicPorts.udpRanges = .ok { ranges := set } ∧
        ∀ bind f, (DynamicPorts.start bind { ranges := set }).1 = .error f →
          ∃ p text, p ∈ set.expand ∧ bind p = some text ∧ f = .listenerBind p.1 p.2 text) ∧
    ∀ s f, c.start s = .error f → f.SaysRequired → (∃ u ∈ c.addresses, IsSlashes u) ∨
      ∃ a, Algorithm.ofName? (Text.trimmed c.auth.algorithm) = some a ∧ a.isSymmetric = true := by
  refine ⟨fun f => verifier_of_checked h, fun vs f => firewall_of_checked h vs, fun henabled => ?_,
    fun s f hstart hf => required_of_start h hstart hf⟩
  obtain ⟨set, hset, hnodup⟩ := ranges_of_checked h henabled
  exact ⟨fun f => portSource_of_checked h henabled, set, hset, hnodup, assigned_of_read hset,
    fun bind f hf => unbindable_of_start hnodup hf⟩

/-- A configuration with an address of one slash. -/
def slashAddress : Config where
  auth := { backendUrl := "/" }
  firewall := { enabled := true, url := " //" }
  dynamicPorts := { enabled := true, backendUrl := "https://ports.internal/", gatewayId := "edge-1",
                    tcpRanges := "8000-8001", udpRanges := "53" }

/-- The verifier misses its address; the firewall takes the blank before the slashes for one. -/
theorem start_of_checked_slash : slashAddress.check = .ok () ∧
    Verifier.ofConfig slashAddress.auth = .error (.config "auth.backend_url is required") ∧
    (∀ vs f, Firewall.ofConfig slashAddress.firewall vs ≠ .error f) ∧
    ∃ set, PortSet.read "8000-8001" "53" = .ok set ∧ set.expand.Nodup := by
  have hcheck : slashAddress.check = .ok () := by rfl
  obtain ⟨hverifier, hfirewall, hports, -⟩ := start_of_checked hcheck
  obtain ⟨-, set, hset, hnodup, -⟩ := hports rfl
  have hslashes : IsSlashes slashAddress.auth.backendUrl := ⟨by decide, by simp [slashAddress]⟩
  refine ⟨hcheck, (hverifier _).2 (.inr ⟨⟨.rs256, by rfl⟩, hslashes, rfl⟩), fun vs f hf => ?_, set, hset, hnodup⟩
  have hblank := ((hfirewall vs f).1 hf).2.1.2 ' ' (by decide)
  cases hblank

theorem checked_address_missing : ¬ ∀ c : Config, c.check = .ok () →
    ∀ f, Verifier.ofConfig c.auth = .error f → ¬ f.SaysRequired := by
  intro h
  exact h slashAddress rfl (.config "auth.backend_url is required") rfl ⟨"auth.backend_url", rfl⟩

end Config

end AccessGateway
