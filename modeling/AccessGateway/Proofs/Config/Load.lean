import AccessGateway.Config.Load
import AccessGateway.Proofs.Settings.EnvFile
import AccessGateway.Proofs.Settings.Placeholder
import Mathlib

/-!
# What loading makes of a configuration

Loading reads the configuration from its file and the environment, then the environment files that it names, and then
replaces placeholders by the variables that are set (`load_eq_ok_iff`).  The fields in which they are replaced are those
of `Expanded`.  A variable that was not set gets the value that the first environment file to define it gives
(`get?_loadEnvFiles`): every later file finds it set.
-/

namespace AccessGateway.Config

open Settings

variable {s : Surroundings} {path : Option String} {c d given : Config} {vs : Variables}

/-! ### Fields with placeholders -/

/-- The fields that no placeholder is replaced in; the others are blank. -/
def plain (c : Config) : Config :=
  { c with
    auth := { c.auth with backendUrl := "" }
    firewall := { c.firewall with url := "", token := none }
    dynamicPorts := { c.dynamicPorts with backendUrl := "", gatewayId := "", clusterId := "" }
    metrics := { c.metrics with token := none }
    mirror := { c.mirror with destinations := [] } }

/-- A configuration is another one with the placeholders of some fields replaced and every other field as it was. -/
structure Expanded (vs : Variables) (given c : Config) : Prop where
  authBackend : Expands vs.get? given.auth.backendUrl c.auth.backendUrl
  firewallUrl : Expands vs.get? given.firewall.url c.firewall.url
  firewallToken : Option.Rel (Expands vs.get?) given.firewall.token c.firewall.token
  portsBackend : Expands vs.get? given.dynamicPorts.backendUrl c.dynamicPorts.backendUrl
  gatewayId : Expands vs.get? given.dynamicPorts.gatewayId c.dynamicPorts.gatewayId
  clusterId : Expands vs.get? given.dynamicPorts.clusterId c.dynamicPorts.clusterId
  metricsToken : Option.Rel (Expands vs.get?) given.metrics.token c.metrics.token
  destinations : List.Forall₂ (Expands vs.get?) given.mirror.destinations c.mirror.destinations
  others : c.plain = given.plain

theorem eq_of_plain (hplain : c.plain = d.plain) (hauth : c.auth.backendUrl = d.auth.backendUrl)
    (hurl : c.firewall.url = d.firewall.url) (htoken : c.firewall.token = d.firewall.token)
    (hports : c.dynamicPorts.backendUrl = d.dynamicPorts.backendUrl)
    (hgateway : c.dynamicPorts.gatewayId = d.dynamicPorts.gatewayId)
    (hcluster : c.dynamicPorts.clusterId = d.dynamicPorts.clusterId) (hmetrics : c.metrics.token = d.metrics.token)
    (hdestinations : c.mirror.destinations = d.mirror.destinations) : c = d := by
  obtain ⟨_, _, ⟨⟩, ⟨⟩, ⟨⟩, _, ⟨⟩, ⟨⟩, _⟩ := c
  obtain ⟨_, _, ⟨⟩, ⟨⟩, ⟨⟩, _, ⟨⟩, ⟨⟩, _⟩ := d
  simp_all [plain]

theorem optionRel_expands_iff {value : String → Option String} {a b : Option String} :
    Option.Rel (Expands value) a b ↔ b = a.map (expandText value) := by
  constructor
  · intro h
    cases h with
    | none => rfl
    | some h => rw [expands_iff.1 h, Option.map_some]
  · rintro rfl
    cases a with
    | none => exact .none
    | some a => exact .some (expands_iff.2 rfl)

theorem forall₂_expands_iff {value : String → Option String} {as bs : List String} :
    List.Forall₂ (Expands value) as bs ↔ bs = as.map (expandText value) := by
  constructor
  · intro h
    induction h with
    | nil => rfl
    | cons h _ ih => rw [expands_iff.1 h, ih, List.map_cons]
  · rintro rfl
    rw [List.forall₂_map_right_iff, List.forall₂_same]
    exact fun a _ => expands_iff.2 rfl

theorem expanded_iff : Expanded vs given c ↔ c = given.expandPlaceholders vs := by
  constructor
  · intro h
    exact eq_of_plain h.others (expands_iff.1 h.authBackend) (expands_iff.1 h.firewallUrl)
      (optionRel_expands_iff.1 h.firewallToken) (expands_iff.1 h.portsBackend) (expands_iff.1 h.gatewayId)
      (expands_iff.1 h.clusterId) (optionRel_expands_iff.1 h.metricsToken) (forall₂_expands_iff.1 h.destinations)
  · rintro rfl
    exact ⟨expands_iff.2 rfl, expands_iff.2 rfl, optionRel_expands_iff.2 rfl, expands_iff.2 rfl, expands_iff.2 rfl,
      expands_iff.2 rfl, optionRel_expands_iff.2 rfl, forall₂_expands_iff.2 rfl, rfl⟩

/-! ### Loading -/

/-- The configuration that the file and the environment give, with its placeholders as they stand. -/
def Given (s : Surroundings) (path : Option String) (given : Config) : Prop :=
  ∃ settings, fileSettings s path = .ok settings ∧ ofSettings (settings.merge (ofVariables s.environment)) = .ok given

theorem Given.unique (h : Given s path c) (h' : Given s path d) : c = d := by
  obtain ⟨settings, hfile, hc⟩ := h
  obtain ⟨settings', hfile', hd⟩ := h'
  obtain rfl := Except.ok.inj (hfile.symm.trans hfile')
  exact Except.ok.inj (hc.symm.trans hd)

theorem load_eq_ok_iff : load s path = .ok (c, vs) ↔
    ∃ given, Given s path given ∧ vs = loadEnvFiles s given.envFiles ∧ Expanded vs given c := by
  simp only [expanded_iff, Given]
  unfold load
  cases fileSettings s path with
  | error e => simp [bind, Except.bind]
  | ok settings =>
    simp only [bind, Except.bind, Except.ok.injEq, exists_eq_left']
    cases ofSettings (settings.merge (ofVariables s.environment)) with
    | error blame => simp [throw, throwThe, MonadExceptOf.throw]
    | ok given =>
      simp only [pure, Except.pure, Except.ok.injEq, Prod.mk.injEq, exists_eq_left']
      constructor
      · rintro ⟨rfl, rfl⟩
        exact ⟨rfl, rfl⟩
      · rintro ⟨rfl, rfl⟩
        exact ⟨rfl, rfl⟩

/-- Expansion is one pass from the left: every text has one pass, the pieces of which make up the text, and whatever the
variables are, expansion writes out its pieces.  A text with no placeholder in it stays as it is.  Loading expands so
exactly the fields of `Expanded`, by the variables that are set after it. -/
theorem load_expands_in_one_pass (text : String) (s : Surroundings) (path : Option String) (c : Config)
    (vs : Variables) :
    (∃ ps, Pass text.toList ps ∧ (∀ qs, Pass text.toList qs → qs = ps) ∧ ps.flatMap Piece.source = text.toList ∧
      ∀ value, (expandText value text).toList = ps.flatMap (Piece.written value)) ∧
    ((∀ p place, Placeholder.Written p place → ¬ place <:+: text.toList) → ∀ value, expandText value text = text) ∧
    (load s path = .ok (c, vs) ↔
      ∃ given, Given s path given ∧ vs = loadEnvFiles s given.envFiles ∧ Expanded vs given c) := by
  refine ⟨?_, fun hnone value => ?_, load_eq_ok_iff⟩
  · obtain ⟨ps, hpass, hexpand⟩ := exists_pass text.toList
    refine ⟨ps, hpass, fun qs hqs => hqs.unique hpass, hpass.source, fun value => ?_⟩
    rw [expandText, String.toList_ofList, hexpand]
  · rw [expandText, expand_of_forall hnone, String.ofList_toList]

/-! ### Environment files -/

/-- The environment files of a list that exist, each with the variables that are set when it is read. -/
def envFileReadings (s : Surroundings) (vs : Variables) : List String → List EnvFile.Reading
  | [] => []
  | path :: paths =>
    match s.entry (expandHome (s.home vs) path) with
    | .content content => ⟨vs, content⟩ :: envFileReadings s (EnvFile.load vs content) paths
    | _ => envFileReadings s vs paths

/-- A variable that is set keeps its value, and any other gets the value of the first file that gives it one. -/
theorem get?_loadEnvFiles (s : Surroundings) (paths : List String) (name : String) :
    (loadEnvFiles s paths).get? name =
      (s.environment.get? name).or ((envFileReadings s s.environment paths).findSome? (·.value? name)) := by
  unfold loadEnvFiles
  generalize s.environment = vs
  induction paths generalizing vs with
  | nil => rw [List.foldl_nil, envFileReadings, List.findSome?_nil, Option.or_none]
  | cons path paths ih =>
    rw [List.foldl_cons, ih, envFileReadings]
    cases s.entry (expandHome (s.home vs) path) with
    | absent => rfl
    | directory => rfl
    | content content =>
      dsimp only
      rw [EnvFile.load_eq, Variables.get?_defineAll, List.findSome?_cons, EnvFile.Reading.value?, Option.or_assoc]
      cases (EnvFile.assignments vs content).lookup name with
      | none => rfl
      | some value => rfl

theorem get?_loadEnvFiles_of_set {name value : String} (paths : List String)
    (h : s.environment.get? name = some value) : (loadEnvFiles s paths).get? name = some value := by
  rw [get?_loadEnvFiles, h, Option.some_or]

/-- The first environment file that defines a variable decides on it, whatever the files behind it say. -/
theorem load_first_file_counts (h : load s path = .ok (c, vs)) :
    ∃ given, Given s path given ∧ Expanded vs given c ∧
      (∀ name value, s.environment.get? name = some value → vs.get? name = some value) ∧
      (∀ name, s.environment.get? name = none →
        (vs.get? name = none ↔
          ∀ r ∈ envFileReadings s s.environment given.envFiles, ¬ EnvFile.Defines r.content name) ∧
        (∀ before r after, envFileReadings s s.environment given.envFiles = before ++ r :: after →
          (∀ q ∈ before, ¬ EnvFile.Defines q.content name) → EnvFile.Defines r.content name →
            vs.get? name = r.value? name)) ∧
      (∀ (p : Placeholder) value, vs.get? (String.ofList p.name) = some value →
        p.replacement vs.get? = value.toList) := by
  obtain ⟨given, hgiven, rfl, hexpanded⟩ := load_eq_ok_iff.1 h
  refine ⟨given, hgiven, hexpanded, fun name value => get?_loadEnvFiles_of_set given.envFiles, fun name hname => ?_,
    fun p value hvalue => ?_⟩
  · rw [get?_loadEnvFiles, hname, Option.none_or]
    constructor
    · rw [List.findSome?_eq_none_iff]
      exact forall₂_congr fun r _ => EnvFile.Reading.value?_eq_none_iff
    · intro before r after hreadings hbefore hr
      rw [hreadings, List.findSome?_append, List.findSome?_cons]
      have hnone : before.findSome? (·.value? name) = none :=
        List.findSome?_eq_none_iff.2 fun q hq => EnvFile.Reading.value?_eq_none_iff.2 (hbefore q hq)
      obtain ⟨value, hvalue⟩ : ∃ value, r.value? name = some value :=
        Option.ne_none_iff_exists'.1 (mt EnvFile.Reading.value?_eq_none_iff.1 (not_not.2 hr))
      rw [hnone, Option.none_or, hvalue]
  · rw [Placeholder.replacement, hvalue, Option.map_some, Option.getD_some]

/-- Two environment files that give one variable different values. -/
def twoFiles : Surroundings where
  environment := [("HEADEND_ENV_FILES", "[a,b]"), ("HEADEND_AUTH__BACKEND_URL", "$\x7bBACKEND\x7d")]
  entry path :=
    if path = "a" then .content (Text.bytes "BACKEND=https://one")
    else if path = "b" then .content (Text.bytes "BACKEND=https://two")
    else .absent

theorem given_twoFiles :
    Given twoFiles none { envFiles := ["a", "b"], auth := { backendUrl := "$\x7bBACKEND\x7d" } } := by
  have hfiles : ofVariable "[a,b]" =
      .list .environment [.scalar .environment (.text "a"), .scalar .environment (.text "b")] := by cbv
  have hbackend : ofVariable "$\x7bBACKEND\x7d" = .scalar .environment (.text "$\x7bBACKEND\x7d") := by cbv
  have hfilesPath : variablePath? "HEADEND_ENV_FILES" = some ["env_files"] := by decide
  have hbackendPath : variablePath? "HEADEND_AUTH__BACKEND_URL" = some ["auth", "backend_url"] := by decide
  refine ⟨.group .file [], rfl, ?_⟩
  rw [ofVariables, twoFiles, List.foldl_cons, List.foldl_cons, List.foldl_nil]
  simp only [hfiles, hbackend, hfilesPath, hbackendPath]
  rfl

theorem envFileReadings_twoFiles : envFileReadings twoFiles twoFiles.environment ["a", "b"] =
    [⟨twoFiles.environment, Text.bytes "BACKEND=https://one"⟩,
      ⟨EnvFile.load twoFiles.environment (Text.bytes "BACKEND=https://one"), Text.bytes "BACKEND=https://two"⟩] := rfl

theorem assignments_one (vs : Variables) :
    EnvFile.assignments vs (Text.bytes "BACKEND=https://one") = [("BACKEND", "https://one")] := by
  have hlines := EnvFile.linesOf_bytes "BACKEND=https://one" (by decide) (by decide)
  rw [EnvFile.assignments, hlines]
  rfl

theorem assignments_two (vs : Variables) :
    EnvFile.assignments vs (Text.bytes "BACKEND=https://two") = [("BACKEND", "https://two")] := by
  have hlines := EnvFile.linesOf_bytes "BACKEND=https://two" (by decide) (by decide)
  rw [EnvFile.assignments, hlines]
  rfl

theorem exists_load_twoFiles : ∃ c vs, load twoFiles none = .ok (c, vs) :=
  ⟨_, _, load_eq_ok_iff.2 ⟨_, given_twoFiles, rfl, expanded_iff.2 rfl⟩⟩

theorem load_first_file_counts_two : ∃ c vs, load twoFiles none = .ok (c, vs) ∧
    twoFiles.environment.get? "BACKEND" = none ∧ vs.get? "BACKEND" = some "https://one" ∧
    c.auth.backendUrl = "https://one" := by
  obtain ⟨c, vs, hload⟩ := exists_load_twoFiles
  obtain ⟨given, hgiven, hexpanded, -, hunset, hplace⟩ := load_first_file_counts hload
  obtain rfl := hgiven.unique given_twoFiles
  have hname : twoFiles.environment.get? "BACKEND" = none := by decide
  have hdefines : EnvFile.Defines (Text.bytes "BACKEND=https://one") "BACKEND" := by
    rw [EnvFile.Defines, assignments_one]
    decide
  have hvalue : vs.get? "BACKEND" = some "https://one" := by
    rw [(hunset "BACKEND" hname).2 [] _ _ envFileReadings_twoFiles (by simp) hdefines, EnvFile.Reading.value?,
      assignments_one]
    decide
  refine ⟨c, vs, hload, hname, hvalue, ?_⟩
  have hvariable : IsVariableName "BACKEND".toList := ⟨by decide, List.all_eq_true.1 (by decide)⟩
  have hexpand : expand vs.get? (_ ++ []) = _ := expand_written (.bare hvariable)
  rw [hplace _ _ hvalue, expand.eq_1, List.append_nil, List.append_nil] at hexpand
  have htext : "$\x7bBACKEND\x7d".toList = '$' :: '\x7b' :: ("BACKEND".toList ++ ['\x7d']) := by decide
  rw [expands_iff.1 hexpanded.authBackend, expandText, htext, hexpand, String.ofList_toList]

/-- Of two files that define a variable the later one does not override the earlier one. -/
theorem later_file_overridden : ¬ ∀ (s : Surroundings) (path : Option String) (c : Config) (vs : Variables),
    load s path = .ok (c, vs) → ∀ given, Given s path given → ∀ name, s.environment.get? name = none →
      ∀ before r after, envFileReadings s s.environment given.envFiles = before ++ r :: after →
        EnvFile.Defines r.content name → (∀ q ∈ after, ¬ EnvFile.Defines q.content name) →
          vs.get? name = r.value? name := by
  intro hlast
  obtain ⟨c, vs, hload⟩ := exists_load_twoFiles
  have hname : twoFiles.environment.get? "BACKEND" = none := by decide
  have hdefines : EnvFile.Defines (Text.bytes "BACKEND=https://two") "BACKEND" := by
    rw [EnvFile.Defines, assignments_two]
    decide
  have hvalue := hlast _ _ _ _ hload _ given_twoFiles "BACKEND" hname [_] _ [] envFileReadings_twoFiles hdefines
    (by simp)
  obtain ⟨given, hgiven, hvs, -⟩ := load_eq_ok_iff.1 hload
  obtain rfl := hgiven.unique given_twoFiles
  rw [hvs, get?_loadEnvFiles, hname, Option.none_or, envFileReadings_twoFiles, List.findSome?_cons,
    EnvFile.Reading.value?, EnvFile.Reading.value?, assignments_one, assignments_two] at hvalue
  revert hvalue
  decide

end AccessGateway.Config
