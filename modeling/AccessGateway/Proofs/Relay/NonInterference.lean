import AccessGateway.Gateway.Engine
import AccessGateway.Proofs.Relay.Mediation

/-!
# The mirror does not interfere

Units of traffic are under way side by side, each making its calls one by one, and between any two of them anything may
become of the mirror.  Seen without the mirror (`Gateway.view`) an event does the same whatever the mirror is
(`view_step`), and what becomes of the mirror does nothing (`view_stir`).  So what is asked and answered, sent and
logged is the same for every mirror (`noninterference`).  Only the pages that show the mirror tell one from another.
-/

namespace AccessGateway

open Dialogue

/-! ### Calls -/

namespace Engine

variable {σ : Type}

def unmirrored (e : Engine) : Engine := { e with mirror := none }

/-- No answer depends on the mirror, and only the mirror does. -/
theorem answer_unmirrored (net : Network σ) (c : RelayCall) (e : Engine) (w : σ) :
    answer net c (e.unmirrored, w) =
      ((answer net c (e, w)).1, (answer net c (e, w)).2.1.unmirrored, (answer net c (e, w)).2.2) := by
  cases c with
  | request client q =>
    unfold answer
    dsimp only
    cases requestAddress q.address <;> rfl
  | _ => rfl

end Engine

/-- A network that takes everything and sends one byte back. -/
def Network.willing : Network Unit where
  present _ := ⟨0, 0⟩
  backend _ w := (.failed .decode, w)
  policy _ w := (.failed .decode, w)
  clientFault _ w := (none, w)
  request _ _ w := (.ok ⟨200, [], [.data [7]]⟩, w)
  respond _ w := (1, w)
  connect _ w := (.ok (), w)
  sendFirst _ w := (.ok (), w)
  join w := ([.ended .up, .read .down [7], .written .down, .ended .down], w)
  lookup _ w := (.ok (some ⟨.v4 1, 1, 0⟩), w)
  openSocket _ w := (.ok (), w)
  send _ w := (.ok (), w)
  receive w := (.datagram [7], w)
  reply _ w := (.ok (), w)

/-! ### Pages that show the mirror -/

namespace Site

variable {site : Site} {r : WebRequest} {freshId : String}

/-- The request gets to see the mirror: it asks for the health page, or for the metrics and knows their token. -/
def Displays (site : Site) (r : WebRequest) : Prop :=
  (r.method = "GET" ∨ r.method = "HEAD") ∧
    (r.target.path = "/health" ∨ r.target.path = "/metrics" ∧
      site.metricsToken ≠ none ∧ bearerToken r.headers = site.metricsToken)

instance : Decidable (site.Displays r) := inferInstanceAs (Decidable (_ ∧ _))

theorem displays_identified_iff : site.Displays (identified freshId r) ↔ site.Displays r := by
  rw [Displays, Displays, identified_method, identified_target, bearerToken_identified]

private theorem metricsPage_congr {hs : Headers} (h : site.metricsToken ≠ none → bearerToken hs ≠ site.metricsToken)
    (s s' : GatewayStatus) : site.metricsPage s hs = site.metricsPage s' hs := by
  unfold metricsPage
  cases hmetrics : site.metricsToken with
  | none => rfl
  | some expected =>
    rw [hmetrics] at h
    have hwrong : bearerToken hs ≠ some expected := h nofun
    dsimp only
    rw [if_neg hwrong, if_neg hwrong]

/-- Every other page is the same whatever there is to show. -/
theorem page_congr (h : ¬ site.Displays r) (s s' : GatewayStatus) : site.page s r = site.page s' r := by
  unfold page
  by_cases hmethod : (r.method ≠ "GET" && r.method ≠ "HEAD") = true
  · rw [if_pos hmethod, if_pos hmethod]
  · rw [if_neg hmethod, if_neg hmethod]
    have hread : r.method = "GET" ∨ r.method = "HEAD" := by
      simp only [ne_eq, Bool.and_eq_true, decide_eq_true_eq, not_and, Decidable.not_not] at hmethod
      exact Decidable.or_iff_not_imp_left.2 hmethod
    by_cases hhealth : r.target.path = "/health"
    · exact absurd ⟨hread, .inl hhealth⟩ h
    · rw [if_neg hhealth, if_neg hhealth]
      by_cases hmetrics : r.target.path = "/metrics"
      · rw [if_pos hmetrics, if_pos hmetrics]
        exact metricsPage_congr (fun hguarded hknown => h ⟨hread, .inr ⟨hmetrics, hguarded, hknown⟩⟩) s s'
      · rw [if_neg hmetrics, if_neg hmetrics]

theorem respond_congr (h : ¬ site.Displays r) (s s' : GatewayStatus) :
    site.respond s freshId r = site.respond s' freshId r := by
  unfold respond
  dsimp only
  rw [page_congr (mt displays_identified_iff.1 h) s s']

/-- A request that gets to see the mirror makes no call. -/
theorem respond_of_displays (h : site.Displays r) (s : GatewayStatus) :
    ∃ w, site.respond s freshId r = .done w := by
  have hopen : r.target.path ∈ openPaths := by
    rcases h.2 with hpath | ⟨hpath, -⟩
    · rw [hpath]
      decide
    · rw [hpath]
      decide
  unfold respond
  dsimp only
  rw [identified_target, if_pos (List.contains_iff_mem.2 hopen)]
  exact ⟨_, rfl⟩

end Site

def TrafficUnit.Displays (site : Site) : TrafficUnit → Prop
  | .request r => site.Displays r
  | .stream _ _ | .datagram _ _ => False

instance (site : Site) (u : TrafficUnit) : Decidable (u.Displays site) :=
  match u with
  | .request r => inferInstanceAs (Decidable (site.Displays r))
  | .stream _ _ | .datagram _ _ => .isFalse id

theorem TrafficUnit.task_congr {site : Site} {u : TrafficUnit} (h : ¬ u.Displays site) (s s' : GatewayStatus)
    (freshId : String) : u.task site s freshId = u.task site s' freshId := by
  cases u with
  | request r => rw [task, task, Site.respond_congr h s s']
  | stream => rfl
  | datagram => rfl

theorem TrafficUnit.task_of_displays {site : Site} {u : TrafficUnit} (h : u.Displays site) (s : GatewayStatus)
    (freshId : String) : ∃ w, u.task site s freshId = .done w := by
  cases u with
  | request r =>
    obtain ⟨w, hw⟩ := Site.respond_of_displays h s
    exact ⟨some w, by rw [task, hw]; rfl⟩
  | stream | datagram => exact h.elim

/-! ### The gateway at work -/

/-- A unit of traffic with the work it has left. -/
structure UnderWay where
  unit : TrafficUnit
  rest : RelayTask (Option WebResponse)

/-- The gateway at work: what its units share, what lies outside, the units, and what each has exchanged, in order. -/
structure Gateway (σ : Type) where
  engine : Engine
  world : σ
  units : List UnderWay := []
  exchanged : List (Nat × RelayExchange) := []

namespace UnderWay

variable {site : Site}

/-- The work that is left, with the result left out. -/
def concealed : RelayTask (Option WebResponse) → RelayTask (Option WebResponse)
  | .done _ => .done none
  | Dialogue.ask c next => Dialogue.ask c next

def result? : UnderWay → Option WebResponse
  | ⟨_, .done w⟩ => w
  | ⟨_, Dialogue.ask _ _⟩ => none

/-- A unit as it looks if what it shows of the mirror is left out. -/
def view (site : Site) (x : UnderWay) : UnderWay :=
  if x.unit.Displays site then { x with rest := concealed x.rest } else x

theorem view_of_displays {x : UnderWay} (h : x.unit.Displays site) :
    x.view site = { x with rest := concealed x.rest } := if_pos h

theorem view_of_not_displays {x : UnderWay} (h : ¬ x.unit.Displays site) : x.view site = x := if_neg h

theorem view_unit (x : UnderWay) : (x.view site).unit = x.unit := by
  unfold view
  split <;> rfl

theorem view_ask (u : TrafficUnit) (c : RelayCall) (next : c.Answer → RelayTask (Option WebResponse)) :
    view site ⟨u, Dialogue.ask c next⟩ = ⟨u, Dialogue.ask c next⟩ := by
  unfold view
  split <;> rfl

theorem exists_view_done (u : TrafficUnit) (w : Option WebResponse) : ∃ w', view site ⟨u, .done w⟩ = ⟨u, .done w'⟩ := by
  unfold view
  split
  · exact ⟨none, rfl⟩
  · exact ⟨w, rfl⟩

theorem view_view (x : UnderWay) : (x.view site).view site = x.view site := by
  by_cases h : x.unit.Displays site
  · have hview : (x.view site).unit.Displays site := by rwa [view_unit]
    rw [view_of_displays hview, view_of_displays h]
    cases x.rest <;> rfl
  · rw [view_of_not_displays h, view_of_not_displays h]

theorem view_task (u : TrafficUnit) (s s' : GatewayStatus) (freshId : String) :
    view site ⟨u, u.task site s freshId⟩ = view site ⟨u, u.task site s' freshId⟩ := by
  by_cases h : u.Displays site
  · obtain ⟨w, hw⟩ := TrafficUnit.task_of_displays h s freshId
    obtain ⟨w', hw'⟩ := TrafficUnit.task_of_displays h s' freshId
    have hview : view site ⟨u, .done w⟩ = ⟨u, .done none⟩ := view_of_displays h
    have hview' : view site ⟨u, .done w'⟩ = ⟨u, .done none⟩ := view_of_displays h
    rw [hw, hw', hview, hview']
  · rw [TrafficUnit.task_congr h s s']

end UnderWay

namespace Gateway

variable {σ : Type}

inductive Event where
  | arrive (u : TrafficUnit) (freshId : String)
  /-- A unit makes its next call. -/
  | advance (i : Nat)
  /-- Something becomes of the mirror: it is started or stopped, or its workers take, deliver or lose packets. -/
  | stir (f : MirrorEngine → MirrorEngine)

def Event.isStir : Event → Bool
  | .stir _ => true
  | .arrive _ _ | .advance _ => false

/-- One event; the open pages show what `display` makes of the engine. -/
def step (site : Site) (net : Network σ) (display : Engine → σ → GatewayStatus) (g : Gateway σ) : Event → Gateway σ
  | .arrive u freshId =>
    { g with units := g.units ++ [⟨u, u.task site (display g.engine g.world) freshId⟩] }
  | .advance i =>
    match g.units[i]? with
    | some ⟨u, Dialogue.ask c next⟩ =>
      let (answer, engine, world) := Engine.answer net c (g.engine, g.world)
      ⟨engine, world, g.units.set i ⟨u, next answer⟩, g.exchanged ++ [(i, ⟨c, answer⟩)]⟩
    | some ⟨_, .done _⟩ | none => g
  | .stir f => { g with engine := { g.engine with mirror := g.engine.mirror.map f } }

def run (site : Site) (net : Network σ) (display : Engine → σ → GatewayStatus) (g : Gateway σ)
    (events : List Event) : Gateway σ :=
  events.foldl (step site net display) g

/-- The events that are not about the mirror alone. -/
def calm (events : List Event) : List Event := events.filter (! ·.isStir)

/-- The gateway as it looks without the mirror. -/
def view (site : Site) (g : Gateway σ) : Gateway σ :=
  ⟨g.engine.unmirrored, g.world, g.units.map (UnderWay.view site), g.exchanged⟩

variable {site : Site} {net : Network σ} {display : Engine → σ → GatewayStatus}

theorem map_view_units (g : Gateway σ) :
    (g.view site).units.map (UnderWay.view site) = g.units.map (UnderWay.view site) := by
  unfold view
  rw [List.map_map]
  exact List.map_congr_left fun x _ => x.view_view

theorem view_view (g : Gateway σ) : (g.view site).view site = g.view site := by
  rw [view, map_view_units]
  rfl

theorem view_stir (g : Gateway σ) (f : MirrorEngine → MirrorEngine) :
    (g.step site net display (.stir f)).view site = g.view site := rfl

theorem view_advance (g : Gateway σ) (i : Nat) :
    (g.step site net display (.advance i)).view site =
      ((g.view site).step site net display (.advance i)).view site := by
  have hunits : (g.view site).units[i]? = g.units[i]?.map (UnderWay.view site) := List.getElem?_map
  cases hi : g.units[i]? with
  | none =>
    rw [hi, Option.map_none] at hunits
    rw [step, step, hi, hunits, view_view]
  | some x =>
    obtain ⟨u, w | ⟨c, next⟩⟩ := x
    · -- a unit that is done makes no call, whether its result is left out or not
      obtain ⟨w', hw'⟩ : ∃ w', UnderWay.view site ⟨u, .done w⟩ = ⟨u, .done w'⟩ := UnderWay.exists_view_done u w
      rw [hi, Option.map_some, hw'] at hunits
      rw [step, step, hi, hunits]
      exact (view_view g).symm
    · -- no answer depends on the mirror, so the unit goes on in the same way
      rw [hi, Option.map_some, UnderWay.view_ask] at hunits
      have hanswer := Engine.answer_unmirrored net c g.engine g.world
      have hengine : (g.view site).engine = g.engine.unmirrored := rfl
      have hworld : (g.view site).world = g.world := rfl
      rw [step, step, hi, hunits]
      dsimp only
      rw [hengine, hworld, hanswer, view, view]
      dsimp only
      congr 1
      rw [List.map_set, List.map_set, map_view_units]

theorem view_step (g : Gateway σ) (e : Event) :
    (g.step site net display e).view site = ((g.view site).step site net display e).view site := by
  cases e with
  | arrive u freshId =>
    -- the page is made at once, from what there is to show on either side; all else of the request is the same
    have hnew : UnderWay.view site _ = UnderWay.view site _ := UnderWay.view_task u (display g.engine g.world)
      (display (g.view site).engine (g.view site).world) freshId
    rw [step, step, view, view]
    dsimp only
    rw [List.map_append, List.map_append, List.map_singleton, List.map_singleton, hnew, map_view_units]
    rfl
  | advance i => exact view_advance g i
  | stir f => exact (view_view g).symm

theorem view_run_congr {g g' : Gateway σ} (h : g.view site = g'.view site) (events : List Event) :
    (g.run site net display events).view site = (g'.run site net display events).view site := by
  induction events generalizing g g' with
  | nil => exact h
  | cons e events ih =>
    refine ih ?_
    rw [view_step g e, view_step g' e, h]

/-- What becomes of the mirror does not show. -/
theorem view_run_calm (g : Gateway σ) (events : List Event) :
    (g.run site net display events).view site = (g.run site net display (calm events)).view site := by
  induction events generalizing g with
  | nil => rfl
  | cons e events ih =>
    cases e with
    | arrive u freshId => exact ih _
    | advance i => exact ih _
    | stir f => exact (ih _).trans (view_run_congr (view_stir g f) _)

/-- The gateway with another mirror, or with none. -/
def withMirror (m : Option MirrorEngine) (g : Gateway σ) : Gateway σ :=
  { g with engine := { g.engine with mirror := m } }

/-- Mirroring does not interfere.  Whatever the mirror is and whatever becomes of it meanwhile, the same requests,
streams and datagrams make the same calls, among them what is sent to targets, given to clients and handed to the log,
and get the same answers; they leave everything but the mirror in the same state, and have the same responses.  Only
a request that asks for a page on which the mirror is shown may have another response. -/
theorem noninterference (site : Site) (net : Network σ) (display : Engine → σ → GatewayStatus) (g : Gateway σ)
    (m m' : Option MirrorEngine) {events events' : List Event} (h : calm events = calm events') :
    let g₁ := (g.withMirror m).run site net display events
    let g₂ := (g.withMirror m').run site net display events'
    g₁.exchanged = g₂.exchanged ∧ g₁.engine.unmirrored = g₂.engine.unmirrored ∧ g₁.world = g₂.world ∧
      g₁.units.map UnderWay.unit = g₂.units.map UnderWay.unit ∧
      ∀ (i : Nat) (x₁ x₂ : UnderWay), g₁.units[i]? = some x₁ → g₂.units[i]? = some x₂ →
        ¬ x₁.unit.Displays site → x₁ = x₂ := by
  intro g₁ g₂
  -- both runs look like the run without what becomes of the mirror
  have hview : g₁.view site = g₂.view site := by
    have hstart : (g.withMirror m).view site = (g.withMirror m').view site := rfl
    rw [view_run_calm, h, view_run_calm _ events']
    exact view_run_congr hstart _
  have hunits : g₁.units.map (UnderWay.view site) = g₂.units.map (UnderWay.view site) := congrArg Gateway.units hview
  have hexchanged : (g₁.view site).exchanged = (g₂.view site).exchanged := by rw [hview]
  have hengine : (g₁.view site).engine = (g₂.view site).engine := by rw [hview]
  have hworld : (g₁.view site).world = (g₂.view site).world := by rw [hview]
  refine ⟨hexchanged, hengine, hworld, ?_, ?_⟩
  · have hunit : UnderWay.unit ∘ UnderWay.view site = UnderWay.unit := funext UnderWay.view_unit
    have hmap := congrArg (List.map UnderWay.unit) hunits
    rwa [List.map_map, List.map_map, hunit] at hmap
  · intro i x₁ x₂ h₁ h₂ hdisplays
    have hi : (g₁.units.map (UnderWay.view site))[i]? = (g₂.units.map (UnderWay.view site))[i]? := by rw [hunits]
    rw [List.getElem?_map, List.getElem?_map, h₁, h₂, Option.map_some, Option.map_some, Option.some.injEq] at hi
    have hunit : x₁.unit = x₂.unit := by
      have hunit := congrArg UnderWay.unit hi
      rwa [UnderWay.view_unit, UnderWay.view_unit] at hunit
    rwa [UnderWay.view_of_not_displays hdisplays, UnderWay.view_of_not_displays (hunit ▸ hdisplays)] at hi

/-- A datagram that has been let through makes its seven calls, two of them to the mirror, whether there is no mirror
or one whose queue is full and that is stopped and started meanwhile. -/
theorem noninterference_datagram :
    let e : Engine := { verifier := ⟨.rs256, none, ⟨true, 0, 0⟩, {}⟩ }
    let rest := (fun _ => none) <$> RelayTask.exchange ⟨[]⟩ "c:1" "h:1" [1, 2]
    let g : Gateway Unit := ⟨e, (), [⟨.datagram "c:1" [], rest⟩], []⟩
    let full : MirrorEngine := ⟨{ queueSize := 0 }, "gw", {}, some []⟩
    let once := List.replicate 7 (Event.advance 0)
    let meanwhile := once.flatMap fun a => [.stir MirrorEngine.stop, a, .stir fun m => m.start.2]
    let g₁ := (g.withMirror none).run {} .willing (fun e _ => e.status) once
    let g₂ := (g.withMirror (some full)).run {} .willing (fun e _ => e.status) meanwhile
    g₁.exchanged.length = 7 ∧ g₁.exchanged = g₂.exchanged := by
  refine ⟨by decide +kernel, ?_⟩
  have hcalm : calm (List.replicate 7 (.advance 0)) =
      calm ((List.replicate 7 (.advance 0)).flatMap fun a => [.stir MirrorEngine.stop, a, .stir fun m => m.start.2]) :=
    rfl
  exact (noninterference {} .willing (fun e _ => e.status) _ none (some _) hcalm).1

/-- The health page shows whether there is a mirror. -/
theorem health_shows_mirror :
    let e : Engine := { verifier := ⟨.rs256, none, ⟨true, 0, 0⟩, {}⟩ }
    let g : Gateway Unit := ⟨e, (), [], []⟩
    let health := Event.arrive (.request ⟨"GET", ⟨none, none, "/health".toList⟩, [], [], "10.0.0.2:51000"⟩) "id"
    let g₁ := (g.withMirror none).run {} .willing (fun e _ => e.status) [health]
    let g₂ := (g.withMirror (some ⟨{}, "gw", {}, none⟩)).run {} .willing (fun e _ => e.status) [health]
    g₁.units.map UnderWay.result? ≠ g₂.units.map UnderWay.result? := by
  decide +kernel

end Gateway

end AccessGateway
