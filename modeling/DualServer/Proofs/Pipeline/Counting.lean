import DualServer.Pipeline.History
import DualServer.Proofs.Metrics.Tallies
import DualServer.Proofs.Pipeline.CorsClash
import DualServer.Proofs.Pipeline.Labels
import DualServer.Proofs.Pipeline.Nesting

/-! Which requests are counted, and how often. Stages that forward a request at most once either let
one request through to what stands inside them or answer before it. So a pipeline does the same
with the metrics and without them, but for one count of each request that gets there, and over any
history of both interfaces the counts add up. -/
namespace DualServer.Pipeline
open DualServer.Config DualServer.Http

/-- The request that gets through some stages, if none of them answers by itself. -/
def arriving : List Script → Request → Option Request
  | [], request => some request
  | stage :: inside, request =>
    match stage request with
    | .answer _ => none
    | .forward _ request _ => arriving inside request

namespace Run

/-- A run with something done before it. -/
def preceded {α : Type} (run : Run α) (before : List Effect) : Run α :=
  ⟨before ++ run.effects, run.result⟩

section
variable {α β γ : Type} (run : Run α) (next : α → Run β)

theorem preceded_preceded (before before' : List Effect) :
    (run.preceded before').preceded before = run.preceded (before ++ before') := by
  simp [preceded]

theorem andThen_preceded (before : List Effect) :
    (run.preceded before).andThen next = (run.andThen next).preceded before := by
  unfold andThen preceded
  cases run.result <;> simp

theorem andThen_assoc (last : β → Run γ) :
    (run.andThen next).andThen last = run.andThen fun a => (next a).andThen last := by
  unfold andThen
  cases run.result with
  | error message => rfl
  | ok a => cases hnext : (next a).result <;> simp [hnext]

theorem andThen_ofValue_self : run.andThen .ofValue = run := by
  unfold andThen
  cases hresult : run.result <;> simp [ofValue, ← hresult]

end
end Run

/-- A conduct that forwards goes on with what comes back in a way of its own. -/
theorem Conduct.exists_last {before : List Effect} {request : Request} {after : Response → Conduct}
    (h : (forward before request after).AtMostOnce) :
    ∃ last : Response → Run Response, ∀ next,
      (forward before request after).run next =
        ((next request).preceded before).andThen last := by
  obtain ⟨last, hlast⟩ := Classical.axiomOfChoice h
  refine ⟨last, fun next => ?_⟩
  rw [run]
  refine congrArg (((next request).preceded before).andThen ·) (funext fun response => ?_)
  rw [hlast, run]

/-- All that the core does behind stages that forward at most once is what it does with the request
that arrives, once. -/
theorem exists_around {stages : List Script} (hstages : ∀ stage ∈ stages, stage.AtMostOnce)
    (request : Request) :
    match arriving stages request with
    | none => ∃ run, ∀ core, around core stages request = run
    | some inner => ∃ (before : List Effect) (after : Response → Run Response), ∀ core,
        around core stages request = ((core inner).preceded before).andThen after := by
  induction stages generalizing request with
  | nil => exact ⟨[], .ofValue, fun core => (Run.andThen_ofValue_self (core request)).symm⟩
  | cons stage inside ih =>
    have honce : (stage request).AtMostOnce := hstages stage List.mem_cons_self request
    have hrun : ∀ core, around core (stage :: inside) request =
        (stage request).run (around core inside) := fun _ => rfl
    unfold arriving
    cases hconduct : stage request with
    | answer run =>
      refine ⟨run, fun core => ?_⟩
      rw [hrun, hconduct, Conduct.run]
    | forward front handed back =>
      rw [hconduct] at honce
      obtain ⟨last, hlast⟩ := Conduct.exists_last honce
      have hinside := ih (fun other hother => hstages other (List.mem_cons_of_mem _ hother)) handed
      simp only
      cases harriving : arriving inside handed with
      | none =>
        rw [harriving] at hinside
        obtain ⟨run, hrest⟩ := hinside
        refine ⟨(run.preceded front).andThen last, fun core => ?_⟩
        rw [hrun, hconduct, hlast, hrest]
      | some inner =>
        rw [harriving] at hinside
        obtain ⟨before, after, hrest⟩ := hinside
        refine ⟨front ++ before, fun response => (after response).andThen last, fun core => ?_⟩
        rw [hrun, hconduct, hlast, hrest, ← Run.andThen_preceded, Run.preceded_preceded,
          Run.andThen_assoc]

section
variable {stage : Script} {inside : List Script} {request inner : Request} {run : Run Response}
  {before : List Effect} {after : Response → Conduct}

theorem arriving_of_answer (h : stage request = .answer run) :
    arriving (stage :: inside) request = none := by
  rw [arriving, h]

theorem arriving_of_forward (h : stage request = .forward before inner after) :
    arriving (stage :: inside) request = arriving inside inner := by
  rw [arriving, h]

theorem arriving_append (stages stages' : List Script) (request : Request) :
    arriving (stages ++ stages') request =
      (arriving stages request).bind (arriving stages') := by
  induction stages generalizing request with
  | nil => rfl
  | cons stage inside ih =>
    rw [List.cons_append]
    cases hconduct : stage request with
    | answer run => rw [arriving_of_answer hconduct, arriving_of_answer hconduct, Option.bind_none]
    | forward before inner after =>
      rw [arriving_of_forward hconduct, arriving_of_forward hconduct, ih]

theorem arriving_gate_iff {gate : Gate} :
    arriving [gate.script] request = some inner ↔
      gate.decide request = .ok () ∧ request = inner := by
  cases hdecision : gate.decide request with
  | ok =>
    rw [arriving_of_forward (Gate.script_of_admitted hdecision)]
    simp [arriving]
  | error refusal =>
    rw [arriving_of_answer (Gate.script_of_refused hdecision)]
    simp

theorem arriving_cors_iff {c : CorsSettings} :
    arriving [corsScript c] request = some inner ↔
      (c.enabled = true →
        (CorsPolicy.ofSettings c).clash? = none ∧ request.method ≠ "OPTIONS") ∧
      request = inner := by
  cases henabled : c.enabled with
  | false =>
    rw [arriving_of_forward (corsScript_of_disabled henabled)]
    simp [arriving]
  | true =>
    cases hclash : (CorsPolicy.ofSettings c).clash? with
    | some field =>
      rw [arriving_of_answer (corsScript_of_clash henabled hclash)]
      simp
    | none =>
      by_cases hmethod : request.method = "OPTIONS"
      · rw [arriving_of_answer (corsScript_of_preflight henabled hclash hmethod)]
        simp [hmethod]
      · rw [arriving_of_forward (corsScript_of_actual henabled hclash hmethod)]
        simp [arriving, hmethod]

/-- A request as the access log hands it on. -/
def AccessLog.handed (log : AccessLog) (request : Request) : Request :=
  if log.isExcluded request.path then request else identified request

theorem arriving_log (log : AccessLog) (request : Request) :
    arriving [log.script] request = some (log.handed request) := by
  unfold AccessLog.handed
  split
  next hexcluded =>
    have hconduct : log.script request = .pass request := by rw [AccessLog.script, if_pos hexcluded]
    rw [arriving_of_forward hconduct, arriving]
  next hexcluded =>
    rw [arriving, AccessLog.script, if_neg hexcluded]
    rfl

end

/-- Two runs that differ by one count and one duration at some moment. -/
inductive Counted (key duration : Metrics.Key) : Run Response → Run Response → Prop
  | mk (before after : List Effect) (result : Except String Response) :
    Counted key duration ⟨before ++ after, result⟩
      ⟨before ++ .measure (.count key) :: .measure (.duration duration) :: after, result⟩

namespace Collector

def key (c : Collector) (request : Request) (response : Response) : Metrics.Key :=
  Metrics.requestKey c.interface request.method (anonymize c.listed request.path) response.status

def durationKey (c : Collector) (request : Request) : Metrics.Key :=
  Metrics.durationKey c.interface request.method (anonymize c.listed request.path)

end Collector

section
variable {key duration : Metrics.Key} {run run' : Run Response}

theorem Counted.preceded (h : Counted key duration run run') (front : List Effect) :
    Counted key duration (run.preceded front) (run'.preceded front) := by
  cases h with
  | mk before after result =>
    simpa [Run.preceded] using Counted.mk (front ++ before) after result

theorem Counted.andThen (h : Counted key duration run run') (next : Response → Run Response) :
    Counted key duration (run.andThen next) (run'.andThen next) := by
  cases h with
  | mk before after result =>
    cases result with
    | error message => exact .mk before after (.error message)
    | ok response =>
      simpa [Run.andThen] using Counted.mk before (after ++ (next response).effects) _

theorem Collector.counted_wrap (c : Collector) {core : Service} {request : Request}
    {response : Response} (h : (core request).result = .ok response) :
    Counted (c.key request response) (c.durationKey request) (core request)
      (c.wrap core request) := by
  have hplain : core request = ⟨(core request).effects ++ [], .ok response⟩ := by
    rw [List.append_nil, ← h]
  have hwrapped : c.wrap core request = ⟨(core request).effects ++
      [.measure (.count (c.key request response)), .measure (.duration (c.durationKey request))],
      .ok response⟩ := by
    simp [Collector.wrap, Run.andThen, Run.measure, Run.ofValue, h, key, durationKey]
  rw [hwrapped]
  nth_rewrite 1 [hplain]
  exact .mk _ [] _

theorem Counted.perm_counted (h : Counted key duration run run') :
    (Metrics.counted run'.samples).Perm (key :: Metrics.counted run.samples) := by
  cases h with
  | mk before after result =>
    simp only [Run.samples, Metrics.counted, List.filterMap_append, List.filterMap_cons]
    exact List.perm_middle

end

/-- A visit whose middlewares forward it at most once and whose route answers. -/
structure Visit.Orderly (v : Visit) : Prop where
  forwards : ∀ script ∈ v.custom, script.AtMostOnce
  answers : Answers (v.routes.route v.request).service

def Stage.isMetrics : Stage → Bool
  | .metrics _ => true
  | _ => false

def withoutMetrics (p : Pipeline) : Pipeline := { p with stages := p.stages.filter (!·.isMetrics) }

namespace Pipelines

section
variable (ps : Pipelines) (v : Visit)

/-- The run that the visit makes of the same pipeline without its metrics. -/
def uncounted : Run Response := ((ps.pipeline v).withoutMetrics.router v.current).serve v.request

def endpoint : Endpoint := v.routes.route v.request

def log (i : Interface) : AccessLog := .ofSettings (ps.composed i) i

def collector (i : Interface) : Collector := ⟨i, Paths.reported⟩

def gate (i : Interface) : Option Gate :=
  if ps.gateRequired i then some (Gate.ofSettings ((ps.composed i).tls i)) else none

/-- The stages around the metrics. -/
def outside : List Script :=
  ((ps.gate v.interface).map Gate.script).toList ++ [corsScript (v.current.cors v.interface)] ++
    v.custom ++ [(ps.log v.interface).script]

/-- The request that gets to the metrics. -/
def reaching : Option Request := arriving (ps.outside v) v.request

/-- The key under which a visit is counted. -/
def key? : Option Metrics.Key :=
  (ps.reaching v).bind fun inner =>
    ((endpoint v).service inner).result.toOption.map ((collector v.interface).key inner)

end

section
variable (ps : Pipelines) {v : Visit}

theorem stages_eq : (ps.pipeline v).stages =
    (ps.pipeline v).withoutMetrics.stages ++ [.metrics (collector v.interface)] := by
  cases hgate : ps.gateRequired v.interface <;>
    simp [pipeline, compose, stagesOf, withoutMetrics, Stage.isMetrics, collector, hgate,
      List.filter_map, Function.comp_def]

theorem forall₂_stages : List.Forall₂ (fun stage script => stage.wrap v.current = script.wrap)
    (ps.pipeline v).stages (ps.outside v ++ [(collector v.interface).script]) := by
  have hscripts : scriptsOf v.current (ps.gate v.interface) v.interface v.custom
      (ps.log v.interface) (collector v.interface) =
      ps.outside v ++ [(collector v.interface).script] := by
    simp [scriptsOf, outside]
  rw [← hscripts]
  exact forall₂_scriptsOf ..

theorem forall₂_withoutMetrics :
    List.Forall₂ (fun stage script => stage.wrap v.current = script.wrap)
      (ps.pipeline v).withoutMetrics.stages (ps.outside v) := by
  have h := @forall₂_stages ps v
  have hlength := h.length_eq
  rw [stages_eq] at h hlength
  simp only [List.length_append, List.length_singleton, Nat.add_right_cancel_iff] at hlength
  have htake := List.forall₂_take (ps.outside v).length h
  rwa [List.take_left' hlength, List.take_left] at htake

theorem serve_of_forall₂ {p : Pipeline} {current : Settings} {scripts : List Script}
    (h : List.Forall₂ (fun stage script => stage.wrap current = script.wrap) p.stages scripts)
    (request : Request) :
    (p.router current).serve request =
      (around (p.routes.route request).service scripts request).andThen fun response =>
        .ofValue ((p.routes.route request).finish response) := by
  rw [around_of_forall₂ h, Router.serve, Pipeline.route_router]

/-- A visit goes through the stages around the metrics, through these, and out. -/
theorem run_eq : ps.run v =
    (around ((collector v.interface).wrap (endpoint v).service) (ps.outside v)
      v.request).andThen fun response => .ofValue ((endpoint v).finish response) := by
  have hmetrics : around (endpoint v).service
      (ps.outside v ++ [(collector v.interface).script]) =
      around ((collector v.interface).wrap (endpoint v).service) (ps.outside v) := by
    rw [around, List.foldr_append, ← Collector.wrap_script]
    rfl
  rw [← hmetrics]
  exact serve_of_forall₂ ps.forall₂_stages v.request

theorem uncounted_eq : ps.uncounted v =
    (around (endpoint v).service (ps.outside v) v.request).andThen fun response =>
      .ofValue ((endpoint v).finish response) :=
  serve_of_forall₂ ps.forall₂_withoutMetrics v.request

theorem atMostOnce_outside (hcustom : ∀ script ∈ v.custom, script.AtMostOnce) :
    ∀ script ∈ ps.outside v, script.AtMostOnce := by
  intro script hscript
  refine atMostOnce_scriptsOf v.current (ps.gate v.interface) v.interface (ps.log v.interface)
    (collector v.interface) hcustom script ?_
  simp only [outside, scriptsOf, List.mem_append] at hscript ⊢
  simp only [List.mem_cons, List.not_mem_nil, or_false] at hscript ⊢
  tauto

/-- Past the gate, not answered by the policy, handed on by every middleware, and then identified by
the access log. -/
structure Reaches (ps : Pipelines) (v : Visit) (inner : Request) : Prop where
  admitted : ps.gateRequired v.interface = true →
    Admits ((ps.composed v.interface).tls v.interface) v.request
  notAnswered : (v.current.cors v.interface).enabled = true →
    (CorsPolicy.ofSettings (v.current.cors v.interface)).clash? = none ∧
      v.request.method ≠ "OPTIONS"
  handedOn : ∃ request, arriving v.custom v.request = some request ∧
    inner = (ps.log v.interface).handed request

theorem reaching_eq_some_iff {inner : Request} :
    ps.reaching v = some inner ↔ Reaches ps v inner := by
  have hgate : ∀ request, arriving ((ps.gate v.interface).map Gate.script).toList v.request =
      some request ↔ (ps.gateRequired v.interface = true →
        Admits ((ps.composed v.interface).tls v.interface) v.request) ∧ v.request = request := by
    intro request
    cases hrequired : ps.gateRequired v.interface with
    | false => simp [gate, hrequired, arriving]
    | true =>
      simp only [gate, hrequired, if_true, Option.map_some, Option.toList_some]
      rw [arriving_gate_iff, Gate.decide_eq_ok_iff]
      simp
  unfold reaching outside
  rw [arriving_append, arriving_append, arriving_append]
  simp only [Option.bind_eq_some_iff, arriving_log, hgate, arriving_cors_iff]
  constructor
  · rintro ⟨request, ⟨_, ⟨_, ⟨hadmitted, rfl⟩, hanswered, rfl⟩, hcustom⟩, hlog⟩
    exact ⟨hadmitted, hanswered, request, hcustom, (Option.some.inj hlog).symm⟩
  · rintro ⟨hadmitted, hanswered, request, hcustom, rfl⟩
    exact ⟨request, ⟨_, ⟨_, ⟨hadmitted, rfl⟩, hanswered, rfl⟩, hcustom⟩, rfl⟩

/-- A visit that gets to the metrics makes the run that it would make without them, but for one
count and one duration; any other makes just that run. -/
theorem counted_run (h : v.Orderly) :
    match ps.reaching v with
    | none => ps.run v = ps.uncounted v
    | some inner => ∀ response, ((endpoint v).service inner).result = .ok response →
        Counted ((collector v.interface).key inner response)
          ((collector v.interface).durationKey inner) (ps.uncounted v) (ps.run v) := by
  have haround := exists_around (ps.atMostOnce_outside h.forwards) v.request
  rw [ps.run_eq, ps.uncounted_eq]
  unfold reaching
  cases harriving : arriving (ps.outside v) v.request with
  | none =>
    rw [harriving] at haround
    obtain ⟨run, hrun⟩ := haround
    simp only [hrun]
  | some inner =>
    rw [harriving] at haround
    obtain ⟨before, after, hrun⟩ := haround
    intro response hresponse
    simp only [hrun]
    have hcounted := (collector v.interface).counted_wrap hresponse
    exact ((hcounted.preceded before).andThen after).andThen _

theorem isSome_key? (h : v.Orderly) : (ps.key? v).isSome = (ps.reaching v).isSome := by
  unfold key?
  cases ps.reaching v with
  | none => rfl
  | some inner =>
    obtain ⟨response, hresponse⟩ := h.answers inner
    rw [Option.bind_some, endpoint, hresponse]
    rfl

theorem perm_counted_run (h : v.Orderly) :
    (Metrics.counted (ps.run v).samples).Perm
      ((ps.key? v).toList ++ Metrics.counted (ps.uncounted v).samples) := by
  have hrun := ps.counted_run h
  unfold key?
  cases hreaching : ps.reaching v with
  | none =>
    rw [hreaching] at hrun
    simp only at hrun
    rw [hrun]
    exact .refl _
  | some inner =>
    rw [hreaching] at hrun
    obtain ⟨response, hresponse⟩ := h.answers inner
    have hcounted := (hrun response hresponse).perm_counted
    rw [Option.bind_some, endpoint, hresponse]
    exact hcounted

theorem name_of_key? {key : Metrics.Key} (h : ps.key? v = some key) :
    key.name = Metrics.requestsTotal ∧ ∃ label ∈ Paths.reported, ("path", label) ∈ key.labels := by
  obtain ⟨inner, -, hkey⟩ := Option.bind_eq_some_iff.mp h
  obtain ⟨response, -, rfl⟩ := Option.map_eq_some_iff.mp hkey
  have hlabel : anonymize Paths.reported inner.path ∈ Paths.reported :=
    anonymize_mem (by decide) inner.path
  exact ⟨rfl, _, hlabel, by simp [Collector.key, Metrics.requestKey, collector]⟩

end

theorem counters_recorded (ps : Pipelines) (start : Metrics.Series) (visits : List Visit) :
    (ps.recorded start visits).counters =
      start.counters.bumpAll (visits.flatMap fun v => Metrics.counted (ps.run v).samples) := by
  induction visits generalizing start with
  | nil => rfl
  | cons v visits ih =>
    rw [recorded, List.foldl_cons, ← recorded, ih, Metrics.Series.counters_recordAll,
      List.flatMap_cons, Metrics.Tally.bumpAll, Metrics.Tally.bumpAll, Metrics.Tally.bumpAll,
      List.foldl_append]

section
variable (ps : Pipelines) {visits : List Visit} (h : ∀ v ∈ visits, v.Orderly)
include h

theorem perm_counted_runs :
    (visits.flatMap fun v => Metrics.counted (ps.run v).samples).Perm
      (visits.filterMap ps.key? ++
        visits.flatMap fun v => Metrics.counted (ps.uncounted v).samples) := by
  induction visits with
  | nil => exact .refl _
  | cons v visits ih =>
    have hkeys : (v :: visits).filterMap ps.key? =
        (ps.key? v).toList ++ visits.filterMap ps.key? := by
      cases hkey : ps.key? v <;> simp [hkey]
    have hfirst := ps.perm_counted_run (h v List.mem_cons_self)
    have hrest := ih fun other hother => h other (List.mem_cons_of_mem _ hother)
    rw [List.flatMap_cons, List.flatMap_cons, hkeys]
    refine (hfirst.append hrest).trans ?_
    rw [List.append_assoc, List.append_assoc]
    exact (List.perm_append_comm_assoc ..).append_left _

variable (start : Metrics.Series)

theorem get_recorded (key : Metrics.Key) :
    (ps.recorded start visits).counters.get key = start.counters.get key +
      (visits.flatMap fun v => Metrics.counted (ps.uncounted v).samples).count key +
      (visits.filterMap ps.key?).count key := by
  have hperm := ps.perm_counted_runs h
  rw [counters_recorded, Metrics.Tally.get_bumpAll, hperm.count_eq, List.count_append,
    Nat.add_assoc, Nat.add_comm (List.count key (visits.filterMap ps.key?))]

variable (hothers : ∀ key ∈ visits.flatMap fun v => Metrics.counted (ps.uncounted v).samples,
    key.name ≠ Metrics.requestsTotal)
include hothers

/-- If nobody else counts requests, all counts of requests are of visits that got to the metrics. -/
theorem totalOf_recorded :
    (ps.recorded start visits).counters.totalOf Metrics.requestsTotal =
      start.counters.totalOf Metrics.requestsTotal +
        visits.countP fun v => (ps.reaching v).isSome := by
  have hperm := ps.perm_counted_runs h
  have hnone : (visits.flatMap fun v => Metrics.counted (ps.uncounted v).samples).countP
      (·.name = Metrics.requestsTotal) = 0 :=
    List.countP_eq_zero.mpr fun key hkey => by simpa using hothers key hkey
  have hall : (visits.filterMap ps.key?).countP (·.name = Metrics.requestsTotal) =
      (visits.filterMap ps.key?).length := by
    refine List.countP_eq_length.mpr fun key hkey => ?_
    obtain ⟨v, -, hv⟩ := List.mem_filterMap.mp hkey
    simpa using (ps.name_of_key? hv).1
  have hsome : visits.countP (fun v => (ps.key? v).isSome) =
      visits.countP fun v => (ps.reaching v).isSome :=
    List.countP_congr fun v hv => by rw [ps.isSome_key? (h v hv)]
  rw [counters_recorded, Metrics.Tally.totalOf_bumpAll, hperm.countP_eq, List.countP_append, hall,
    hnone, List.length_filterMap_eq_countP, Nat.add_zero, hsome]

theorem label_of_mem_recorded {entry : Metrics.Key × Nat}
    (hentry : entry ∈ (ps.recorded start visits).counters)
    (hname : entry.1.name = Metrics.requestsTotal) :
    entry.1 ∈ start.counters.map (·.1) ∨
      ∃ label ∈ Paths.reported, ("path", label) ∈ entry.1.labels := by
  have hperm := ps.perm_counted_runs h
  have hkey := List.mem_map_of_mem (f := (·.1)) hentry
  rw [counters_recorded, Metrics.Tally.mem_keys_bumpAll, hperm.mem_iff, List.mem_append] at hkey
  rcases hkey with hstart | hcounted | hother
  · exact .inl hstart
  · obtain ⟨v, -, hv⟩ := List.mem_filterMap.mp hcounted
    exact .inr (ps.name_of_key? hv).2
  · exact absurd hname (hothers entry.1 hother)

end
end Pipelines

/-- A visit past the gate, the policy and every middleware adds one count to what it would do
without the metrics, any other does just that. So over any history of both interfaces each series
shows what it showed before, what others counted there, and the visits under its name and labels. -/
theorem requests_counted_once (ps : Pipelines) (visits : List Visit)
    (h : ∀ v ∈ visits, v.Orderly) :
    (∀ v ∈ visits,
      (∀ inner, ps.reaching v = some inner ↔ Pipelines.Reaches ps v inner) ∧
      (ps.reaching v = none → ps.run v = ps.uncounted v ∧ ps.key? v = none) ∧
      ∀ inner, ps.reaching v = some inner →
        ∃ response, ((v.routes.route v.request).service inner).result = .ok response ∧
          let path := anonymize Paths.reported inner.path
          let key : Metrics.Key := ⟨"http_requests_total", [("interface", v.interface.name),
            ("method", inner.method), ("path", path), ("status", toString response.status)]⟩
          ps.key? v = some key ∧
          Counted key ⟨"http_request_duration_seconds", [("interface", v.interface.name),
            ("method", inner.method), ("path", path)]⟩ (ps.uncounted v) (ps.run v)) ∧
    ∀ start,
      let counters := (ps.recorded start visits).counters
      let others := visits.flatMap fun v => Metrics.counted (ps.uncounted v).samples
      (∀ key, counters.get key =
        start.counters.get key + others.count key + (visits.filterMap ps.key?).count key) ∧
      (start = {} → (∀ key ∈ others, key.name ≠ "http_requests_total") →
        counters.totalOf "http_requests_total" =
          visits.countP (fun v => (ps.reaching v).isSome) ∧
        ∀ entry ∈ counters, entry.1.name = "http_requests_total" →
          ∃ label ∈ Paths.reported, ("path", label) ∈ entry.1.labels) := by
  constructor
  · intro v hv
    have hrun := ps.counted_run (h v hv)
    refine ⟨fun inner => ps.reaching_eq_some_iff, ?_, ?_⟩
    · intro hreaching
      rw [hreaching] at hrun
      exact ⟨hrun, by rw [Pipelines.key?, hreaching, Option.bind_none]⟩
    · intro inner hreaching
      rw [hreaching] at hrun
      obtain ⟨response, hresponse⟩ := (h v hv).answers inner
      refine ⟨response, hresponse, ?_, hrun response hresponse⟩
      rw [Pipelines.key?, hreaching, Option.bind_some, Pipelines.endpoint, hresponse]
      rfl
  · intro start counters others
    refine ⟨ps.get_recorded h start, ?_⟩
    rintro rfl hothers
    constructor
    · exact (ps.totalOf_recorded h {} hothers).trans (Nat.zero_add _)
    · intro entry hentry hname
      have hlabel := ps.label_of_mem_recorded h {} hothers hentry hname
      exact hlabel.resolve_left List.not_mem_nil

/-- Four visits of which one gets to the metrics: the others end at a middleware, at the policy and
at the gate. -/
theorem requests_counted_once_of_four :
    let s : Settings := { serve := {
      «public» := { port := 4444, cors := { enabled := true, allowCredentials := false } }
      tls := { enabled := true } } }
    let closes : Script := fun _ => .answer (.ofValue { status := 403 })
    let rewrites : Script := fun request =>
      .forward [] { request with method := "PUT" } fun response => .answer (.ofValue response)
    let routes : Router := { route := fun _ => { service := fun _ => .ofValue { status := 201 } } }
    let ps : Pipelines := { composed := fun _ => s, gateRequired := fun i => i = .admin }
    let v : Visit :=
      ⟨.public, { path := "/oauth2/token/7", method := "POST" }, s, [rewrites], routes⟩
    let visits : List Visit := [v, ⟨.public, { path := "/closed" }, s, [closes], routes⟩,
      ⟨.public, { path := "/", method := "OPTIONS" }, s, [rewrites], routes⟩,
      ⟨.admin, { path := "/admin/keys" }, s, [], routes⟩]
    (∀ v ∈ visits, v.Orderly) ∧
    Counted ⟨"http_requests_total", [("interface", "public"), ("method", "PUT"),
        ("path", "/oauth2/token"), ("status", "201")]⟩
      ⟨"http_request_duration_seconds", [("interface", "public"), ("method", "PUT"),
        ("path", "/oauth2/token")]⟩ (ps.uncounted v) (ps.run v) ∧
    (ps.recorded {} visits).counters.totalOf "http_requests_total" = 1 := by
  intro s closes rewrites routes ps v visits
  have hanswers : ∀ request, Answers (routes.route request).service := fun _ _ => ⟨_, rfl⟩
  have hrewrites : ∀ script ∈ [rewrites], script.AtMostOnce :=
    List.forall_mem_singleton.mpr fun _ _ => ⟨_, rfl⟩
  have hcloses : ∀ script ∈ [closes], script.AtMostOnce :=
    List.forall_mem_singleton.mpr fun _ => trivial
  have horderly : ∀ v ∈ visits, v.Orderly := by
    simp only [visits, List.forall_mem_cons]
    exact ⟨⟨hrewrites, hanswers _⟩, ⟨hcloses, hanswers _⟩, ⟨hrewrites, hanswers _⟩,
      ⟨List.forall_mem_nil _, hanswers _⟩, List.forall_mem_nil _⟩
  obtain ⟨hvisits, hhistory⟩ := requests_counted_once ps visits horderly
  have hreaching : ps.reaching v = some {
      path := "/oauth2/token/7"
      method := "PUT"
      fields := [("x-request-id", "fresh")] } := by
    decide +kernel
  have hpath : anonymize Paths.reported "/oauth2/token/7" = "/oauth2/token" := by
    decide +kernel
  have hothers : (visits.flatMap fun v => Metrics.counted (ps.uncounted v).samples) = [] := by
    decide +kernel
  have hreached : visits.countP (fun v => (ps.reaching v).isSome) = 1 := by
    decide +kernel
  refine ⟨horderly, ?_, ?_⟩
  · obtain ⟨response, hresponse, -, hcounted⟩ := (hvisits v List.mem_cons_self).2.2 _ hreaching
    obtain rfl : { status := 201 } = response := Except.ok.inj hresponse
    dsimp only at hcounted
    rw [hpath] at hcounted
    exact hcounted
  · rw [← hreached]
    refine ((hhistory {}).2 rfl ?_).1
    rw [hothers]
    exact nofun

end DualServer.Pipeline
