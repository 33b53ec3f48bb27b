import DualServer.Pipeline.Compose

/-!
Middlewares by what they do with a request: answer it, or hand a request to the next service and go
on with what comes back. A middleware of this kind cannot look into the next service or undo what it
did. Every stage of a pipeline but the custom ones is one of them.
-/

namespace DualServer.Pipeline

open DualServer.Config DualServer.Http

/-- What is done with one request. A breakdown of the next service is a breakdown here. -/
inductive Conduct
  | answer (run : Run Response)
  | forward (before : List Effect) (request : Request) (after : Response → Conduct)

namespace Conduct

def run (next : Service) : Conduct → Run Response
  | answer run => run
  | forward before request after =>
    let inner := next request
    Run.andThen ⟨before ++ inner.effects, inner.result⟩ fun response => (after response).run next

/-- The request goes on as it is, and so does the answer. -/
def pass (request : Request) : Conduct :=
  forward [] request fun response => answer (.ofValue response)

def AtMostOnce : Conduct → Prop
  | answer _ => True
  | forward _ _ after => ∀ response, ∃ run, after response = answer run

theorem run_forward_of_error {next : Service} {before : List Effect} {request : Request}
    {after : Response → Conduct} {message : String}
    (h : (next request).result = .error message) :
    (forward before request after).run next =
      ⟨before ++ (next request).effects, .error message⟩ := by
  simp only [run, Run.andThen, h]

theorem run_forward_of_ok {next : Service} {before : List Effect} {request : Request}
    {after : Response → Conduct} {response : Response} (h : (next request).result = .ok response) :
    (forward before request after).run next =
      ⟨before ++ (next request).effects ++ ((after response).run next).effects,
        ((after response).run next).result⟩ := by
  simp only [run, Run.andThen, h]

theorem run_pass (next : Service) (request : Request) : (pass request).run next = next request := by
  cases hresult : (next request).result with
  | error message => rw [pass, run_forward_of_error hresult, List.nil_append, ← hresult]
  | ok response =>
    rw [pass, run_forward_of_ok hresult]
    simp [run, Run.ofValue, ← hresult]

theorem atMostOnce_pass (request : Request) : (pass request).AtMostOnce := fun _ => ⟨_, rfl⟩

end Conduct

/-- A middleware told by its conduct with each request. -/
abbrev Script := Request → Conduct

namespace Script

def wrap (script : Script) : Middleware := fun next request => (script request).run next

def AtMostOnce (script : Script) : Prop := ∀ request, (script request).AtMostOnce

end Script

def Gate.script (gate : Gate) : Script := fun request =>
  match gate.decide request with
  | .ok () => .pass request
  | .error refusal => .answer ⟨[.log (refusedEntry request refusal)], .ok (refusedResponse refusal)⟩

def corsScript (c : CorsSettings) : Script := fun request =>
  if !c.enabled then .pass request
  else
    let policy := CorsPolicy.ofSettings c
    match policy.clash? with
    | some field => .answer (.panic (CorsPolicy.clashMessage field))
    | none =>
      if request.method == "OPTIONS" then .answer (.ofValue (policy.preflight request))
      else .forward [] request fun response => .answer (.ofValue (policy.decorate request response))

def AccessLog.script (log : AccessLog) : Script := fun request =>
  if log.isExcluded request.path then .pass request
  else .forward [.log (log.startedEntry request)] (identified request) fun response =>
    .answer ⟨[.log (log.completedEntry request response.status)],
      .ok { response with fields := response.fields.set requestIdField (requestId request) }⟩

def Collector.script (c : Collector) : Script := fun request =>
  .forward [] request fun response =>
    let path := anonymize c.listed request.path
    let counted := Metrics.requestKey c.interface request.method path response.status
    let timed := Metrics.durationKey c.interface request.method path
    .answer ⟨[.measure (.count counted), .measure (.duration timed)], .ok response⟩

section
variable {request : Request}

theorem Gate.script_of_admitted {gate : Gate} (h : gate.decide request = .ok ()) :
    gate.script request = .pass request := by
  unfold script
  rw [h]

theorem Gate.script_of_refused {gate : Gate} {refusal : Refusal}
    (h : gate.decide request = .error refusal) :
    gate.script request =
      .answer ⟨[.log (refusedEntry request refusal)], .ok (refusedResponse refusal)⟩ := by
  unfold script
  rw [h]

section
variable {c : CorsSettings} (henabled : c.enabled = true)
include henabled

theorem corsScript_of_clash {field : String}
    (hclash : (CorsPolicy.ofSettings c).clash? = some field) :
    corsScript c request = .answer (.panic (CorsPolicy.clashMessage field)) := by
  unfold corsScript
  simp [henabled, hclash]

variable (hbuilds : (CorsPolicy.ofSettings c).clash? = none)
include hbuilds

theorem corsScript_of_preflight (hmethod : request.method = "OPTIONS") :
    corsScript c request = .answer (.ofValue ((CorsPolicy.ofSettings c).preflight request)) := by
  unfold corsScript
  simp [henabled, hbuilds, hmethod]

theorem corsScript_of_actual (hmethod : request.method ≠ "OPTIONS") :
    corsScript c request = .forward [] request fun response =>
      .answer (.ofValue ((CorsPolicy.ofSettings c).decorate request response)) := by
  unfold corsScript
  simp [henabled, hbuilds, hmethod]

end

theorem corsScript_of_disabled {c : CorsSettings} (henabled : c.enabled = false) :
    corsScript c request = .pass request := by
  unfold corsScript
  simp [henabled]

end

theorem Gate.wrap_script (gate : Gate) : gate.script.wrap = gate.wrap := by
  funext next request
  unfold Script.wrap script wrap
  cases gate.decide request with
  | ok => exact Conduct.run_pass next request
  | error refusal => rfl

theorem wrap_corsScript (c : CorsSettings) : (corsScript c).wrap = corsStage c := by
  funext next request
  unfold Script.wrap corsScript corsStage
  split
  · exact Conduct.run_pass next request
  · cases hclash : (CorsPolicy.ofSettings c).clash? with
    | some field => simp only [hclash, Conduct.run]
    | none =>
      simp only [hclash]
      split
      · rfl
      · rfl

theorem AccessLog.wrap_script (log : AccessLog) : log.script.wrap = log.wrap := by
  funext next request
  unfold Script.wrap script wrap
  split
  · exact Conduct.run_pass next request
  · cases hresult : (next (identified request)).result with
    | error message =>
      rw [Conduct.run_forward_of_error hresult]
      simp [Run.log, Run.andThen, hresult]
    | ok response =>
      rw [Conduct.run_forward_of_ok hresult]
      simp [Run.log, Run.andThen, Run.ofValue, Conduct.run, hresult]

theorem Collector.wrap_script (c : Collector) : c.script.wrap = c.wrap := by
  funext next request
  unfold Script.wrap script wrap
  cases hresult : (next request).result with
  | error message =>
    rw [Conduct.run_forward_of_error hresult]
    simp [Run.andThen, hresult]
  | ok response =>
    rw [Conduct.run_forward_of_ok hresult]
    simp [Run.measure, Run.andThen, Run.ofValue, Conduct.run, hresult]

theorem Gate.atMostOnce_script (gate : Gate) : gate.script.AtMostOnce := by
  intro request
  unfold script
  split
  · exact Conduct.atMostOnce_pass request
  · trivial

theorem atMostOnce_corsScript (c : CorsSettings) : (corsScript c).AtMostOnce := by
  intro request
  unfold corsScript
  split
  · exact Conduct.atMostOnce_pass request
  · simp only
    split
    · trivial
    · split
      · trivial
      · exact fun _ => ⟨_, rfl⟩

theorem AccessLog.atMostOnce_script (log : AccessLog) : log.script.AtMostOnce := by
  intro request
  unfold script
  split
  · exact Conduct.atMostOnce_pass request
  · exact fun _ => ⟨_, rfl⟩

theorem Collector.atMostOnce_script (c : Collector) : c.script.AtMostOnce :=
  fun _ _ => ⟨_, rfl⟩

end DualServer.Pipeline
