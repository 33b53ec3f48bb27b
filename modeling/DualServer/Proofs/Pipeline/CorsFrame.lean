import DualServer.Proofs.Pipeline.Nesting
import DualServer.Proofs.Pipeline.OriginGrant
import DualServer.Proofs.Pipeline.Reload

/-! What the policy for other origins leaves alone. Two runs of one pipeline are compared, with the
policy on and off: a request that is no preflight goes the same way in both, and comes back with the
same answer but for the fields of the policy. -/
namespace DualServer.Pipeline
open DualServer.Config DualServer.Http

/-- Whether a field is none of those that a policy writes. -/
def isPlainName (name : String) : Bool := name != "vary" && !decide (IsPolicyField name)

def unmarked (r : Response) : Response := { r with fields := r.fields.filter (isPlainName ·.1) }

/-- One answer with and without the fields of a policy. What the answer varies by besides is told
first, as it was. -/
structure Marks (plain marked : Response) : Prop where
  rest : unmarked marked = unmarked plain
  vary : plain.fields.all "vary" <+: marked.fields.all "vary"

theorem Marks.refl (r : Response) : Marks r r := ⟨rfl, List.prefix_refl _⟩

/-- Two runs that do the same, and break down alike or answer alike but for a policy. -/
inductive MarksOnly : Run Response → Run Response → Prop
  | brokeDown (effects : List Effect) (message : String) :
    MarksOnly ⟨effects, .error message⟩ ⟨effects, .error message⟩
  | answered (effects : List Effect) {plain marked : Response} (h : Marks plain marked) :
    MarksOnly ⟨effects, .ok plain⟩ ⟨effects, .ok marked⟩

theorem MarksOnly.refl (run : Run Response) : MarksOnly run run := by
  match run with
  | ⟨effects, .error message⟩ => exact .brokeDown effects message
  | ⟨effects, .ok response⟩ => exact .answered effects (Marks.refl response)

section
variable {run run' : Run Response} {change : Response → Response}

theorem MarksOnly.of_change (h : ∀ response, Marks response (change response)) :
    MarksOnly run (run.andThen fun response => .ofValue (change response)) := by
  match run with
  | ⟨effects, .error message⟩ => exact .brokeDown effects message
  | ⟨effects, .ok response⟩ =>
    simpa [Run.andThen, Run.ofValue] using MarksOnly.answered effects (h response)

theorem MarksOnly.andThen (h : MarksOnly run run')
    (hchange : ∀ plain marked, Marks plain marked → Marks (change plain) (change marked)) :
    MarksOnly (run.andThen fun response => .ofValue (change response))
      (run'.andThen fun response => .ofValue (change response)) := by
  cases h with
  | brokeDown effects message => exact .brokeDown effects message
  | answered effects h => exact .answered _ (hchange _ _ h)

end

theorem Marks.decorate (p : CorsPolicy) (request : Request) (r : Response) :
    Marks r (p.decorate request r) where
  rest := by
    have hpolicy : ∀ field ∈ p.answerFields request, isPlainName field.1 = false := by
      intro field hfield
      have hname : IsPolicyField field.1 := p.isPolicyField_of_mem_answerFields request hfield
      simp [isPlainName, hname]
    rw [unmarked, CorsPolicy.decorate, Fields.filter_foldl_set _ _ hpolicy,
      Fields.filter_add _ _ (by decide), unmarked]
  vary := by
    have hnone : (p.answerFields request).all "vary" = [] := by
      refine (Fields.all_eq_nil_iff _).mpr fun field hfield heq => ?_
      have hname : IsPolicyField field.1 := p.isPolicyField_of_mem_answerFields request hfield
      exact absurd (heq ▸ hname) (by decide)
    rw [p.all_decorate, if_pos hnone, Fields.all_add_self]
    exact List.prefix_append _ _

section
variable (method : String) (allow : Option String) (r : Response)

theorem unmarked_withLength : unmarked (withLength r) = withLength (unmarked r) := by
  unfold unmarked withLength
  rw [Fields.filter_setIfAbsent _ _ (by decide)]

theorem unmarked_finishKnown :
    unmarked (finishKnown method allow r) = finishKnown method allow (unmarked r) := by
  have hstatus : (unmarked r).status = r.status := rfl
  have hbody : ∀ response, unmarked (withoutBody response) = withoutBody (unmarked response) :=
    fun _ => rfl
  have hallow : ∀ methods, unmarked { r with fields := r.fields.setIfAbsent "allow" methods } =
      { unmarked r with fields := (unmarked r).fields.setIfAbsent "allow" methods } := by
    intro methods
    unfold unmarked
    rw [Fields.filter_setIfAbsent _ _ (by decide)]
  -- It looks at the status, the body and two fields, none of which is the policy's.
  unfold finishKnown
  rw [hstatus]
  split
  · exact hbody r
  · cases allow with
    | none =>
      simp only [apply_ite unmarked, hbody, unmarked_withLength]
      rfl
    | some methods =>
      simp only [apply_ite unmarked, hbody, unmarked_withLength, hallow]
      rfl

theorem vary_finishKnown :
    (finishKnown method allow r).fields.all "vary" = r.fields.all "vary" := by
  have hlength : ∀ response, (withLength response).fields.all "vary" = response.fields.all "vary" :=
    fun response => Fields.all_setIfAbsent_of_ne response.fields _ (by decide)
  have hallow : ∀ methods,
      (r.fields.setIfAbsent "allow" methods).all "vary" = r.fields.all "vary" :=
    fun methods => Fields.all_setIfAbsent_of_ne r.fields methods (by decide)
  unfold finishKnown
  split
  · rfl
  · cases allow with
    | none =>
      simp only
      split <;> exact hlength _
    | some methods =>
      simp only
      split <;> exact (hlength _).trans (hallow methods)

end

theorem Marks.finish {table : RouteTable} {request : Request} {plain marked : Response}
    (h : Marks plain marked) :
    Marks ((table.router.route request).finish plain)
      ((table.router.route request).finish marked) := by
  rcases table.finish_router request with hid | ⟨allow, hknown⟩
  · rw [hid]
    exact h
  · rw [hknown]
    exact ⟨by rw [unmarked_finishKnown, unmarked_finishKnown, h.rest],
      by rw [vary_finishKnown, vary_finishKnown]; exact h.vary⟩

section
variable {c : CorsSettings} {request : Request}

theorem MarksOnly.corsStage (inner : Service)
    (hbuilds : c.enabled = true → (CorsPolicy.ofSettings c).clash? = none)
    (hmethod : request.method ≠ "OPTIONS") :
    MarksOnly (inner request) (corsStage c inner request) := by
  cases henabled : c.enabled with
  | false =>
    rw [corsStage_of_disabled henabled]
    exact .refl _
  | true =>
    rw [corsStage_of_actual henabled (hbuilds henabled) hmethod]
    exact .of_change (Marks.decorate _ request)

theorem MarksOnly.gate (gate : Gate) {inner inner' : Service}
    (h : MarksOnly (inner request) (inner' request)) :
    MarksOnly (gate.wrap inner request) (gate.wrap inner' request) := by
  unfold Gate.wrap
  split
  · exact h
  · exact .refl _

end

section
variable {core : Service} {inside : List Script} {place depth : Nat} {request : Request}
  {marks : List Mark} {result : Except String Response}

theorem Traces.exists_of_pass (h : Traces core inside place (.pass request) marks result) :
    ∃ inner, marks = .entered place request :: (inner ++ [.left place result]) ∧
      Traces core inside.tail (place + 1) (first core inside request) inner result := by
  unfold Conduct.pass at h
  cases h with
  | brokeDown _ _ hnext => exact ⟨_, rfl, hnext⟩
  | returned _ hnext hafter =>
    cases hafter
    exact ⟨_, rfl, hnext⟩

/-- A stage that lets a request pass adds its own way in and out. -/
theorem Traces.crossings_of_pass (h : Traces core inside place (.pass request) marks result)
    (hinner : ∀ inner,
      Traces core inside.tail (place + 1) (first core inside request) inner result →
      crossings inner = thereAndBack (place + 1) depth) :
    crossings marks = thereAndBack place (depth + 1) := by
  obtain ⟨inner, rfl, htraces⟩ := h.exists_of_pass
  rw [thereAndBack_succ, ← hinner inner htraces]
  simp [crossings]

end

section
variable {current off : Settings} {gate : Option Gate} {i : Interface} {custom : List Middleware}
  {log : AccessLog} {collector : Collector} {inner : Service} {request : Request}

theorem MarksOnly.nested (hoff : (off.cors i).enabled = false)
    (hbuilds : (current.cors i).enabled = true →
      (CorsPolicy.ofSettings (current.cors i)).clash? = none)
    (hmethod : request.method ≠ "OPTIONS") :
    MarksOnly (nested off gate i custom log collector inner request)
      (nested current gate i custom log collector inner request) := by
  unfold Pipeline.nested
  rw [corsStage_of_disabled hoff]
  cases gate with
  | none => exact .corsStage _ hbuilds hmethod
  | some gate => exact .gate gate (.corsStage _ hbuilds hmethod)

theorem nested_of_preflight (henabled : (current.cors i).enabled = true)
    (hbuilds : (CorsPolicy.ofSettings (current.cors i)).clash? = none)
    (hmethod : request.method = "OPTIONS") (hadmitted : ∀ g ∈ gate, g.decide request = .ok ()) :
    nested current gate i custom log collector inner request =
      .ofValue ((CorsPolicy.ofSettings (current.cors i)).preflight request) := by
  unfold nested
  cases gate with
  | none => exact corsStage_of_preflight henabled hbuilds hmethod
  | some gate =>
    simp only [Gate.wrap, hadmitted gate rfl]
    exact corsStage_of_preflight henabled hbuilds hmethod

/-- A preflight turns back at the policy, which stands behind the gate if there is one. -/
theorem crossings_of_preflight {scripts : List Script} {marks : List Mark}
    {result : Except String Response} (henabled : (current.cors i).enabled = true)
    (hbuilds : (CorsPolicy.ofSettings (current.cors i)).clash? = none)
    (hmethod : request.method = "OPTIONS") (hadmitted : ∀ g ∈ gate, g.decide request = .ok ())
    (h : Traces inner (scriptsOf current gate i scripts log collector) 0 (.pass request) marks
      result) :
    crossings marks = thereAndBack 0 (gate.toList.length + 1) := by
  have hpolicy : ∀ inside place marks, Traces inner inside place
      (corsScript (current.cors i) request) marks result → crossings marks = [] := by
    intro inside place marks htraces
    rw [corsScript_of_preflight henabled hbuilds hmethod] at htraces
    exact htraces.crossings_of_answer
  cases gate with
  | none => exact h.crossings_of_pass fun marks htraces => hpolicy _ _ marks htraces
  | some gate =>
    refine h.crossings_of_pass fun marks htraces => ?_
    have hgate : Traces inner _ 1 (gate.script request) marks result := htraces
    rw [gate.script_of_admitted (hadmitted gate rfl)] at hgate
    exact hgate.crossings_of_pass fun marks htraces => hpolicy _ _ marks htraces

end

def Stage.isCors : Stage → Bool
  | .cors _ => true
  | _ => false

def withoutCors (p : Pipeline) : Pipeline := { p with stages := p.stages.filter (!·.isCors) }

theorem Stage.wrap_of_disabled {stage : Stage} {current : Settings}
    (h : ∀ i, stage = .cors i → (current.cors i).enabled = false) (hcors : stage.isCors = true) :
    stage.wrap current = id := by
  cases stage with
  | cors i => exact funext fun inner => corsStage_of_disabled (h i rfl) inner
  | gate | custom | accessLog | metrics => cases hcors

theorem router_withoutCors {p : Pipeline} {current : Settings}
    (h : ∀ i, .cors i ∈ p.stages → (current.cors i).enabled = false) :
    p.withoutCors.router current = p.router current := by
  obtain ⟨interface, stages, routes⟩ := p
  unfold router withoutCors
  simp only at h ⊢
  -- A stage that is left out wraps nothing.
  induction stages with
  | nil => rfl
  | cons stage stages ih =>
    have hrest := ih fun i hmem => h i (List.mem_cons_of_mem _ hmem)
    cases hcors : stage.isCors with
    | true =>
      have hwrap : stage.wrap current = id :=
        Stage.wrap_of_disabled (fun i hstage => h i (hstage ▸ List.mem_cons_self)) hcors
      rw [List.filter_cons_of_neg (by simp [hcors]), hrest, List.foldr_cons, hwrap]
      rfl
    | false =>
      rw [List.filter_cons_of_pos (by simp [hcors]), List.foldr_cons, hrest, List.foldr_cons]

/-- A request that is no preflight makes the same run with the policy on and off, but for the fields
of the policy on its answer. A preflight that gets past the gate is answered with status 200 at the
policy and goes no further in. Switched off, the policy might as well not be there. -/
theorem policy_only_marks_answers (s current : Settings) (i : Interface) (gateRequired : Bool)
    (custom : List Middleware) (table : RouteTable) (request : Request)
    (hbuilds : (current.cors i).enabled = true →
      (CorsPolicy.ofSettings (current.cors i)).clash? = none) :
    let c := current.cors i
    let off := current.withCors i { c with enabled := false }
    let gate := if gateRequired then some (Gate.ofSettings (s.tls i)) else none
    let p := (Pipeline.compose s i gateRequired custom table.router).1
    let endpoint := table.router.route request
    (request.method ≠ "OPTIONS" →
      MarksOnly ((p.router off).serve request) ((p.router current).serve request)) ∧
    (c.enabled = true → request.method = "OPTIONS" →
      (gateRequired = true → Admits (s.tls i) request) →
      let answer := endpoint.finish ((CorsPolicy.ofSettings c).preflight request)
      (p.router current).serve request = .ofValue answer ∧ answer.status = 200 ∧
      ∀ scripts : List Script, custom = scripts.map Script.wrap → ∀ marks result,
        Traces endpoint.service (scriptsOf current gate i scripts (.ofSettings s i)
          ⟨i, Paths.reported⟩) 0 (.pass request) marks result →
        crossings marks = thereAndBack 0 (if gateRequired then 2 else 1)) ∧
    (c.enabled = false →
      (∀ inner, (Stage.cors i).wrap current inner = inner) ∧
      p.router current = p.withoutCors.router current) := by
  intro c off gate p endpoint
  have hserve : ∀ settings, (p.router settings).serve request =
      (nested settings gate i custom (.ofSettings s i) ⟨i, Paths.reported⟩ endpoint.service
        request).andThen fun response => .ofValue (endpoint.finish response) := by
    intro settings
    rw [router_compose]
    rfl
  refine ⟨?_, ?_, ?_⟩
  · intro hmethod
    have hoff : (off.cors i).enabled = false := by
      rw [Settings.cors_withCors]
    rw [hserve, hserve]
    exact (MarksOnly.nested hoff hbuilds hmethod).andThen fun _ _ h => h.finish
  · intro henabled hmethod hadmits answer
    have hadmitted : ∀ g ∈ gate, g.decide request = .ok () := by
      intro g hg
      cases hrequired : gateRequired with
      | false => simp [gate, hrequired] at hg
      | true =>
        obtain rfl : Gate.ofSettings (s.tls i) = g := by simpa [gate, hrequired] using hg
        exact Gate.decide_eq_ok_iff.mpr (hadmits hrequired)
    refine ⟨?_, table.finish_status request _, ?_⟩
    · rw [hserve, nested_of_preflight henabled (hbuilds henabled) hmethod hadmitted]
      rfl
    · intro scripts _ marks result htraces
      rw [crossings_of_preflight henabled (hbuilds henabled) hmethod hadmitted htraces]
      cases gateRequired <;> rfl
  · intro hdisabled
    refine ⟨corsStage_of_disabled hdisabled, (router_withoutCors fun j hcors => ?_).symm⟩
    rw [cors_mem_compose.mp hcors]
    exact hdisabled

/-- A policy behind a gate, asked over TLS with a preflight and with the request after it. -/
theorem policy_only_marks_answers_gated :
    let c : CorsSettings := { enabled := true, allowedOrigins := ["https://app.example"] }
    let s : Settings := { serve := { «public» := { port := 4444, cors := c } } }
    let service : Service := fun _ => .ofValue { fields := [("vary", "accept")], body := "here" }
    let table : RouteTable := { elsewhere := some service }
    let p := (Pipeline.compose s .public true [fun inner => inner] table.router).1
    let request : Request :=
      { path := "/", fields := [("origin", "https://app.example")], security := some .tls }
    (c.enabled = true → (CorsPolicy.ofSettings c).clash? = none) ∧
    MarksOnly ((p.router (s.withCors .public { c with enabled := false })).serve request)
      ((p.router s).serve request) ∧
    ∃ answer, (p.router s).serve { request with method := "OPTIONS" } = .ofValue answer ∧
      answer.status = 200 := by
  intro c s service table p request
  have hbuilds : c.enabled = true → (CorsPolicy.ofSettings c).clash? = none := by decide +kernel
  obtain ⟨hactual, -⟩ :=
    policy_only_marks_answers s s .public true [fun inner => inner] table request hbuilds
  obtain ⟨-, hpreflight, -⟩ :=
    policy_only_marks_answers s s .public true [fun inner => inner] table
      { request with method := "OPTIONS" } hbuilds
  obtain ⟨hanswer, hstatus, -⟩ := hpreflight rfl rfl fun _ => .inl rfl
  exact ⟨hbuilds, hactual (by decide), _, hanswer, hstatus⟩

end DualServer.Pipeline
