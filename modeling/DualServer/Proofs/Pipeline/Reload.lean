import Mathlib.Data.List.Basic
import DualServer.Pipeline.Compose
import DualServer.Proofs.Config.Reloading

/-! What later settings reach in a pipeline that is in service: the policy for other origins of its
own interface. All else stays as it was composed, so the pipeline answers as one that is composed
anew of the first settings with just that policy taken from the latest. -/
namespace DualServer.Config

section
variable (s : Settings) (i : Interface) (c : CorsSettings)

@[simp] theorem Settings.cors_withCors : (s.withCors i c).cors i = c := by
  cases i <;> rfl

@[simp] theorem Settings.tls_withCors (j : Interface) : (s.withCors i c).tls j = s.tls j := by
  cases i <;> cases j <;> rfl

@[simp] theorem Settings.urls_withCors : (s.withCors i c).urls = s.urls := by
  cases i <;> rfl

@[simp] theorem Settings.requestLog_withCors (j : Interface) :
    ((s.withCors i c).interface j).requestLog = (s.interface j).requestLog := by
  cases i <;> cases j <;> rfl

end

end DualServer.Config

namespace DualServer.Pipeline
open DualServer.Config DualServer.Http

theorem AccessLog.ofSettings_withCors (s : Settings) (i j : Interface) (c : CorsSettings) :
    ofSettings (s.withCors i c) j = ofSettings s j := by
  unfold ofSettings
  simp only [Settings.urls_withCors, Settings.requestLog_withCors]

section
variable {s current current' : Settings} {i j : Interface} {gateRequired : Bool}
  {custom : List Middleware} {routes : Router}

theorem Stage.wrap_congr {stage : Stage}
    (h : ∀ i, stage = .cors i → current.cors i = current'.cors i) :
    stage.wrap current = stage.wrap current' := by
  cases stage with
  | cors i => exact congrArg corsStage (h i rfl)
  | gate | custom | accessLog | metrics => rfl

/-- A pipeline looks at the settings of the moment for the policies among its stages only. -/
theorem router_congr {p : Pipeline}
    (h : ∀ i, .cors i ∈ p.stages → current.cors i = current'.cors i) :
    p.router current = p.router current' := by
  unfold router
  refine List.foldr_ext _ _ _ fun stage hstage inner => ?_
  have hwrap : stage.wrap current = stage.wrap current' :=
    Stage.wrap_congr fun i hcors => h i (hcors ▸ hstage)
  rw [hwrap]

theorem cors_mem_compose :
    .cors j ∈ (Pipeline.compose s i gateRequired custom routes).1.stages ↔ j = i := by
  cases gateRequired <;> simp [compose, stagesOf]

theorem router_compose_congr (h : current.cors i = current'.cors i) :
    (Pipeline.compose s i gateRequired custom routes).1.router current =
      (Pipeline.compose s i gateRequired custom routes).1.router current' := by
  refine router_congr fun j hcors => ?_
  rw [cors_mem_compose.mp hcors]
  exact h

theorem compose_withCors (c : CorsSettings) :
    Pipeline.compose (s.withCors i c) j gateRequired custom routes =
      Pipeline.compose s j gateRequired custom routes := by
  unfold compose
  simp only [Settings.tls_withCors, AccessLog.ofSettings_withCors]

end

/-- Of all stores and reloads since its composition, a pipeline notices only what they make of the
policy of its own interface: it runs as a pipeline composed of the first settings with that one
policy replaced. Settings that agree on it make no difference. -/
theorem reload_reaches_own_policy_only [UrlReader] (s₀ : Settings) (history : List HandleAction)
    (handle : String) (i : Interface) (gateRequired : Bool) (custom : List Middleware)
    (routes : Router) (request : Request) :
    let current := ((Handles.make s₀).run history).load handle
    let merged := s₀.withCors i (current.cors i)
    let composed s := Pipeline.compose s i gateRequired custom routes
    current = latest s₀ history ∧
    ((composed s₀).1.router current).serve request =
      ((composed merged).1.router merged).serve request ∧
    composed merged = composed s₀ ∧
    (∀ stage ∈ (composed s₀).1.stages, stage ≠ .cors i → ∀ s s', stage.wrap s = stage.wrap s') ∧
    ∀ s, s.cors i = current.cors i →
      ((composed s₀).1.router s).serve request =
        ((composed s₀).1.router current).serve request := by
  intro current merged composed
  have hmerged : composed merged = composed s₀ := compose_withCors _
  have hagree : ∀ s, s.cors i = current.cors i →
      (composed s₀).1.router s = (composed s₀).1.router current :=
    fun s hcors => router_compose_congr hcors
  refine ⟨((Handles.shared_make s₀).run history).load handle, ?_, hmerged, ?_, ?_⟩
  · rw [hmerged, hagree merged (Settings.cors_withCors ..)]
  · intro stage hstage hother s s'
    refine Stage.wrap_congr fun j hcors => absurd ?_ hother
    rw [hcors] at hstage ⊢
    rw [cors_mem_compose.mp hstage]
  · intro s hcors
    rw [hagree s hcors]

end DualServer.Pipeline
