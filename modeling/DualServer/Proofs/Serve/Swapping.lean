import DualServer.Proofs.Serve.Marking

/-! Setups during which other settings come into effect. The listener is planned by the first
settings, the gate and the access log are made of those at the composition. A gate whose switch
differs from the listener's belongs to no settings at all, and where it is the gate that demands TLS
it turns away what its own plain listener delivers. -/
namespace DualServer.Lifecycle
open DualServer.Config DualServer.Pipeline DualServer.Transport

/-- What a setup makes of an interface if it sees just these settings. -/
structure InterfaceSpec.MadeUnder (s : Settings) (command : Command) (custom : List Middleware)
    (spec : InterfaceSpec) : Prop where
  target : spec.target = .ofSettings s spec.interface
  flags : spec.flags = command.flags spec.interface
  tlsEnabled : spec.tlsEnabled = (s.tls spec.interface).enabled
  mode : spec.mode = .select (.ofSettings s spec.interface) (command.flags spec.interface)
    (s.tls spec.interface).enabled
  stages : spec.pipeline.stages = (Pipeline.compose s spec.interface spec.mode.requiresGate custom
    spec.pipeline.routes).1.stages

section
variable {s s' : Settings} {i : Interface} {gateRequired : Bool} {custom : List Middleware}
  {routes : Router}

theorem stages_compose_eq_iff :
    (Pipeline.compose s i gateRequired custom routes).1.stages =
        (Pipeline.compose s' i gateRequired custom routes).1.stages ↔
      (gateRequired = true → Gate.ofSettings (s.tls i) = Gate.ofSettings (s'.tls i)) ∧
        AccessLog.ofSettings s i = AccessLog.ofSettings s' i := by
  cases gateRequired <;> simp [Pipeline.compose, Pipeline.stagesOf, Gate.ofSettings]

end

section
variable {reads : Reads} {command : Command} {custom : List Middleware} {i : Interface}
  {routes : RouteTable} {s : Settings}

/-- A spec fits settings that agree with the first ones on the listener and with those at the
composition on the gate, where there is one, and the access log. -/
theorem madeUnder_makeSpec_iff :
    (makeSpec reads command custom i routes).1.MadeUnder s command custom ↔
      Target.ofSettings reads.first i = .ofSettings s i ∧
      (reads.first.tls i).enabled = (s.tls i).enabled ∧
      ((makeSpec reads command custom i routes).1.mode.requiresGate = true →
        Gate.ofSettings ((reads.composing i).tls i) = Gate.ofSettings (s.tls i)) ∧
      AccessLog.ofSettings (reads.composing i) i = AccessLog.ofSettings s i := by
  have hroutes : (makeSpec reads command custom i routes).1.pipeline.routes = routes.router := by
    rw [makeSpec_pipeline]
    rfl
  constructor
  · rintro ⟨htarget, -, htls, -, hstages⟩
    rw [hroutes, makeSpec_pipeline, makeSpec_interface] at hstages
    exact ⟨htarget, htls, stages_compose_eq_iff.mp hstages⟩
  · rintro ⟨htarget, htls, hstages⟩
    refine ⟨htarget, rfl, htls, ?_, ?_⟩
    · rw [makeSpec_mode, makeSpec_interface, htarget, htls]
    · rw [hroutes, makeSpec_pipeline, makeSpec_interface]
      exact stages_compose_eq_iff.mpr hstages

end

section
variable {app : Application} {build : Build} {exposition : String} {registry : Metrics.Registry}
  {command : Command} {reads : Reads} {prepared : Prepared} {i : Interface}

theorem madeUnder_of_setup (h : setup app build exposition registry command reads = .ok prepared)
    (hcomposing : reads.composing i = reads.first) :
    (prepared.artifacts.spec i).MadeUnder reads.first command app.middlewares := by
  obtain ⟨routes, hspec⟩ := spec_of_setup h i
  rw [hspec, madeUnder_makeSpec_iff, hcomposing]
  exact ⟨rfl, rfl, fun _ => rfl, rfl⟩

/-- If TLS is switched between the looks at the settings, a gated interface fits none. -/
theorem not_madeUnder_of_switched
    (h : setup app build exposition registry command reads = .ok prepared)
    (hgate : (prepared.artifacts.spec i).pipeline.hasGate = true)
    (hswitched : (reads.first.tls i).enabled ≠ ((reads.composing i).tls i).enabled)
    (s : Settings) : ¬ (prepared.artifacts.spec i).MadeUnder s command app.middlewares := by
  have hrequired : (prepared.artifacts.spec i).mode.requiresGate = true :=
    (coherent_of_setup h i).gate ▸ hgate
  obtain ⟨routes, hspec⟩ := spec_of_setup h i
  rw [hspec] at hrequired ⊢
  rw [madeUnder_makeSpec_iff]
  rintro ⟨-, htls, hgates, -⟩
  have hsame : ((reads.composing i).tls i).enabled = (s.tls i).enabled :=
    congrArg Gate.tlsEnabled (hgates hrequired)
  exact hswitched (htls.trans hsame.symm)

end

/-- TLS is switched on after the first look: a plain listener behind a gate. -/
example : ∃ prepared, setup {} {} "" {} {}
      ⟨{}, fun _ => { serve := { tls := { enabled := true } } }⟩ = .ok prepared ∧
    (prepared.artifacts.spec .public).mode = .plainTcp ∧
    (prepared.artifacts.spec .public).tlsEnabled = false ∧
    (prepared.artifacts.spec .public).pipeline.hasGate = true := by
  exact ⟨_, rfl, rfl, rfl, rfl⟩

end DualServer.Lifecycle

namespace DualServer.Serve
open DualServer.Config DualServer.Http DualServer.Lifecycle DualServer.Pipeline DualServer.Transport

section
variable [UrlReader] {app : Application} {build : Build} {exposition : String}
  {registry : Metrics.Registry} {command : Command} {reads : Reads} {prepared : Prepared}
  {factory : TunnelFactory}
  {certificates : Host → Interface → Host × Except Halt Tls.Material × List Log.Entry}
  {context : Interface → Tls.Material → Except Halt Unit} {host : Host} {i : Interface}
  {serving : Serving}

/-- Of what a serving task delivers its gate admits everything, unless TLS came to be demanded after
the plain listener had been planned: then probes get in and what a trusted peer vouches for. -/
theorem delivered_admitted_iff
    (h : setup app build exposition registry command reads = .ok prepared)
    (hbind : (Task.bind (meansWith factory certificates context) (prepared.artifacts.spec i)
      host).2.2 = .ok serving)
    {gate : Gate} (hgate : .gate gate ∈ (prepared.artifacts.spec i).pipeline.stages)
    (request : Request) :
    gate.decide { request with security := some serving.security } = .ok () ↔
      (reads.first.tls i).enabled = true ∨ ((reads.composing i).tls i).enabled = false ∨
        request.path ∈ Paths.probes ∨ Vouched ((reads.composing i).tls i) request := by
  have hplanned : AsPlanned (prepared.artifacts.spec i) serving :=
    asPlanned_of_bind (coherent_of_setup h i) hbind
  obtain ⟨routes, hpipeline⟩ := pipeline_of_setup h i
  rw [hpipeline] at hgate
  obtain ⟨hrequired, rfl⟩ := gate_mem_compose.mp hgate
  have hgated : (prepared.artifacts.spec i).pipeline.hasGate = true :=
    (coherent_of_setup h i).gate.trans hrequired
  have hmarked : serving.security = .tls ↔ (reads.first.tls i).enabled = true := by
    rw [hplanned.security, tlsEnabled_of_setup h i]
    exact and_iff_left (hplanned.gate.mp hgated)
  rw [Gate.decide_eq_ok_iff]
  unfold Admits
  rw [Option.some.injEq, hmarked]
  rfl

end

end DualServer.Serve
