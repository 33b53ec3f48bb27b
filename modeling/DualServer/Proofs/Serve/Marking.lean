import DualServer.Proofs.Pipeline.Admission
import DualServer.Proofs.Serve.Binding

/-! Requests carry the mark of the listener that they come over, and their own gate lets them in.
The mark is decided at the binding, the gate at the setup; `AsPlanned` keeps them together. -/
namespace DualServer.Serve
open DualServer.Config DualServer.Http DualServer.Lifecycle DualServer.Pipeline DualServer.Transport

theorem Serving.security_eq_tls_iff {serving : Serving} :
    serving.security = .tls ↔
      serving.tls = true ∧ serving.bound.mode serving.tls ≠ .unixSocket := by
  obtain ⟨bound, tls⟩ := serving
  cases bound <;> cases tls <;> simp [security, Bound.mode]

theorem AsPlanned.security {spec : InterfaceSpec} {serving : Serving} (h : AsPlanned spec serving) :
    serving.security = .tls ↔
      spec.tlsEnabled = true ∧ serving.bound.mode serving.tls ≠ .unixSocket := by
  rw [Serving.security_eq_tls_iff, h.tls, h.mode]
  tauto

section
variable {p : Pipeline} {serving : Serving} {tracer : Tracer} {current : Settings}
  {request : Request}

/-- The way to a handler does not depend on the mark. -/
theorem Task.serve_router {table : RouteTable} (h : p.routes = table.router) :
    (Task.router tracer p current serving).serve request =
      ((p.router current).layer tracer.wrap).serve
        { request with security := some serving.security } := by
  let marked := { request with security := some serving.security }
  have hroute : p.routes.route request = p.routes.route marked := by
    rw [h]
    rfl
  have hrouter : (p.router current).route request = (p.router current).route marked :=
    Pipeline.route_congr hroute
  unfold Task.router Router.serve Router.layer
  simp only [hrouter]
  rfl

end

section
variable {s current : Settings} {i : Interface} {gateRequired : Bool} {custom : List Middleware}
  {routes : Router} {tracer : Tracer} {request : Request}

/-- A span does not come between a gate and what it admits. -/
theorem serve_traced_of_admitted
    (h : ∀ gate, .gate gate ∈ (Pipeline.compose s i gateRequired custom routes).1.stages →
      gate.decide request = .ok ()) :
    (((Pipeline.compose s i gateRequired custom routes).1.router current).layer tracer.wrap).serve
        request =
      (((Pipeline.compose s i false custom routes).1.router current).layer tracer.wrap).serve
        request := by
  cases gateRequired with
  | false => rfl
  | true =>
    have hgate : (Gate.ofSettings (s.tls i)).decide request = .ok () :=
      h _ (gate_mem_compose.mpr ⟨rfl, rfl⟩)
    have hrouter : (Pipeline.compose s i true custom routes).1.router current =
        ((Pipeline.compose s i false custom routes).1.router current).layer
          (Gate.ofSettings (s.tls i)).wrap := rfl
    rw [hrouter]
    unfold Router.serve Router.layer Tracer.wrap Gate.wrap
    simp only [hgate]

end

section
variable {s : Settings} {i : Interface} {gateRequired : Bool} {custom : List Middleware}
  {routes : Router} {spec : InterfaceSpec} {serving : Serving}

/-- Behind a gate there is no file socket, so the mark and the gate go by the same switch. -/
theorem AsPlanned.admitted (h : AsPlanned spec serving)
    (htls : spec.tlsEnabled = (s.tls i).enabled)
    (hpipeline : spec.pipeline = (Pipeline.compose s i gateRequired custom routes).1)
    {gate : Gate} (hgate : .gate gate ∈ spec.pipeline.stages) (request : Request) :
    gate.decide { request with security := some serving.security } = .ok () := by
  rw [hpipeline] at hgate
  obtain ⟨hrequired, rfl⟩ := gate_mem_compose.mp hgate
  have hgated : spec.pipeline.hasGate = true := by
    rw [hpipeline, hasGate_compose]
    exact hrequired
  have hmode : serving.bound.mode serving.tls ≠ .unixSocket := h.gate.mp hgated
  rw [Gate.decide_eq_ok_iff]
  cases henabled : (s.tls i).enabled with
  | false => exact .inr (.inl henabled)
  | true =>
    have hmarked : serving.security = .tls := h.security.mpr ⟨htls.trans henabled, hmode⟩
    exact .inl (congrArg some hmarked)

end

section
variable [UrlReader] {app : Application} {build : Build} {exposition : String}
  {registry : Metrics.Registry}
  {command : Command} {s : Settings} {prepared : Prepared} {factory : TunnelFactory}
  {certificates : Host → Interface → Host × Except Halt Tls.Material × List Log.Entry}
  {context : Interface → Tls.Material → Except Halt Unit} {host : Host} {i : Interface}
  {serving : Serving}

/-- What a serving task delivers has the mark of its listener before any stage sees it, whatever
mark it came with, and the gate of the interface lets it in whatever its path, its peer and its
fields: the gate might as well not be there. -/
theorem delivered_requests_marked_and_admitted
    (h : setup app build exposition registry command (.steady s) = .ok prepared)
    (hbind : (Task.bind (meansWith factory certificates context) (prepared.artifacts.spec i)
      host).2.2 = .ok serving)
    (tracer : Tracer) (current : Settings) (request : Request) :
    let pipeline := (prepared.artifacts.spec i).pipeline
    let marked := { request with security := some serving.security }
    (serving.security = .tls ↔
      (s.tls i).enabled = true ∧ serving.bound.mode serving.tls ≠ .unixSocket) ∧
    (Task.router tracer pipeline current serving).serve request =
      ((pipeline.router current).layer tracer.wrap).serve marked ∧
    (pipeline.hasGate = true ↔ serving.bound.mode serving.tls ≠ .unixSocket) ∧
    (∀ gate, .gate gate ∈ pipeline.stages → gate.decide marked = .ok ()) ∧
    (Task.router tracer pipeline current serving).serve request =
      (Task.router tracer pipeline.ungated current serving).serve request := by
  intro pipeline marked
  obtain ⟨routes, hpipeline⟩ := pipeline_of_setup h i
  have htls : (prepared.artifacts.spec i).tlsEnabled = (s.tls i).enabled := tlsEnabled_of_setup h i
  have hplanned : AsPlanned (prepared.artifacts.spec i) serving :=
    asPlanned_of_bind (coherent_of_setup h i) hbind
  have hsecurity : serving.security = .tls ↔
      (s.tls i).enabled = true ∧ serving.bound.mode serving.tls ≠ .unixSocket := by
    rw [← htls]
    exact hplanned.security
  have hadmitted : ∀ gate, .gate gate ∈ pipeline.stages → gate.decide marked = .ok () :=
    fun gate hgate => hplanned.admitted htls hpipeline hgate request
  have hroutes : pipeline.routes = routes.router := congrArg Pipeline.routes hpipeline
  have hserve : ∀ p : Pipeline, p.routes = pipeline.routes →
      (Task.router tracer p current serving).serve request =
        ((p.router current).layer tracer.wrap).serve marked :=
    fun p hp => Task.serve_router (hp.trans hroutes)
  refine ⟨hsecurity, hserve pipeline rfl, hplanned.gate, hadmitted, ?_⟩
  rw [hserve pipeline rfl, hserve pipeline.ungated rfl]
  have hcomposed : pipeline = (Pipeline.compose s i
    (prepared.artifacts.spec i).mode.requiresGate app.middlewares routes.router).1 := hpipeline
  rw [hcomposed] at hadmitted ⊢
  rw [ungated_compose]
  exact serve_traced_of_admitted hadmitted

end

/-- A request from a peer without an address, over the admin tunnel with TLS, to a path that is no
probe. -/
theorem delivered_requests_marked_over_tunnel :
    letI : UrlReader := .none
    ∃ prepared, setup {} {} "" {} { tunnelMode := true, tunnelService := some "svc" }
        (.steady { serve := { tls := { enabled := true } } }) = .ok prepared ∧
      ∃ serving, (Task.bind (meansWith (fun _ _ => .granted) Host.configured fun _ _ => .ok ())
          (prepared.artifacts.spec .admin) ⟨{}, ⟨{}, []⟩, []⟩).2.2 = .ok serving ∧
        serving.bound = .tunnel "svc" ∧ serving.security = .tls ∧
        (prepared.artifacts.spec .admin).pipeline.hasGate = true ∧
        ∀ gate, .gate gate ∈ (prepared.artifacts.spec .admin).pipeline.stages →
          gate.decide { path := "/clients", security := some .tls } = .ok () := by
  let _ : UrlReader := .none
  have delivered := @delivered_requests_marked_and_admitted _ {} {} "" {}
    { tunnelMode := true, tunnelService := some "svc" } { serve := { tls := { enabled := true } } }
    _ (fun _ _ => .granted) Host.configured (fun _ _ => .ok ()) ⟨{}, ⟨{}, []⟩, []⟩ .admin _ rfl rfl
    {} {} { path := "/clients" }
  exact ⟨_, rfl, ⟨.tunnel "svc", true⟩, rfl, rfl, rfl, rfl, delivered.2.2.2.1⟩

end DualServer.Serve
