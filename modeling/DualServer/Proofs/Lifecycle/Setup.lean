import DualServer.Lifecycle.Setup

/-! What a setup leaves behind. `spec_of_setup` is all that later proofs need of it: each interface
has the spec that `makeSpec` builds for it, whatever its routes have become. -/
namespace DualServer.Lifecycle
open DualServer.Config DualServer.Pipeline DualServer.Transport

section
variable (reads : Reads) (command : Command) (custom : List Middleware) (i : Interface)
  (routes : RouteTable)

@[simp] theorem makeSpec_interface :
    (makeSpec reads command custom i routes).1.interface = i := by
  unfold makeSpec
  rfl

@[simp] theorem makeSpec_target :
    (makeSpec reads command custom i routes).1.target = .ofSettings reads.first i := by
  unfold makeSpec
  rfl

@[simp] theorem makeSpec_flags :
    (makeSpec reads command custom i routes).1.flags = command.flags i := by
  unfold makeSpec
  rfl

@[simp] theorem makeSpec_tlsEnabled :
    (makeSpec reads command custom i routes).1.tlsEnabled = (reads.first.tls i).enabled := by
  unfold makeSpec
  rfl

@[simp] theorem makeSpec_mode :
    (makeSpec reads command custom i routes).1.mode =
      .select (.ofSettings reads.first i) (command.flags i) (reads.first.tls i).enabled := by
  unfold makeSpec
  rfl

@[simp] theorem makeSpec_pipeline :
    (makeSpec reads command custom i routes).1.pipeline =
      (Pipeline.compose (reads.composing i) i
        (makeSpec reads command custom i routes).1.mode.requiresGate custom routes.router).1 := by
  unfold makeSpec
  rfl

end

@[simp] theorem hasGate_compose (s : Settings) (i : Interface) (gateRequired : Bool)
    (custom : List Middleware) (routes : Router) :
    (Pipeline.compose s i gateRequired custom routes).1.hasGate = gateRequired := by
  unfold Pipeline.compose
  cases gateRequired <;> rfl

/-- The parts of a spec that were decided together fit together. -/
structure InterfaceSpec.Coherent (spec : InterfaceSpec) : Prop where
  mode : spec.mode = .select spec.target spec.flags spec.tlsEnabled
  gate : spec.pipeline.hasGate = spec.mode.requiresGate

theorem coherent_makeSpec (reads : Reads) (command : Command) (custom : List Middleware)
    (i : Interface) (routes : RouteTable) :
    (makeSpec reads command custom i routes).1.Coherent where
  mode := by simp only [makeSpec_mode, makeSpec_target, makeSpec_flags, makeSpec_tlsEnabled]
  gate := by rw [makeSpec_pipeline, hasGate_compose]

section
variable {app : Application} {build : Build} {exposition : String} {registry : Metrics.Registry}
  {command : Command} {reads : Reads} {prepared : Prepared}

theorem spec_of_setup (h : setup app build exposition registry command reads = .ok prepared)
    (i : Interface) :
    ∃ routes, prepared.artifacts.spec i = (makeSpec reads command app.middlewares i routes).1 := by
  unfold setup at h
  split at h
  · cases h
  split at h
  · cases h
  next adminRoutes _ =>
    split at h
    · cases h
    next publicRoutes _ =>
      cases Except.ok.inj h
      cases i with
      | admin => exact ⟨adminRoutes, rfl⟩
      | «public» => exact ⟨publicRoutes, rfl⟩

theorem tlsEnabled_of_setup (h : setup app build exposition registry command reads = .ok prepared)
    (i : Interface) : (prepared.artifacts.spec i).tlsEnabled = (reads.first.tls i).enabled := by
  obtain ⟨routes, hspec⟩ := spec_of_setup h i
  rw [hspec, makeSpec_tlsEnabled]

theorem pipeline_of_setup (h : setup app build exposition registry command reads = .ok prepared)
    (i : Interface) :
    ∃ routes : RouteTable, (prepared.artifacts.spec i).pipeline =
      (Pipeline.compose (reads.composing i) i (prepared.artifacts.spec i).mode.requiresGate
        app.middlewares routes.router).1 := by
  obtain ⟨routes, hspec⟩ := spec_of_setup h i
  rw [hspec]
  exact ⟨routes, makeSpec_pipeline _ _ _ _ _⟩

theorem coherent_of_setup (h : setup app build exposition registry command reads = .ok prepared)
    (i : Interface) : (prepared.artifacts.spec i).Coherent := by
  obtain ⟨routes, hspec⟩ := spec_of_setup h i
  rw [hspec]
  exact coherent_makeSpec _ _ _ _ _

end

end DualServer.Lifecycle
