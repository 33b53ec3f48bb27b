import DualServer.Lifecycle.Progress
import DualServer.Proofs.Lifecycle.Setup
import DualServer.Proofs.Pipeline.Reload
import DualServer.Proofs.Transport.Selection

/-! The interfaces do not reach into each other. A setup is refused before it has done anything, or
it does all of its steps for both interfaces; and what it builds for one of them is the same for all
settings and commands that this interface cannot tell apart. The public one cannot tell commands
apart at all but by the flags it carries along. -/
namespace DualServer.Config

/-- Settings that an interface cannot tell apart. -/
structure Settings.AgreeFor (i : Interface) (s s' : Settings) : Prop where
  own : s.interface i = s'.interface i
  sharedTls : s.serve.tls = s'.serve.tls
  issuer : s.urls.selfIssuer = s'.urls.selfIssuer

namespace Settings.AgreeFor
variable {i : Interface} {s s' : Settings}

theorem tls (h : AgreeFor i s s') : s.tls i = s'.tls i := by
  unfold Settings.tls
  rw [h.own, h.sharedTls]

theorem cors (h : AgreeFor i s s') : s.cors i = s'.cors i := by
  unfold Settings.cors
  rw [h.own]

theorem target (h : AgreeFor i s s') :
    Transport.Target.ofSettings s i = Transport.Target.ofSettings s' i := by
  unfold Transport.Target.ofSettings listenAddress
  rw [h.own]

theorem accessLog (h : AgreeFor i s s') :
    Pipeline.AccessLog.ofSettings s i = Pipeline.AccessLog.ofSettings s' i := by
  unfold Pipeline.AccessLog.ofSettings
  rw [h.own, h.issuer]

theorem compose (h : AgreeFor i s s') (gateRequired : Bool) (custom : List Pipeline.Middleware)
    (routes : Pipeline.Router) :
    Pipeline.compose s i gateRequired custom routes =
      Pipeline.compose s' i gateRequired custom routes := by
  unfold Pipeline.compose
  rw [h.tls, h.accessLog]

end Settings.AgreeFor

end DualServer.Config

namespace DualServer.Transport
open DualServer.Config

section
variable {flags flags' : Flags}

/-- The transport looks at the flags for the wish for a tunnel only. -/
theorem Mode.select_congr (hwants : flags.wantsTunnel = flags'.wantsTunnel) (target : Target)
    (tls : Bool) : select target flags tls = select target flags' tls := by
  unfold select
  rw [hwants]

/-- Without a tunnel the service does not matter to what is bound. -/
theorem resolve_congr (hinterface : flags.interface = flags'.interface)
    (hwants : flags.wantsTunnel = false) (hwants' : flags'.wantsTunnel = false) (s : System)
    (factory : TunnelFactory) (target : Target) :
    resolve s factory target flags = resolve s factory target flags' := by
  have hentry : settingUpEntry flags = settingUpEntry flags' := by
    funext fields
    unfold settingUpEntry
    rw [hinterface]
  unfold resolve
  rw [hwants, hwants', hentry]
  rfl

end

end DualServer.Transport

namespace DualServer.Metrics

theorem Registry.isRegistered_register {r : Registry} {i j : Interface} :
    (r.register i).1.isRegistered j = true ↔ r.isRegistered j = true ∨ j = i := by
  unfold register
  split
  next hthere =>
    refine ⟨.inl, ?_⟩
    rintro (hj | rfl)
    · exact hj
    · exact hthere
  next => simp [isRegistered]

end DualServer.Metrics

namespace DualServer.Lifecycle
open DualServer.Config DualServer.Pipeline DualServer.Transport

theorem isRegistered_registerAll {r : Metrics.Registry} {is : List Interface} {j : Interface} :
    (registerAll r is).1.isRegistered j = true ↔ r.isRegistered j = true ∨ j ∈ is := by
  induction is generalizing r with
  | nil => simp [registerAll]
  | cons i is ih =>
    unfold registerAll
    rw [ih, Metrics.Registry.isRegistered_register, List.mem_cons, or_assoc]

namespace SetupM
variable {α β : Type}

theorem exec_bind (steps : SetupM α) (next : α → SetupM β) (p : Progress) :
    (steps >>= next).exec p =
      match steps.exec p with
      | (.ok a, p') => (next a).exec p'
      | (.error e, p') => (.error e, p') := by
  -- The continuation is applied to the two parts of one outcome.
  change Id.run (ExceptT.bindCont next (steps.exec p).1 (steps.exec p).2) = _
  rcases steps.exec p with ⟨_ | _, _⟩ <;> rfl

theorem exec_log (entry : Log.Entry) (p : Progress) :
    (log entry).exec p = (.ok (), { p with entries := p.entries ++ [entry] }) := by
  rfl

theorem exec_ask (app : Application) (build : Build) (exposition : String) (i : Interface)
    (p : Progress) :
    (ask app build exposition i).exec p =
      ((app.register i (Health.routes i build exposition)).mapError .route,
        { p with asked := p.asked ++ [i] }) := by
  unfold ask
  cases app.register i (Health.routes i build exposition) <;> rfl

theorem exec_register (interfaces : List Interface) (p : Progress) :
    (register interfaces).exec p = (.ok (), { p with
      registry := (registerAll p.registry interfaces).1
      entries := p.entries ++ (registerAll p.registry interfaces).2 }) := by
  rfl

theorem exec_prepare (reads : Reads) (command : Command) (custom : List Middleware)
    (i : Interface) (routes : RouteTable) (p : Progress) :
    (prepare reads command custom i routes).exec p =
      (.ok (makeSpec reads command custom i routes).1, { p with
        built := p.built ++ [(makeSpec reads command custom i routes).1]
        entries := p.entries ++ (makeSpec reads command custom i routes).2 }) := by
  rfl

end SetupM

/-- What is done when a setup has come to its end. -/
def Progress.after (p : Progress) (prepared : Prepared) : Progress where
  registry := prepared.registry
  asked := p.asked ++ Interface.all
  built := p.built ++ Interface.all.map prepared.artifacts.spec
  entries := p.entries ++ prepared.entries

section
variable {app : Application} {build : Build} {exposition : String} {registry : Metrics.Registry}
  {command : Command} {reads : Reads}

theorem setup_of_refused (hrefused : (command.mode.isStandalone && reads.first.isMemory) = true) :
    setup app build exposition registry command reads = .error .memoryAlone := by
  unfold setup
  rw [if_pos hrefused]

/-- A refused setup has done nothing. -/
theorem exec_of_refused (hrefused : (command.mode.isStandalone && reads.first.isMemory) = true)
    (p : Progress) :
    (setupSteps app build exposition command reads).exec p = (.error .memoryAlone, p) := by
  unfold setupSteps
  rw [if_pos hrefused]
  rfl

theorem refused_iff {s : Settings} :
    (command.mode.isStandalone && s.isMemory) = true ↔ command.mode ≠ .all ∧ s.dsn = memoryDsn := by
  simp [ServeMode.isStandalone, Settings.isMemory]

theorem allowed_of_setup {prepared : Prepared}
    (h : setup app build exposition registry command reads = .ok prepared) :
    (command.mode.isStandalone && reads.first.isMemory) = false := by
  by_contra hrefused
  rw [Bool.not_eq_false] at hrefused
  rw [setup_of_refused hrefused] at h
  cases h

/-- The steps come to what the setup comes to, breakdowns of the application among it. -/
theorem exec_setupSteps (p : Progress) :
    ((setupSteps app build exposition command reads).exec p).1 =
      (setup app build exposition p.registry command reads).map Prepared.artifacts := by
  cases hrefused : command.mode.isStandalone && reads.first.isMemory with
  | true =>
    rw [setup_of_refused hrefused, exec_of_refused hrefused]
    rfl
  | false =>
    unfold setup setupSteps
    simp only [hrefused, Bool.false_eq_true, if_false, SetupM.exec_bind, SetupM.exec_log,
      SetupM.exec_ask]
    cases app.register .admin (Health.routes .admin build exposition) with
    | error => rfl
    | ok =>
      cases app.register .public (Health.routes .public build exposition) with
      | error => rfl
      | ok => rfl

section
variable {routes : Interface → RouteTable}
  (hallowed : (command.mode.isStandalone && reads.first.isMemory) = false)
  (hroutes : ∀ i, app.register i (Health.routes i build exposition) = .ok (routes i))
include hallowed hroutes

theorem setup_of_routes :
    let made i := makeSpec reads command app.middlewares i (routes i)
    setup app build exposition registry command reads = .ok {
      artifacts := ⟨(made .admin).1, (made .public).1⟩
      registry := (registerAll registry Interface.all).1
      entries := [greeting build, (Identity.ofSettings reads.first build).entry] ++
        (registerAll registry Interface.all).2 ++ (made .admin).2 ++ (made .public).2 } := by
  unfold setup
  rw [hallowed, hroutes .admin, hroutes .public]
  rfl

end

section
variable {routes : Interface → RouteTable} {prepared : Prepared}
  (hroutes : ∀ i, app.register i (Health.routes i build exposition) = .ok (routes i))
include hroutes

/-- A setup that succeeds has done all of its steps. -/
theorem exec_of_setup {p : Progress}
    (h : setup app build exposition p.registry command reads = .ok prepared) :
    (setupSteps app build exposition command reads).exec p =
      (.ok prepared.artifacts, p.after prepared) := by
  have hallowed := allowed_of_setup h
  rw [setup_of_routes hallowed hroutes, Except.ok.injEq] at h
  subst h
  unfold setupSteps
  simp only [hallowed, Bool.false_eq_true, if_false, SetupM.exec_bind, SetupM.exec_log,
    SetupM.exec_ask, hroutes, Except.mapError, SetupM.exec_register, SetupM.exec_prepare,
    Progress.after, List.append_assoc]
  rfl

theorem spec_eq_of_setup (h : setup app build exposition registry command reads = .ok prepared)
    (i : Interface) :
    prepared.artifacts.spec i = (makeSpec reads command app.middlewares i (routes i)).1 := by
  rw [setup_of_routes (allowed_of_setup h) hroutes, Except.ok.injEq] at h
  subst h
  cases i <;> rfl

theorem isRegistered_of_setup
    (h : setup app build exposition registry command reads = .ok prepared) (i : Interface) :
    prepared.registry.isRegistered i = true := by
  rw [setup_of_routes (allowed_of_setup h) hroutes, Except.ok.injEq] at h
  subst h
  exact isRegistered_registerAll.mpr (.inr (by cases i <;> decide))

theorem setup_eq_error_iff {e : SetupError} :
    setup app build exposition registry command reads = .error e ↔
      e = .memoryAlone ∧ (command.mode.isStandalone && reads.first.isMemory) = true := by
  cases hrefused : command.mode.isStandalone && reads.first.isMemory with
  | true =>
    rw [setup_of_refused hrefused]
    simp [eq_comm]
  | false =>
    rw [setup_of_routes hrefused hroutes]
    simp

end

end

theorem flags_congr {command command' : Command} {i : Interface}
    (hmode : command.tunnelMode = command'.tunnelMode)
    (hservice : command.tunnelService = command'.tunnelService) :
    command.flags i = command'.flags i := by
  unfold Command.flags
  rw [hmode, hservice]

@[simp] theorem wantsTunnel_flags_public (command : Command) :
    (command.flags .public).wantsTunnel = false :=
  Flags.wantsTunnel_make_public _ _

/-- What answers on an interface once it is set up, under the settings of the moment. -/
def InterfaceSpec.service (spec : InterfaceSpec) (current : Settings) : Service :=
  (spec.pipeline.router current).serve

section
variable {s s' : Settings} {command command' : Command} {i : Interface}

theorem makeSpec_congr (h : s.AgreeFor i s') (hflags : command.flags i = command'.flags i)
    (custom : List Middleware) (routes : RouteTable) :
    makeSpec (.steady s) command custom i routes =
      makeSpec (.steady s') command' custom i routes := by
  unfold makeSpec Reads.steady
  simp only [h.target, hflags, h.tls, h.compose]

theorem service_congr {current current' : Settings} (h : current.AgreeFor i current')
    (reads : Reads) (command : Command) (custom : List Middleware) (routes : RouteTable) :
    (makeSpec reads command custom i routes).1.service current =
      (makeSpec reads command custom i routes).1.service current' := by
  unfold InterfaceSpec.service
  rw [makeSpec_pipeline, router_compose_congr h.cors]

section
variable (h : s.AgreeFor .public s') (command command' : Command) (custom : List Middleware)
  (routes : RouteTable)
include h

/-- Commands reach the public interface by its flags only. -/
theorem makeSpec_public :
    (makeSpec (.steady s) command custom .public routes).1 =
      { (makeSpec (.steady s') command' custom .public routes).1 with
        flags := command.flags .public } := by
  have hwants : (command.flags .public).wantsTunnel = (command'.flags .public).wantsTunnel := by
    rw [wantsTunnel_flags_public, wantsTunnel_flags_public]
  unfold makeSpec Reads.steady
  simp only [h.target, h.tls, h.compose, Mode.select_congr hwants]

theorem resolve_public (system : System) (factory : TunnelFactory) :
    let spec := (makeSpec (.steady s) command custom .public routes).1
    let spec' := (makeSpec (.steady s') command' custom .public routes).1
    resolve system factory spec.target spec.flags =
      resolve system factory spec'.target spec'.flags := by
  simp only [makeSpec_target, makeSpec_flags, Reads.steady, h.target]
  refine resolve_congr ?_ (wantsTunnel_flags_public command) (wantsTunnel_flags_public command') ..
  rfl

theorem service_public {current current' : Settings}
    (hcurrent : current.AgreeFor .public current') :
    (makeSpec (.steady s) command custom .public routes).1.service current =
      (makeSpec (.steady s') command' custom .public routes).1.service current' := by
  rw [makeSpec_public h command command', ← service_congr hcurrent]
  rfl

end

end

theorem Artifacts.select_eq_filter {a : Artifacts} (h : ∀ i, (a.spec i).interface = i)
    (mode : ServeMode) :
    a.select mode =
      [a.admin, a.public].filter fun spec => mode.interfaces.contains spec.interface := by
  have hadmin : a.admin.interface = .admin := h .admin
  have hpublic : a.public.interface = .public := h .public
  cases mode with
  | all => simp [select, ServeMode.interfaces, Interface.all, hadmin, hpublic, spec]
  | only i => cases i <;> simp [select, ServeMode.interfaces, hadmin, hpublic, spec]

/-- A setup is refused, with nothing done, just when a single interface is to be served from memory;
otherwise all is done for both interfaces. Settings that an interface cannot tell apart build the
same for it, and the public one is the same whatever the wish for a tunnel. -/
theorem setup_keeps_interfaces_apart (app : Application) (build : Build) (exposition : String)
    (routes : Interface → RouteTable)
    (hroutes : ∀ i, app.register i (Health.routes i build exposition) = .ok (routes i)) :
    (∀ (s : Settings) (command : Command) (p : Progress),
      let outcome := setup app build exposition p.registry command (.steady s)
      let done := (setupSteps app build exposition command (.steady s)).exec p
      ((∃ e, outcome = .error e) ↔ command.mode ≠ .all ∧ s.dsn = memoryDsn) ∧
      (∀ e, outcome = .error e → e = .memoryAlone ∧ done = (.error e, p)) ∧
      ∀ prepared, outcome = .ok prepared →
        done = (.ok prepared.artifacts, p.after prepared) ∧
        (∀ i, prepared.registry.isRegistered i = true ∧ prepared.artifacts.spec i =
          (makeSpec (.steady s) command app.middlewares i (routes i)).1) ∧
        ∀ mode : ServeMode, prepared.artifacts.select mode =
          [prepared.artifacts.admin, prepared.artifacts.public].filter fun spec =>
            mode.interfaces.contains spec.interface) ∧
    ∀ (s s' : Settings) (command command' : Command) (registry registry' : Metrics.Registry)
      (prepared prepared' : Prepared),
      setup app build exposition registry command (.steady s) = .ok prepared →
      setup app build exposition registry' command' (.steady s') = .ok prepared' →
      (∀ i, s.AgreeFor i s' → command.tunnelMode = command'.tunnelMode →
        command.tunnelService = command'.tunnelService →
        prepared.artifacts.spec i = prepared'.artifacts.spec i ∧
        ∀ current current', current.AgreeFor i current' →
          (prepared.artifacts.spec i).service current =
            (prepared'.artifacts.spec i).service current') ∧
      (s.AgreeFor .public s' →
        let spec := prepared.artifacts.public
        let spec' := prepared'.artifacts.public
        spec = { spec' with flags := spec.flags } ∧
        (∀ system factory, resolve system factory spec.target spec.flags =
          resolve system factory spec'.target spec'.flags) ∧
        ∀ current current', current.AgreeFor .public current' →
          spec.service current = spec'.service current') := by
  refine ⟨?_, ?_⟩
  · intro s command p outcome done
    refine ⟨?_, ?_, ?_⟩
    · simp only [outcome, setup_eq_error_iff hroutes, exists_eq_left, ← refused_iff, Reads.steady]
    · intro e herror
      obtain ⟨rfl, hrefused⟩ := (setup_eq_error_iff hroutes).mp herror
      exact ⟨rfl, exec_of_refused hrefused p⟩
    · intro prepared hok
      have hspec := spec_eq_of_setup hroutes hok
      refine ⟨exec_of_setup hroutes hok,
        fun i => ⟨isRegistered_of_setup hroutes hok i, hspec i⟩, ?_⟩
      intro mode
      refine Artifacts.select_eq_filter (fun i => ?_) mode
      rw [hspec, makeSpec_interface]
  · intro s s' command command' registry registry' prepared prepared' hok hok'
    have hspec := spec_eq_of_setup hroutes hok
    have hspec' := spec_eq_of_setup hroutes hok'
    refine ⟨?_, ?_⟩
    · intro i hagree hmode hservice
      have hsame : prepared.artifacts.spec i = prepared'.artifacts.spec i := by
        rw [hspec, hspec', makeSpec_congr hagree (flags_congr hmode hservice)]
      refine ⟨hsame, fun current current' hcurrent => ?_⟩
      rw [hsame, hspec', service_congr hcurrent]
    · intro hagree spec spec'
      have hmade : spec =
          (makeSpec (.steady s) command app.middlewares .public (routes .public)).1 :=
        hspec .public
      have hmade' :
          spec' = (makeSpec (.steady s') command' app.middlewares .public (routes .public)).1 :=
        hspec' .public
      rw [hmade, hmade']
      refine ⟨?_, ?_, ?_⟩
      · rw [makeSpec_flags]
        exact makeSpec_public hagree command command' _ _
      · exact resolve_public hagree command command' _ _
      · intro current current' hcurrent
        exact service_public hagree command command' _ _ hcurrent

/-- Settings that differ in all that the public interface cannot see, a command that serves it alone
and one that wants a tunnel: the same public interface behind two different admin interfaces. -/
theorem setup_keeps_interfaces_apart_across_commands :
    let s : Settings := {
      dsn := "postgres://db/auth"
      serve := { admin := { host := "unix:/run/admin.sock" } } }
    let alone : Command := { mode := .only .public }
    let tunnelled : Command := { tunnelMode := true, tunnelService := some "svc" }
    setup {} {} "" {} alone (.steady {}) = .error .memoryAlone ∧
    ∃ prepared prepared', setup {} {} "" {} alone (.steady s) = .ok prepared ∧
      setup {} {} "" {} tunnelled (.steady {}) = .ok prepared' ∧
      prepared.artifacts.public =
        { prepared'.artifacts.public with flags := prepared.artifacts.public.flags } ∧
      prepared.artifacts.admin.mode = .unixSocket ∧
      prepared'.artifacts.admin.mode = .overlayTunnel := by
  intro s alone tunnelled
  have hroutes : ∀ i, ({} : Application).register i (Health.routes i {} "") =
      .ok (Health.routes i {} "") := fun _ => rfl
  obtain ⟨hsingle, htwo⟩ := setup_keeps_interfaces_apart {} {} "" _ hroutes
  obtain ⟨hfails, hrefused, -⟩ := hsingle {} alone {}
  have halone : setup {} {} "" {} alone (.steady {}) = .error .memoryAlone := by
    obtain ⟨e, he⟩ := hfails.mpr ⟨by decide, rfl⟩
    rw [← (hrefused e he).1]
    exact he
  have hagree : s.AgreeFor .public {} := ⟨rfl, rfl, rfl⟩
  obtain ⟨-, hpublic⟩ := htwo s {} alone tunnelled {} {} _ _ rfl rfl
  exact ⟨halone, _, _, rfl, rfl, (hpublic hagree).1, by decide +kernel, by decide +kernel⟩

end DualServer.Lifecycle
