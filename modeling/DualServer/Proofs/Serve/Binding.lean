import DualServer.Proofs.Lifecycle.Setup
import DualServer.Proofs.Transport.Selection
import DualServer.Serve.Task

/-! Serving tasks bind what the setup planned. The plan holds the transport, the TLS switch and the
pipeline with or without its gate; the listener comes later and from other code. Certificates may
come from anywhere here: nothing is assumed of their source. -/
namespace DualServer.Serve
open DualServer.Config DualServer.Lifecycle DualServer.Transport

namespace Task

section
variable {World : Type} {m : Means World} {spec : InterfaceSpec} {w : World}

theorem wantsTls_eq_true_iff :
    wantsTls spec = true ↔ spec.tlsEnabled = true ∧ spec.mode ≠ .unixSocket := by
  simp [wantsTls]

theorem secure_result {tls : Bool} (h : (secure m spec w).2.2 = .ok tls) : tls = wantsTls spec := by
  unfold secure at h
  split at h
  next hwants =>
    rw [hwants]
    rcases hanswer : m.certificates w spec.interface with ⟨w', material, entries⟩
    rw [hanswer] at h
    cases material with
    | error halt => cases h
    | ok material =>
      cases hcontext : m.context spec.interface material with
      | error halt =>
        simp only [Except.bind, Except.map, hcontext] at h
        cases h
      | ok _ =>
        simp only [Except.bind, Except.map, hcontext] at h
        exact (Except.ok.inj h).symm
  next hwants =>
    rw [Bool.eq_false_iff.mpr hwants]
    exact (Except.ok.inj h).symm

theorem bind_of_secured {tls : Bool} (h : (secure m spec w).2.2 = .ok tls) :
    (bind m spec w).1 = (m.listen (secure m spec w).1 spec.target spec.flags).1 ∧
      (bind m spec w).2.2 =
        (m.listen (secure m spec w).1 spec.target spec.flags).2.1.map
          fun bound => ⟨bound, tls⟩ := by
  unfold bind
  generalize secure m spec w = secured at h ⊢
  obtain ⟨w', acts, result⟩ := secured
  cases h
  exact ⟨rfl, rfl⟩

theorem bind_of_unsecured {halt : Halt} (h : (secure m spec w).2.2 = .error halt) :
    (bind m spec w).1 = (secure m spec w).1 ∧ (bind m spec w).2.2 = .error halt := by
  unfold bind
  generalize secure m spec w = secured at h ⊢
  obtain ⟨w', acts, result⟩ := secured
  cases h
  exact ⟨rfl, rfl⟩

theorem bind_result {serving : Serving} (h : (bind m spec w).2.2 = .ok serving) :
    serving.tls = wantsTls spec ∧
      (m.listen (secure m spec w).1 spec.target spec.flags).2.1 = .ok serving.bound := by
  cases hsecure : (secure m spec w).2.2 with
  | error halt =>
    rw [(bind_of_unsecured hsecure).2] at h
    cases h
  | ok tls =>
    rw [(bind_of_secured hsecure).2] at h
    generalize (m.listen (secure m spec w).1 spec.target spec.flags).2.1 = result at h ⊢
    cases result with
    | error halt => cases h
    | ok bound =>
      cases Except.ok.inj h
      exact ⟨secure_result hsecure, rfl⟩

end

end Task

/-- Means of serving on a host whose certificates come from any source. -/
abbrev meansWith [UrlReader] (factory : TunnelFactory)
    (certificates : Host → Interface → Host × Except Halt Tls.Material × List Log.Entry)
    (context : Interface → Tls.Material → Except Halt Unit) : Means Host :=
  { Host.means factory with certificates, context }

/-- What is served is what was planned: the transport, TLS where it was asked for on a transport
that can carry it, and a gate in front of everything but a file socket. -/
structure AsPlanned (spec : InterfaceSpec) (serving : Serving) : Prop where
  mode : serving.bound.mode serving.tls = spec.mode
  tls : serving.tls = true ↔ spec.tlsEnabled = true ∧ spec.mode ≠ .unixSocket
  gate : spec.pipeline.hasGate = true ↔ serving.bound.mode serving.tls ≠ .unixSocket
  socket : ∀ path, spec.target.socketPath? = some path → ∃ id, serving.bound = .unix path id

section
variable [UrlReader] {factory : TunnelFactory}
  {certificates : Host → Interface → Host × Except Halt Tls.Material × List Log.Entry}
  {context : Interface → Tls.Material → Except Halt Unit} {host : Host} {spec : InterfaceSpec}

theorem asPlanned_of_bind (hspec : spec.Coherent) {serving : Serving}
    (h : (Task.bind (meansWith factory certificates context) spec host).2.2 = .ok serving) :
    AsPlanned spec serving := by
  obtain ⟨htls, hlisten⟩ := Task.bind_result h
  have hmode : serving.bound.mode serving.tls = spec.mode := by
    rw [htls, Task.wantsTls, hspec.mode]
    exact resolve_mode hlisten
  refine ⟨hmode, ?_, ?_, ?_⟩
  · rw [htls]
    exact Task.wantsTls_eq_true_iff
  · rw [hmode, hspec.gate]
    exact Mode.requiresGate_eq_true_iff
  · intro path hpath
    exact resolve_socket_result hpath hlisten

/-- Where the backend is not asked, a binding leaves its record as the certificates left it. -/
theorem bind_calls
    (h : ∀ system, (resolve system factory spec.target spec.flags).calls = []) :
    (Task.bind (meansWith factory certificates context) spec host).1.calls =
      (Task.secure (meansWith factory certificates context) spec host).1.calls := by
  cases hsecure : (Task.secure (meansWith factory certificates context) spec host).2.2 with
  | error halt => rw [(Task.bind_of_unsecured hsecure).1]
  | ok tls =>
    rw [(Task.bind_of_secured hsecure).1]
    simp only [Host.means, h, List.append_nil]

/-- Where listening is refused without touching the system, so is the binding. -/
theorem bind_of_refused {failure : Failure}
    (h : ∀ system, resolve system factory spec.target spec.flags =
      ⟨system, .error (.failure failure), [], []⟩) :
    (Task.bind (meansWith factory certificates context) spec host).1 =
        (Task.secure (meansWith factory certificates context) spec host).1 ∧
      (Task.bind (meansWith factory certificates context) spec host).2.2 =
        (Task.secure (meansWith factory certificates context) spec host).2.2.bind
          fun _ => .error (.failure failure) := by
  cases hsecure : (Task.secure (meansWith factory certificates context) spec host).2.2 with
  | error halt => exact Task.bind_of_unsecured hsecure
  | ok tls =>
    rw [(Task.bind_of_secured hsecure).1, (Task.bind_of_secured hsecure).2]
    simp only [Host.means, h, List.append_nil, Except.map, Except.bind, and_self]

theorem secure_configured :
    (Task.secure (meansWith factory Host.configured context) spec host).1.system = host.system ∧
      (Task.secure (meansWith factory Host.configured context) spec host).1.calls = host.calls := by
  unfold Task.secure
  split
  · exact ⟨rfl, rfl⟩
  · exact ⟨rfl, rfl⟩

end

section
variable [UrlReader] {app : Application} {build : Build} {exposition : String}
  {registry : Metrics.Registry}
  {command : Command} {s : Settings} {prepared : Prepared}

/-- Whatever the settings and the command line say, a listener that a serving task gets is the one
its spec announces. A file socket and the public interface never reach the tunnel backend, and a
tunnel without a service is refused before it is asked, with nothing bound. -/
theorem bind_follows_setup
    (h : setup app build exposition registry command (.steady s) = .ok prepared)
    (factory : TunnelFactory)
    (certificates : Host → Interface → Host × Except Halt Tls.Material × List Log.Entry)
    (context : Interface → Tls.Material → Except Halt Unit) (host : Host) (i : Interface) :
    let means := meansWith factory certificates context
    let spec := prepared.artifacts.spec i
    let secured := Task.secure means spec host
    let binding := Task.bind means spec host
    (∀ serving, binding.2.2 = .ok serving → AsPlanned spec serving) ∧
    (spec.target.isUnixSocket = true ∨ i = .public →
      spec.mode ≠ .overlayTunnel ∧
      (∀ system, (resolve system factory spec.target spec.flags).calls = []) ∧
      binding.1.calls = secured.1.calls) ∧
    (i = .admin → command.tunnelMode = true →
      command.tunnelService = none ∨ command.tunnelService = some "" →
      spec.target.isUnixSocket = false →
      (∀ system, resolve system factory spec.target spec.flags =
        ⟨system, .error (.failure unnamedTunnel), [], []⟩) ∧
      binding.1 = secured.1 ∧
      binding.2.2 = secured.2.2.bind fun _ => .error (.failure unnamedTunnel)) ∧
    (certificates = Host.configured →
      secured.1.system = host.system ∧ secured.1.calls = host.calls) := by
  intro means spec secured binding
  have hspec : spec.Coherent := coherent_of_setup h i
  have hflags : spec.flags = command.flags i := by
    obtain ⟨routes, hroutes⟩ := spec_of_setup h i
    exact (congrArg InterfaceSpec.flags hroutes).trans (makeSpec_flags _ _ _ _ _)
  refine ⟨fun serving hbind => asPlanned_of_bind hspec hbind, ?_, ?_, ?_⟩
  · intro hplain
    have hdirect : spec.target.isUnixSocket = true ∨ spec.flags.wantsTunnel = false := by
      refine hplain.imp_right fun hpublic => ?_
      rw [hflags, hpublic]
      exact Flags.wantsTunnel_make_public _ _
    have hcalls : ∀ system, (resolve system factory spec.target spec.flags).calls = [] :=
      fun _ => resolve_calls hdirect
    refine ⟨?_, hcalls, bind_calls hcalls⟩
    rw [hspec.mode]
    exact Mode.select_ne_overlayTunnel hdirect
  · intro hadmin hmode hservice hsocket
    have hwants : spec.flags.wantsTunnel = true := by
      rw [hflags, hadmin, Command.flags, Flags.wantsTunnel_make_admin]
      exact hmode
    have hunnamed : spec.flags.tunnelService = none := by
      rw [hflags]
      exact Flags.tunnelService_make_eq_none_iff.mpr hservice
    have hrefused : ∀ system, resolve system factory spec.target spec.flags =
        ⟨system, .error (.failure unnamedTunnel), [], []⟩ := by
      intro system
      rw [resolve_tunnel hsocket hwants]
      exact bindTunnel_of_unnamed _ hunnamed
    exact ⟨hrefused, bind_of_refused hrefused⟩
  · intro hconfigured
    subst hconfigured
    exact secure_configured

end

/-- The admin interface over a tunnel with TLS and a certificate made up for it. -/
theorem bind_follows_setup_tunnel :
    letI : UrlReader := .none
    ∃ prepared, setup {} {} "" {} { tunnelMode := true, tunnelService := some "svc" }
        (.steady { serve := { tls := { enabled := true } } }) = .ok prepared ∧
      ∃ serving, (Task.bind (meansWith (fun _ _ => .granted) Host.configured fun _ _ => .ok ())
          (prepared.artifacts.spec .admin) ⟨{}, ⟨{}, []⟩, []⟩).2.2 = .ok serving ∧
        serving.bound = .tunnel "svc" ∧ AsPlanned (prepared.artifacts.spec .admin) serving := by
  let _ : UrlReader := .none
  refine ⟨_, rfl, ⟨.tunnel "svc", true⟩, rfl, rfl, ?_⟩
  have follows := @bind_follows_setup _ {} {} "" {}
    { tunnelMode := true, tunnelService := some "svc" } { serve := { tls := { enabled := true } } }
    _ rfl (fun _ _ => .granted) Host.configured (fun _ _ => .ok ()) ⟨{}, ⟨{}, []⟩, []⟩ .admin
  exact follows.1 _ rfl

end DualServer.Serve
