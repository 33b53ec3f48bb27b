import DualServer.Transport.Resolver

/-! The transport is decided twice: `Mode.select` looks at the target, the flags and the TLS switch
before anything is bound, and `resolve` branches again when it binds. `resolve_mode` says that a
listener that was bound has the transport that was selected. -/
namespace DualServer.Transport
open DualServer.Config DualServer.Serve

theorem Target.isUnixSocket_eq_true_iff {target : Target} :
    target.isUnixSocket = true ↔ ∃ path, target.socketPath? = some path :=
  Option.isSome_iff_exists

theorem Target.socketPath?_eq_none {target : Target} (h : target.isUnixSocket = false) :
    target.socketPath? = none :=
  Option.isNone_iff_eq_none.mp (Option.isSome_eq_false_iff.mp h)

namespace Mode
variable {target : Target} {flags : Flags} {tls : Bool}

theorem select_eq_unixSocket_iff :
    select target flags tls = unixSocket ↔ target.isUnixSocket = true := by
  unfold select
  cases target.isUnixSocket
  · cases flags.wantsTunnel <;> cases tls <;> simp
  · simp

theorem requiresGate_eq_true_iff {mode : Mode} : mode.requiresGate = true ↔ mode ≠ unixSocket := by
  simp [requiresGate]

theorem select_of_wantsTunnel (hsocket : target.isUnixSocket = false)
    (hwants : flags.wantsTunnel = true) : select target flags tls = overlayTunnel := by
  simp [select, hsocket, hwants]

theorem select_of_tcp (hsocket : target.isUnixSocket = false)
    (hwants : flags.wantsTunnel = false) :
    select target flags tls = if tls then tlsTcp else plainTcp := by
  simp [select, hsocket, hwants]

theorem select_ne_overlayTunnel (h : target.isUnixSocket = true ∨ flags.wantsTunnel = false) :
    select target flags tls ≠ overlayTunnel := by
  unfold select
  rcases h with hsocket | hwants
  · simp [hsocket]
  · rw [hwants]
    cases target.isUnixSocket <;> cases tls <;> simp

end Mode

namespace Flags

theorem wantsTunnel_make_public (tunnelMode : Bool) (service : Option String) :
    (make .public tunnelMode service).wantsTunnel = false := by
  simp [make, wantsTunnel]

theorem wantsTunnel_make_admin (tunnelMode : Bool) (service : Option String) :
    (make .admin tunnelMode service).wantsTunnel = tunnelMode := by
  simp [make, wantsTunnel]

theorem tunnelService_make_eq_none_iff {i : Interface} {tunnelMode : Bool}
    {service : Option String} :
    (make i tunnelMode service).tunnelService = none ↔ service = none ∨ service = some "" := by
  cases service <;> simp [make, Option.filter]

end Flags

/-- What a tunnel without a service is refused with. -/
def unnamedTunnel : Failure :=
  .configuration ("tunnel mode requested but the " ++ tunnelServiceVariable ++
    " environment variable is not set")

section
variable {s : System} {factory : TunnelFactory} {target : Target} {flags : Flags} {bound : Bound}

theorem bindUnix_result {path : String} {permission : Option SocketPermission}
    (h : (bindUnix s path permission).result = .ok bound) :
    ∃ socket, bound = .unix path socket := by
  unfold bindUnix at h
  split at h
  · cases h
  next cleared _ =>
    split at h
    · cases h
    next opened socket _ =>
      cases permission with
      | none => exact ⟨socket, (Except.ok.inj h).symm⟩
      | some permission =>
        simp only at h
        split at h
        · exact ⟨socket, (Except.ok.inj h).symm⟩
        · split at h <;> cases h

theorem bindUnix_calls (path : String) (permission : Option SocketPermission) :
    (bindUnix s path permission).calls = [] := by
  unfold bindUnix
  split
  · rfl
  · split
    · rfl
    · cases permission with
      | none => rfl
      | some permission =>
        simp only
        split
        · rfl
        · split <;> rfl

theorem bindTunnel_result {options : ListenOptions}
    (h : (bindTunnel s factory options flags).result = .ok bound) :
    ∃ service, flags.tunnelService = some service ∧ bound = .tunnel service := by
  unfold bindTunnel at h
  split at h
  · cases h
  next service hservice =>
    refine ⟨service, hservice, ?_⟩
    simp only at h
    split at h
    · exact (Except.ok.inj h).symm
    · cases h
    · cases h

theorem bindTunnel_of_unnamed (options : ListenOptions) (h : flags.tunnelService = none) :
    bindTunnel s factory options flags = ⟨s, .error (.failure unnamedTunnel), [], []⟩ := by
  unfold bindTunnel
  rw [h]
  rfl

theorem bindTcp_result {address : String} (h : (bindTcp s address).result = .ok bound) :
    ∃ socketAddress, bound = .tcp socketAddress := by
  unfold bindTcp at h
  split at h
  · cases h
  · exact ⟨_, (Except.ok.inj h).symm⟩

theorem bindTcp_calls (address : String) : (bindTcp s address).calls = [] := by
  unfold bindTcp
  split <;> rfl

theorem resolve_socket_result {path : String} (hpath : target.socketPath? = some path)
    (h : (resolve s factory target flags).result = .ok bound) :
    ∃ socket, bound = .unix path socket := by
  unfold resolve at h
  rw [hpath] at h
  exact bindUnix_result h

theorem resolve_tunnel (hsocket : target.isUnixSocket = false) (hwants : flags.wantsTunnel = true) :
    resolve s factory target flags = bindTunnel s factory {} flags := by
  unfold resolve
  rw [Target.socketPath?_eq_none hsocket, hwants]
  rfl

theorem resolve_tcp_result (hsocket : target.isUnixSocket = false)
    (hwants : flags.wantsTunnel = false)
    (h : (resolve s factory target flags).result = .ok bound) :
    ∃ socketAddress, bound = .tcp socketAddress := by
  unfold resolve at h
  rw [Target.socketPath?_eq_none hsocket, hwants] at h
  exact bindTcp_result h

/-- Only a tunnel asks the backend. -/
theorem resolve_calls (h : target.isUnixSocket = true ∨ flags.wantsTunnel = false) :
    (resolve s factory target flags).calls = [] := by
  unfold resolve
  split
  · exact bindUnix_calls _ _
  next hnone =>
    have hwants : flags.wantsTunnel = false := by
      rcases h with hsocket | hwants
      · rw [Target.isUnixSocket, hnone] at hsocket
        cases hsocket
      · exact hwants
    rw [hwants]
    exact bindTcp_calls _

/-- TLS is on the listener exactly when it was asked for and the target is no file socket, which is
how a serving task decides whether it needs certificates. -/
theorem resolve_mode {tls : Bool} (h : (resolve s factory target flags).result = .ok bound) :
    bound.mode (tls && Mode.select target flags tls ≠ .unixSocket) =
      Mode.select target flags tls := by
  cases hsocket : target.isUnixSocket with
  | true =>
    obtain ⟨path, hpath⟩ := Target.isUnixSocket_eq_true_iff.mp hsocket
    obtain ⟨socket, rfl⟩ := resolve_socket_result hpath h
    exact (Mode.select_eq_unixSocket_iff.mpr hsocket).symm
  | false =>
    cases hwants : flags.wantsTunnel with
    | true =>
      rw [resolve_tunnel hsocket hwants] at h
      obtain ⟨service, -, rfl⟩ := bindTunnel_result h
      exact (Mode.select_of_wantsTunnel hsocket hwants).symm
    | false =>
      obtain ⟨address, rfl⟩ := resolve_tcp_result hsocket hwants h
      rw [Mode.select_of_tcp hsocket hwants]
      cases tls <;> rfl

end

end DualServer.Transport
