import DualServer.Config.Validation
import DualServer.Proofs.Config.ListenAddress
import DualServer.Proofs.Lifecycle.Setup
import DualServer.Proofs.Transport.Selection

/-! Which hosts are served over a file socket, and so without the gate. The host is read twice, once
by itself and once inside the address that is made of it; the host `bareMark` is read differently
the second time, and nothing in the settings is wrong with it. -/
namespace DualServer.Transport
open DualServer.Config DualServer.Lifecycle DualServer.Pipeline DualServer.Text

theorem Target.isUnixSocket_iff_namesSocket {target : Target} :
    target.isUnixSocket = true ↔ NamesSocket target.address := by
  unfold isUnixSocket socketPath? NamesSocket
  rw [← dropFront?_isSome_iff, ← head?_eq_some_iff_prefix]
  cases dropFront? unixMark.toList target.address.toList with
  | some path => simp
  | none =>
    by_cases hslash : target.address.toList.head? = some '/' <;> simp [hslash]

/-- The hosts whose interface is bound as a file. -/
def BoundAsFile (host : String) : Prop := NamesSocket host ∨ host = bareMark

theorem Target.isUnixSocket_ofSettings_iff {s : Settings} {i : Interface} :
    (Target.ofSettings s i).isUnixSocket = true ↔ BoundAsFile (s.interface i).host :=
  isUnixSocket_iff_namesSocket.trans namesSocket_listenOn_iff

theorem Target.socketPath?_bareMark {s : Settings} {i : Interface}
    (h : (s.interface i).host = bareMark) :
    (Target.ofSettings s i).socketPath? =
      some (String.ofList (Nat.toDigits 10 (s.interface i).port.toNat)) := by
  have haddress : (Target.ofSettings s i).address.toList =
      unixMark.toList ++ Nat.toDigits 10 (s.interface i).port.toNat := by
    have hnot : ¬ NamesSocket (s.interface i).host := h ▸ bareMark_not_namesSocket
    rw [Target.ofSettings, Settings.listenAddress, listenOn_of_not_namesSocket hnot,
      String.toList_ofList, h]
    rfl
  unfold socketPath?
  rw [dropFront?_eq_some.mpr haddress]

/-- The mark without its colon passes as a host. -/
theorem hostViolations_bareMark (i : Interface) : hostViolations i bareMark = [] := by
  cases i <;> decide

/-- An interface is bound as a file, and left without its gate, when its host names a file socket or
is the bare mark. So the host alone decides it for all hosts but this one, which the settings accept
and which is bound as a file named after the port. -/
theorem file_socket_iff_boundAsFile (s : Settings) (command : Command) (custom : List Middleware)
    (i : Interface) (routes : RouteTable) :
    let host := (s.interface i).host
    let spec := (makeSpec (.steady s) command custom i routes).1
    (spec.target.isUnixSocket = true ↔ BoundAsFile host) ∧
    (spec.mode = .unixSocket ↔ BoundAsFile host) ∧
    (spec.pipeline.hasGate = true ↔ ¬ BoundAsFile host) ∧
    ((spec.target.isUnixSocket = true ↔ NamesSocket host) ↔ host ≠ bareMark) ∧
    ((spec.pipeline.hasGate = false ↔ NamesSocket host) ↔ host ≠ bareMark) ∧
    (host = bareMark → hostViolations i host = [] ∧ spec.target.socketPath? =
      some (String.ofList (Nat.toDigits 10 (s.interface i).port.toNat))) := by
  intro host spec
  have hspec : spec.Coherent := coherent_makeSpec _ _ _ _ _
  have htarget : spec.target = .ofSettings s i := makeSpec_target _ _ _ _ _
  have hsocket : spec.target.isUnixSocket = true ↔ BoundAsFile host := by
    rw [htarget]
    exact Target.isUnixSocket_ofSettings_iff
  have hmode : spec.mode = .unixSocket ↔ BoundAsFile host := by
    rw [hspec.mode, Mode.select_eq_unixSocket_iff]
    exact hsocket
  have hgate : spec.pipeline.hasGate = true ↔ ¬ BoundAsFile host := by
    rw [hspec.gate, Mode.requiresGate_eq_true_iff]
    exact not_congr hmode
  have hfree : spec.pipeline.hasGate = false ↔ BoundAsFile host := by
    rw [← Bool.not_eq_true, hgate, not_not]
  have hbare : (BoundAsFile host ↔ NamesSocket host) ↔ host ≠ bareMark := by
    constructor
    · rintro h hhost
      rw [hhost] at h
      exact bareMark_not_namesSocket (h.mp (.inr rfl))
    · intro h
      exact ⟨fun hfile => hfile.resolve_right h, .inl⟩
  refine ⟨hsocket, hmode, hgate, ?_, ?_, ?_⟩
  · rw [hsocket]
    exact hbare
  · rw [hfree]
    exact hbare
  · intro hhost
    rw [htarget]
    refine ⟨?_, Target.socketPath?_bareMark hhost⟩
    rw [hhost]
    exact hostViolations_bareMark i

/-- A host called like the mark, for which neither a port is bound nor a gate put up. -/
theorem file_socket_for_bareMark :
    letI : UrlReader := .none
    let s : Settings := { serve := { «public» := { host := "unix", port := 4444 } } }
    let spec := (makeSpec (.steady s) {} [] .public {}).1
    s.Valid ∧ ¬ NamesSocket (s.interface .public).host ∧
      spec.target.socketPath? = some "4444" ∧ spec.mode = .unixSocket ∧
      spec.pipeline.hasGate = false := by
  decide

end DualServer.Transport
