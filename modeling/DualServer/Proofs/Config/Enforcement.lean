import DualServer.Proofs.Config.Violations
import DualServer.Proofs.Pipeline.Admission
import DualServer.Tls.Certificates

/-! What accepted settings ask for is what is done. The gate, the policy for other origins and the
certificates each read the settings again, and each leaves out or replaces what it cannot use; the
check refuses just that, in the shared TLS block and in that of an interface, so nothing of accepted
settings gets lost. -/
namespace DualServer.Config
open DualServer.Text

section
variable {s : Settings} {i : Interface} {place : TlsPlace} {t : TlsSettings}

/-- The TLS settings in force are those of one of the blocks that are checked. -/
theorem exists_tlsAt (s : Settings) (i : Interface) : ∃ place, s.tlsAt place = some (s.tls i) := by
  cases hown : (s.interface i).tls with
  | none => exact ⟨.shared, by simp [Settings.tlsAt, Settings.tls, hown]⟩
  | some t => exact ⟨.own i, by simp [Settings.tlsAt, Settings.tls, hown]⟩

theorem Settings.Valid.material_paired [UrlReader] (h : s.Valid) (ht : s.tlsAt place = some t) :
    t.cert.isSet = t.key.isSet := by
  by_contra hset
  refine valid_iff.mp h (.material place) (.material t.cert t.key) ?_ _ (.unpairedMaterial hset)
  simp [values, ht]

theorem Settings.Valid.range_parses [UrlReader] (h : s.Valid) (ht : s.tlsAt place = some t)
    {text : String} (hmem : text ∈ t.allowTerminationFrom) :
    ∃ range, Net.IpRange.parse text = .ok range := by
  by_contra hbad
  push Not at hbad
  refine valid_iff.mp h (.ranges place) (.text text) ?_ _ (.badRange hbad)
  simp [values, ht, hmem]

theorem Settings.Valid.origin_isFieldValue [UrlReader] (h : s.Valid) {origin : String}
    (hmem : origin ∈ (s.cors i).allowedOrigins) (hstar : origin ≠ "*") :
    Http.isFieldValue origin = true := by
  by_contra hvalue
  have hbad : isOrigin origin = false := by simpa [isOrigin, hstar] using hvalue
  obtain ⟨-, c, hc, hchar⟩ := isOrigin_eq_false_iff.mp hbad
  refine valid_iff.mp h (.origins i) (.text origin) ?_ _ (.badOrigin hstar hc hchar)
  simp [values, hmem]

end

end DualServer.Config

namespace DualServer.Pipeline
open DualServer.Config DualServer.Http

theorem Gate.make_of_parsing {enabled : Bool} {ranges : List String}
    (h : ∀ text ∈ ranges, ∃ range, Net.IpRange.parse text = .ok range) :
    (make enabled ranges).1.trusted.map Except.ok = ranges.map Net.IpRange.parse ∧
      (make enabled ranges).2 = [] := by
  induction ranges with
  | nil => exact ⟨rfl, rfl⟩
  | cons text ranges ih =>
    obtain ⟨range, hrange⟩ := h text List.mem_cons_self
    obtain ⟨htrusted, hignored⟩ := ih fun text hmem => h text (List.mem_cons_of_mem _ hmem)
    unfold make at htrusted hignored ⊢
    simp only [List.map_cons, hrange, List.filterMap_cons, Except.toOption] at htrusted hignored ⊢
    exact ⟨congrArg _ htrusted, hignored⟩

theorem CorsPolicy.originRule_of_valid {c : CorsSettings} (hstar : "*" ∉ c.allowedOrigins)
    (h : ∀ origin ∈ c.allowedOrigins, isFieldValue origin = true) :
    originRule c = .listed c.allowedOrigins := by
  simp [originRule, hstar, List.filter_eq_self.mpr h]

end DualServer.Pipeline

namespace DualServer.Tls
open DualServer.Config

theorem CertificateStore.certificates_of_hasMaterial [UrlReader] (store : CertificateStore)
    {i : Interface} (h : (store.settings.tls i).hasMaterial = true) (files : ReadFile) :
    (store.certificates files i).store = store ∧
      (store.certificates files i).material =
        match loadMaterial files (store.settings.tls i) with
        | .ok (chain, key) => .ok (.loaded chain key)
        | .error reason => .error (.tls i reason) := by
  rw [store.certificates_eq_of_hasMaterial h files]
  cases loadMaterial files (store.settings.tls i) <;> exact ⟨rfl, rfl⟩

end DualServer.Tls

namespace DualServer.Config
open DualServer.Pipeline DualServer.Tls

/-- Of accepted settings every interface gets what is written: its gate one range for each entry in
force, its policy every origin, unless a wildcard stands for all, and where a certificate or a key
is configured, what can be loaded from there or nothing. -/
theorem accepted_settings_kept_whole [UrlReader] (s : Settings) (h : s.Valid) (i : Interface) :
    let t := s.tls i
    let gate := Gate.make t.enabled t.allowTerminationFrom
    (gate.1.trusted.map Except.ok = t.allowTerminationFrom.map Net.IpRange.parse ∧ gate.2 = []) ∧
    (∀ gateRequired custom routes gate',
      .gate gate' ∈ (Pipeline.compose s i gateRequired custom routes).1.stages → gate' = gate.1) ∧
    ("*" ∉ (s.cors i).allowedOrigins →
      (CorsPolicy.ofSettings (s.cors i)).origin = .listed (s.cors i).allowedOrigins) ∧
    (t.cert.isSet = true ∨ t.key.isSet = true → ∀ (generated : List (Interface × Material)) files,
      let answer := CertificateStore.certificates ⟨s, generated⟩ files i
      (∀ serial, answer.material ≠ .ok (.selfSigned serial)) ∧
      answer.store = ⟨s, generated⟩ ∧
      ∀ material, answer.material = .ok material → ∃ chain key,
        loadMaterial files t = .ok (chain, key) ∧ material = .loaded chain key) := by
  intro t gate
  obtain ⟨place, ht⟩ := exists_tlsAt s i
  refine ⟨Gate.make_of_parsing fun text hmem => h.range_parses ht hmem, ?_, ?_, ?_⟩
  · intro gateRequired custom routes gate' hgate
    exact (gate_mem_compose.mp hgate).2
  · intro hstar
    refine CorsPolicy.originRule_of_valid hstar fun origin hmem => h.origin_isFieldValue hmem ?_
    rintro rfl
    exact hstar hmem
  · intro hset generated files answer
    have hpaired : t.cert.isSet = t.key.isSet := h.material_paired ht
    have hmaterial : t.hasMaterial = true := by
      rw [TlsSettings.hasMaterial, hpaired, Bool.and_self]
      simpa [hpaired] using hset
    obtain ⟨hstore, hanswer⟩ :=
      CertificateStore.certificates_of_hasMaterial ⟨s, generated⟩ hmaterial files
    have hloaded : ∀ material, answer.material = .ok material → ∃ chain key,
        loadMaterial files t = .ok (chain, key) ∧ material = .loaded chain key := by
      intro material hok
      rw [hanswer] at hok
      split at hok
      next chain key hload => cases hok; exact ⟨chain, key, hload, rfl⟩
      next => cases hok
    refine ⟨?_, hstore, hloaded⟩
    intro serial hok
    obtain ⟨_, _, -, hother⟩ := hloaded _ hok
    cases hother

/-- A TLS block of its own with blanks around a range, a key in place and a certificate elsewhere,
behind a shared block with other ranges. -/
theorem accepted_settings_kept_whole_own_block :
    letI : UrlReader := .none
    let own : TlsSettings := {
      enabled := true
      cert := { path := some "/etc/tls/cert.pem" }
      key := { base64 := some "a2V5" }
      allowTerminationFrom := [" 10.0.0.0/8 ", "::1"] }
    let s : Settings := { serve := {
      admin := { tls := some own, cors := { allowedOrigins := ["https://app.example"] } }
      tls := { allowTerminationFrom := ["0.0.0.0/0"] } } }
    s.Valid ∧
    (Gate.make own.enabled own.allowTerminationFrom).1.trusted.length = 2 ∧
    (CorsPolicy.ofSettings (s.cors .admin)).origin = .listed ["https://app.example"] ∧
    ∀ serial, (CertificateStore.certificates ⟨s, [(.admin, .selfSigned 0)]⟩
      (fun _ => .error .notFound) .admin).material ≠ .ok (.selfSigned serial) := by
  intro own s
  let _ : UrlReader := .none
  have hvalid : s.Valid := by decide +kernel
  obtain ⟨⟨htrusted, -⟩, -, horigins, hmaterial⟩ := accepted_settings_kept_whole s hvalid .admin
  have hlength := congrArg List.length htrusted
  rw [List.length_map, List.length_map] at hlength
  exact ⟨hvalid, hlength, horigins (by decide), (hmaterial (.inl rfl) _ _).1⟩

end DualServer.Config
