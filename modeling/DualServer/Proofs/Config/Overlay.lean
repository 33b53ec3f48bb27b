import Mathlib.Logic.Basic
import DualServer.Config.Encode
import DualServer.Config.Loading

/-! Settings as an overlay. A tree of defaults says what every position holds where a document
leaves it out, and `Defaults.overlay` puts a document over the tree, each position for itself.
Decoding does the same, but for the port of an interface: a section that is written starts it from
zero. -/
namespace DualServer.Config

/-- The value that a section has for a key, whether it is written with keys or as a list. -/
def Document.valueAt? (position : Nat) (key : String) (d : Document) : Option Document :=
  d.section?.bind (·.find? position key)

open Document

/-- What is there before a document is read: a value, a section with its keys in the order of their
positions, or a section that is absent unless it is written. -/
inductive Defaults
  | leaf (value : Document)
  | block (keys : List (String × Defaults))
  | optional (inner : Defaults)

namespace Defaults

mutual

/-- What a position holds, given what the document has there, if anything. -/
def overlay : Defaults → Option Document → Document
  | leaf value, written => written.getD value
  | block keys, written => .table (overlayKeys keys 0 written)
  | optional _, none => .null
  | optional _, some .null => .null
  | optional inner, some document => inner.overlay (some document)

def overlayKeys : List (String × Defaults) → Nat → Option Document → List (String × Document)
  | [], _, _ => []
  | (key, inner) :: rest, position, written =>
    (key, inner.overlay (written.bind (valueAt? position key))) ::
      overlayKeys rest (position + 1) written

end

def pem : Defaults := block [("path", leaf .null), ("base64", leaf .null)]

def tls : Defaults := block [
  ("enabled", leaf (.bool false)),
  ("cert", pem),
  ("key", pem),
  ("allow_termination_from", leaf (.texts []))]

def socket : Defaults := block [
  ("owner", leaf .null),
  ("group", leaf .null),
  ("mode", leaf (.nat 0o755))]

def cors : Defaults := block [
  ("enabled", leaf (.bool false)),
  ("allowed_origins", leaf (.texts [])),
  ("allowed_methods", leaf (.texts ["GET", "POST", "PUT", "PATCH", "DELETE"])),
  ("allowed_headers", leaf (.texts ["Authorization", "Content-Type"])),
  ("exposed_headers", leaf (.texts ["Content-Type"])),
  ("allow_credentials", leaf (.bool true)),
  ("max_age_secs", leaf (.nat 0))]

def requestLog : Defaults := block [("disable_for_health", leaf (.bool false))]

def interface (port : UInt16) : Defaults := block [
  ("host", leaf (.text "")),
  ("port", leaf (.nat port.toNat)),
  ("socket", optional socket),
  ("tls", optional tls),
  ("cors", cors),
  ("request_log", requestLog)]

def cgroups : Defaults := block [("auto_max_procs", leaf (.bool false))]

def serve (ports : Interface → UInt16) : Defaults := block [
  ("admin", interface (ports .admin)),
  ("public", interface (ports .public)),
  ("tls", tls),
  ("shutdown_timeout_secs", leaf (.nat 5)),
  ("cgroups", cgroups)]

def urls : Defaults := block [("self_issuer", leaf (.text ""))]

def tracing : Defaults := block [
  ("provider", leaf (.text "")),
  ("service_name", leaf (.text "serve-orchestrator"))]

def log : Defaults := block [("level", leaf (.text "info")), ("format", leaf (.text "text"))]

def settings (ports : Interface → UInt16) : Defaults := block [
  ("dsn", leaf (.text "memory")),
  ("urls", urls),
  ("serve", serve ports),
  ("tracing", tracing),
  ("log", log)]

end Defaults

/-- The port of an interface that is not told another. -/
def standardPort : Interface → UInt16
  | .admin => 4445
  | .public => 4444

/-- Whatever is read from a document is what its overlay says. -/
def Overlays {α : Type} (read : Document → Option α) (write : α → Document) (base : Defaults) :
    Prop :=
  ∀ d a, read d = some a → write a = base.overlay (some d)

section
variable {α : Type} {read : Document → Option α} {write : α → Document} {base : Defaults}

theorem Overlays.get {d : Document} {s : Section} {position : Nat} {key : String} {default a : α}
    (hread : Overlays read write base) (hs : d.section? = some s)
    (h : s.get position key default read = some a) :
    write a = match d.valueAt? position key with
      | none => write default
      | some d => base.overlay (some d) := by
  rw [valueAt?, hs, Option.bind_some]
  unfold Section.get at h
  cases hfind : s.find? position key with
  | none =>
    rw [hfind] at h
    rw [Option.some.inj h]
  | some value =>
    rw [hfind] at h
    exact hread value a h

/-- A key that starts from the default of its own position is overlaid for itself. -/
theorem Overlays.get_of_default {d : Document} {s : Section} {position : Nat} {key : String}
    {default a : α} (hread : Overlays read write base) (hs : d.section? = some s)
    (hdefault : write default = base.overlay none)
    (h : s.get position key default read = some a) :
    write a = base.overlay (d.valueAt? position key) := by
  rw [hread.get hs h]
  cases d.valueAt? position key with
  | none => exact hdefault
  | some value => rfl

/-- To let a reader take `null` too, its tree may change in what it makes of `null` alone. -/
theorem Overlays.optional_of {above : Defaults} (hread : Overlays read write base)
    (hnull : above.overlay (some .null) = .null)
    (hwritten : ∀ d, d ≠ .null → above.overlay (some d) = base.overlay (some d)) :
    Overlays (optional? read) (Document.optional write) above := by
  intro d a h
  by_cases hd : d = .null
  · subst hd
    cases Option.some.inj h
    exact hnull.symm
  · rw [hwritten d hd]
    have hcontent : ∃ content, read d = some content ∧ some content = a := by
      cases d with
      | null => exact absurd rfl hd
      | _ => exact Option.map_eq_some_iff.mp h
    obtain ⟨content, hcontent, rfl⟩ := hcontent
    exact hread d content hcontent

theorem Overlays.optional (hread : Overlays read write base) :
    Overlays (optional? read) (Document.optional write) (.optional base) := by
  refine hread.optional_of rfl fun d hd => ?_
  cases d with
  | null => exact absurd rfl hd
  | _ => rfl

theorem Overlays.optional_leaf {value : Document} (hread : Overlays read write (.leaf value)) :
    Overlays (optional? read) (Document.optional write) (.leaf value) :=
  hread.optional_of rfl fun _ _ => rfl

end

theorem overlays_bool (value : Document) : Overlays bool? .bool (.leaf value) := by
  intro d a h
  cases d <;> cases h
  rfl

theorem text?_eq_some {d : Document} {t : String} (h : d.text? = some t) : d = .text t := by
  cases d <;> cases h
  rfl

theorem overlays_text (value : Document) : Overlays text? .text (.leaf value) :=
  fun _ _ h => (text?_eq_some h).symm

theorem map_text_of_mapM {items : List Document} {texts : List String}
    (h : items.mapM text? = some texts) : texts.map .text = items := by
  induction items generalizing texts with
  | nil => simp_all
  | cons d items ih =>
    simp only [List.mapM_cons, Option.pure_def, Option.bind_eq_bind, Option.bind_eq_some_iff] at h
    obtain ⟨t, ht, rest, hrest, heq⟩ := h
    cases Option.some.inj heq
    rw [List.map_cons, ih hrest, text?_eq_some ht]

theorem overlays_texts (value : Document) : Overlays texts? .texts (.leaf value) := by
  intro d a h
  cases d with
  | array items => exact congrArg Document.array (map_text_of_mapM h)
  | _ => cases h

theorem below?_eq_some {d : Document} {limit n : Nat} (h : d.below? limit = some n) :
    d = .nat n ∧ n < limit := by
  unfold below? at h
  split at h
  · split at h
    next hlt =>
      cases Option.some.inj h
      exact ⟨rfl, hlt⟩
    next => cases h
  · cases h

/-- A number of bounded size is written as it was read. -/
theorem overlays_below {α : Type} {limit : Nat} {ofNat : Nat → α} {toNat : α → Nat}
    (hround : ∀ n < limit, toNat (ofNat n) = n) (value : Document) :
    Overlays (fun d => (d.below? limit).map ofNat) (fun a => .nat (toNat a)) (.leaf value) := by
  intro d a h
  obtain ⟨n, hn, rfl⟩ := Option.map_eq_some_iff.mp h
  obtain ⟨rfl, hlt⟩ := below?_eq_some hn
  exact congrArg Document.nat (hround n hlt)

theorem overlays_uint16 (value : Document) :
    Overlays uint16? (fun n : UInt16 => .nat n.toNat) (.leaf value) :=
  overlays_below (fun _ => UInt16.toNat_ofNat_of_lt) value

theorem overlays_uint32 (value : Document) :
    Overlays uint32? (fun n : UInt32 => .nat n.toNat) (.leaf value) :=
  overlays_below (fun _ => UInt32.toNat_ofNat_of_lt) value

theorem overlays_uint64 (value : Document) :
    Overlays uint64? (fun n : UInt64 => .nat n.toNat) (.leaf value) :=
  overlays_below (fun _ => UInt64.toNat_ofNat_of_lt) value

theorem overlays_pem : Overlays PemSource.decode PemSource.encode .pem := by
  intro d p h
  simp only [PemSource.decode, Option.bind_eq_bind, Option.bind_eq_some_iff, Option.pure_def,
    Option.some.injEq] at h
  obtain ⟨s, hs, path, hpath, base64, hbase64, rfl⟩ := h
  rw [PemSource.encode, (overlays_text _).optional_leaf.get_of_default hs rfl hpath,
    (overlays_text _).optional_leaf.get_of_default hs rfl hbase64]
  rfl

theorem overlays_tls : Overlays TlsSettings.decode TlsSettings.encode .tls := by
  intro d t h
  simp only [TlsSettings.decode, Option.bind_eq_bind, Option.bind_eq_some_iff, Option.pure_def,
    Option.some.injEq] at h
  obtain ⟨s, hs, enabled, henabled, cert, hcert, key, hkey, ranges, hranges, rfl⟩ := h
  rw [TlsSettings.encode, (overlays_bool _).get_of_default hs rfl henabled,
    overlays_pem.get_of_default hs rfl hcert, overlays_pem.get_of_default hs rfl hkey,
    (overlays_texts _).get_of_default hs rfl hranges]
  rfl

theorem overlays_socket : Overlays SocketPermission.decode SocketPermission.encode .socket := by
  intro d p h
  simp only [SocketPermission.decode, Option.bind_eq_bind, Option.bind_eq_some_iff,
    Option.pure_def, Option.some.injEq] at h
  obtain ⟨s, hs, owner, howner, group, hgroup, mode, hmode, rfl⟩ := h
  rw [SocketPermission.encode, (overlays_uint32 _).optional_leaf.get_of_default hs rfl howner,
    (overlays_uint32 _).optional_leaf.get_of_default hs rfl hgroup,
    (overlays_uint32 _).get_of_default hs rfl hmode]
  rfl

theorem overlays_cors : Overlays CorsSettings.decode CorsSettings.encode .cors := by
  intro d c h
  simp only [CorsSettings.decode, Option.bind_eq_bind, Option.bind_eq_some_iff, Option.pure_def,
    Option.some.injEq] at h
  obtain ⟨s, hs, enabled, henabled, origins, horigins, methods, hmethods, headers, hheaders,
    exposed, hexposed, credentials, hcredentials, age, hage, rfl⟩ := h
  rw [CorsSettings.encode, (overlays_bool _).get_of_default hs rfl henabled,
    (overlays_texts _).get_of_default hs rfl horigins,
    (overlays_texts _).get_of_default hs rfl hmethods,
    (overlays_texts _).get_of_default hs rfl hheaders,
    (overlays_texts _).get_of_default hs rfl hexposed,
    (overlays_bool _).get_of_default hs rfl hcredentials,
    (overlays_uint64 _).get_of_default hs rfl hage]
  rfl

theorem overlays_requestLog :
    Overlays RequestLogSettings.decode RequestLogSettings.encode .requestLog := by
  intro d r h
  simp only [RequestLogSettings.decode, Option.bind_eq_bind, Option.bind_eq_some_iff,
    Option.pure_def, Option.some.injEq] at h
  obtain ⟨s, hs, disable, hdisable, rfl⟩ := h
  rw [RequestLogSettings.encode, (overlays_bool _).get_of_default hs rfl hdisable]
  rfl

/-- The section of an interface that is written starts from port zero, wherever it stands. -/
theorem overlays_interface :
    Overlays InterfaceSettings.decode InterfaceSettings.encode (.interface 0) := by
  intro d i h
  simp only [InterfaceSettings.decode, Option.bind_eq_bind, Option.bind_eq_some_iff,
    Option.pure_def, Option.some.injEq] at h
  obtain ⟨s, hs, host, hhost, port, hport, socket, hsocket, tls, htls, cors, hcors, requestLog,
    hrequestLog, rfl⟩ := h
  rw [InterfaceSettings.encode, (overlays_text _).get_of_default hs rfl hhost,
    (overlays_uint16 _).get_of_default hs rfl hport,
    overlays_socket.optional.get_of_default hs rfl hsocket,
    overlays_tls.optional.get_of_default hs rfl htls, overlays_cors.get_of_default hs rfl hcors,
    overlays_requestLog.get_of_default hs rfl hrequestLog]
  rfl

theorem overlays_cgroups : Overlays CgroupSettings.decode CgroupSettings.encode .cgroups := by
  intro d c h
  simp only [CgroupSettings.decode, Option.bind_eq_bind, Option.bind_eq_some_iff, Option.pure_def,
    Option.some.injEq] at h
  obtain ⟨s, hs, procs, hprocs, rfl⟩ := h
  rw [CgroupSettings.encode, (overlays_bool _).get_of_default hs rfl hprocs]
  rfl

theorem overlays_urls : Overlays UrlSettings.decode UrlSettings.encode .urls := by
  intro d u h
  simp only [UrlSettings.decode, Option.bind_eq_bind, Option.bind_eq_some_iff, Option.pure_def,
    Option.some.injEq] at h
  obtain ⟨s, hs, issuer, hissuer, rfl⟩ := h
  rw [UrlSettings.encode, (overlays_text _).get_of_default hs rfl hissuer]
  rfl

theorem overlays_tracing : Overlays TracingSettings.decode TracingSettings.encode .tracing := by
  intro d t h
  simp only [TracingSettings.decode, Option.bind_eq_bind, Option.bind_eq_some_iff, Option.pure_def,
    Option.some.injEq] at h
  obtain ⟨s, hs, provider, hprovider, service, hservice, rfl⟩ := h
  rw [TracingSettings.encode, (overlays_text _).get_of_default hs rfl hprovider,
    (overlays_text _).get_of_default hs rfl hservice]
  rfl

theorem overlays_log : Overlays LogSettings.decode LogSettings.encode .log := by
  intro d l h
  simp only [LogSettings.decode, Option.bind_eq_bind, Option.bind_eq_some_iff, Option.pure_def,
    Option.some.injEq] at h
  obtain ⟨s, hs, level, hlevel, format, hformat, rfl⟩ := h
  rw [LogSettings.encode, (overlays_text _).get_of_default hs rfl hlevel,
    (overlays_text _).get_of_default hs rfl hformat]
  rfl

def interfacePosition : Interface → Nat
  | .admin => 0
  | .public => 1

/-- The section of an interface among those of the server. -/
def interfaceSection? (i : Interface) (serve : Document) : Option Document :=
  serve.valueAt? (interfacePosition i) i.name

/-- What the port of an interface starts from: zero once its section is written, whatever else the
section holds. -/
def startingPort (i : Interface) (written : Option Document) : UInt16 :=
  if written.isSome then 0 else standardPort i

theorem get_interface {d : Document} {s : Section} (hs : d.section? = some s) {i : Interface}
    {a : InterfaceSettings}
    (h : s.get (interfacePosition i) i.name { port := standardPort i } InterfaceSettings.decode =
      some a) :
    a.encode = (Defaults.interface (startingPort i (interfaceSection? i d))).overlay
      (interfaceSection? i d) := by
  rw [overlays_interface.get hs h, ← interfaceSection?]
  cases interfaceSection? i d with
  | none => cases i <;> rfl
  | some written => rfl

theorem decode_serve {d : Document} {a : ServeSettings} (h : ServeSettings.decode d = some a) :
    a.encode =
      (Defaults.serve fun i => startingPort i (interfaceSection? i d)).overlay (some d) := by
  simp only [ServeSettings.decode, Option.bind_eq_bind, Option.bind_eq_some_iff, Option.pure_def,
    Option.some.injEq] at h
  obtain ⟨s, hs, admin, hadmin, «public», hpublic, tls, htls, timeout, htimeout, cgroups, hcgroups,
    rfl⟩ := h
  rw [ServeSettings.encode, get_interface (i := .admin) hs hadmin,
    get_interface (i := .public) hs hpublic, overlays_tls.get_of_default hs rfl htls,
    (overlays_uint64 _).get_of_default hs rfl htimeout,
    overlays_cgroups.get_of_default hs rfl hcgroups]
  rfl

/-- The section of an interface in a whole document, and the port in it. -/
def Document.interface? (i : Interface) (d : Document) : Option Document :=
  (d.valueAt? 2 "serve").bind (interfaceSection? i)

def Document.port? (i : Interface) (d : Document) : Option Document :=
  (d.interface? i).bind (valueAt? 1 "port")

theorem decode_settings {d : Document} {a : Settings} (h : Settings.decode d = some a) :
    a.encode = (Defaults.settings fun i => startingPort i (d.interface? i)).overlay (some d) := by
  simp only [Settings.decode, Option.bind_eq_bind, Option.bind_eq_some_iff, Option.pure_def,
    Option.some.injEq] at h
  obtain ⟨s, hs, dsn, hdsn, urls, hurls, serve, hserve, tracing, htracing, log, hlog, rfl⟩ := h
  have hinner : serve.encode = (Defaults.serve fun i => startingPort i (d.interface? i)).overlay
      (d.valueAt? 2 "serve") := by
    unfold Document.interface? valueAt?
    rw [hs, Option.bind_some]
    unfold Section.get at hserve
    cases hfind : s.find? 2 "serve" with
    | none =>
      rw [hfind] at hserve
      cases Option.some.inj hserve
      rfl
    | some written =>
      rw [hfind] at hserve
      exact decode_serve hserve
  rw [Settings.encode, (overlays_text _).get_of_default hs rfl hdsn,
    overlays_urls.get_of_default hs rfl hurls, hinner,
    overlays_tracing.get_of_default hs rfl htracing, overlays_log.get_of_default hs rfl hlog]
  rfl

theorem Interface.forall_iff {p : Interface → Prop} : (∀ i, p i) ↔ p .admin ∧ p .public :=
  ⟨fun h => ⟨h _, h _⟩, fun h i => by cases i with
    | admin => exact h.1
    | «public» => exact h.2⟩

namespace Defaults

theorem overlay_interface_inj {p q : UInt16} {written : Option Document} :
    (interface p).overlay written = (interface q).overlay written ↔
      p = q ∨ (written.bind (valueAt? 1 "port")).isSome = true := by
  simp only [interface, overlay, overlayKeys, table.injEq, List.cons.injEq, Prod.mk.injEq, true_and,
    and_true]
  cases written.bind (valueAt? (0 + 1) "port") with
  | none =>
    have hport : nat p.toNat = nat q.toNat ↔ p = q := by
      rw [nat, nat, Document.int.injEq, Int.ofNat.injEq, UInt16.toNat_inj]
    simp [hport]
  | some port => simp

theorem overlay_serve_inj {p q : Interface → UInt16} {written : Option Document} :
    (serve p).overlay written = (serve q).overlay written ↔
      ∀ i, (interface (p i)).overlay (written.bind (interfaceSection? i)) =
        (interface (q i)).overlay (written.bind (interfaceSection? i)) := by
  simp only [serve, overlay, overlayKeys, table.injEq, List.cons.injEq, Prod.mk.injEq, true_and,
    and_true, Interface.forall_iff]
  rfl

theorem overlay_settings_inj {p q : Interface → UInt16} {d : Document} :
    (settings p).overlay (some d) = (settings q).overlay (some d) ↔
      ∀ i, p i = q i ∨ (d.port? i).isSome = true := by
  have hserve : (settings p).overlay (some d) = (settings q).overlay (some d) ↔
      (serve p).overlay (d.valueAt? 2 "serve") = (serve q).overlay (d.valueAt? 2 "serve") := by
    simp only [settings, overlay, overlayKeys, table.injEq, List.cons.injEq, Prod.mk.injEq,
      true_and, and_true]
    rfl
  rw [hserve, overlay_serve_inj]
  exact forall_congr' fun i => overlay_interface_inj

end Defaults

theorem startingPort_eq_standardPort_iff {i : Interface} {written : Option Document} :
    startingPort i written = standardPort i ↔ written = none := by
  cases written with
  | none => simp [startingPort]
  | some d => cases i <;> simp [startingPort, standardPort]

/-- Every key that a document leaves out keeps the default of its own position, but for the port of
an interface, which is zero if its section is written without one. So the settings are the overlay
exactly when every section of an interface that is written has its port. -/
theorem decode_overlays_defaults {d : Document} {s : Settings} (h : Settings.decode d = some s) :
    s.encode = (Defaults.settings fun i => startingPort i (d.interface? i)).overlay (some d) ∧
    (Defaults.settings standardPort).overlay none = Settings.encode {} ∧
    (s.encode = (Defaults.settings standardPort).overlay (some d) ↔
      ∀ i, (d.interface? i).isSome = true → (d.port? i).isSome = true) := by
  have hdecode := decode_settings h
  refine ⟨hdecode, rfl, ?_⟩
  rw [hdecode, Defaults.overlay_settings_inj]
  refine forall_congr' fun i => ?_
  rw [startingPort_eq_standardPort_iff]
  cases d.interface? i <;> simp

/-- The admin section as a list that ends before the port, the public one with a port. -/
theorem decode_overlays_defaults_mixed :
    let d : Document := .table [("serve", .table [
      ("admin", .array [.text "::1"]),
      ("public", .table [("port", .int 80), ("tls", .table [("enabled", .bool true)])])])]
    let s : Settings := { serve := {
      admin := { host := "::1" }
      «public» := { port := 80, tls := some { enabled := true } } } }
    Settings.decode d = some s ∧
    s.encode = (Defaults.settings fun i => startingPort i (d.interface? i)).overlay (some d) ∧
    startingPort .admin (d.interface? .admin) = 0 ∧
    ¬ s.encode = (Defaults.settings standardPort).overlay (some d) := by
  intro d s
  have hdecode : Settings.decode d = some s := rfl
  have hoverlay := decode_overlays_defaults hdecode
  refine ⟨hdecode, hoverlay.1, rfl, fun h => ?_⟩
  exact absurd (hoverlay.2.2.mp h .admin rfl) (by decide)

/-- A section with a host and no port: the interface gets port zero in place of its own. -/
theorem decode_loses_standard_port :
    letI : UrlReader := .none
    let d : Document :=
      .table [("serve", .table [("public", .table [("host", .text "127.0.0.1")])])]
    let s : Settings := { serve := { «public» := { host := "127.0.0.1", port := 0 } } }
    (parse "[serve.public]\nhost = \x22127.0.0.1\x22\n").toOption = some s ∧
    Settings.decode d = some s ∧ d.port? .public = none ∧
    s.serve.public.port ≠ standardPort .public ∧
    s.encode ≠ (Defaults.settings standardPort).overlay (some d) := by
  intro d s
  refine ⟨by decide +kernel, rfl, rfl, by decide, fun h => ?_⟩
  have hport := congrArg (fun d => (d.port? .public).bind uint16?) h
  exact absurd hport (by decide)

end DualServer.Config
