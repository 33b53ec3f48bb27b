import Mathlib.Data.List.Basic
import DualServer.Proofs.Config.ListenAddress
import DualServer.Proofs.Config.Overlay
import DualServer.Proofs.Config.Reloading

/-! What is wrong with some settings, one value at a time. `Site.all` is the order of the checks,
`Settings.values` what the settings have at each of them, and `Wrong` the rules. The violations are
those of the values, each by itself, so a value put right takes its own violation with it and no
other. -/
namespace DualServer.Config
open DualServer.Text

/-- A place in the settings whose values are checked one by one. -/
inductive Site
  | material (place : TlsPlace)
  | ranges (place : TlsPlace)
  | host (i : Interface)
  | fileMode (i : Interface)
  | origins (i : Interface)
  | issuer
  | drainTime
  deriving DecidableEq, Repr

def TlsPlace.path : TlsPlace → List String
  | shared => ["serve", "tls"]
  | own i => ["serve", i.name] ++ ["tls"]

inductive Value
  | material (cert key : PemSource)
  | text (text : String)
  | fileMode (mode : UInt32)
  | seconds (count : UInt64)
  deriving DecidableEq, Repr

namespace Site

def ofTls (place : TlsPlace) : List Site := [.material place, .ranges place]

def ofInterface (i : Interface) : List Site :=
  [.host i, .fileMode i] ++ ofTls (.own i) ++ [.origins i]

/-- All sites in the order of their violations. -/
def all : List Site :=
  ofTls .shared ++ ofInterface .admin ++ ofInterface .public ++ [.issuer, .drainTime]

theorem nodup_all : all.Nodup := by decide

theorem mem_all (site : Site) : site ∈ all := by
  rcases site with (_ | ⟨_ | _⟩) | (_ | ⟨_ | _⟩) | (_ | _) | (_ | _) | (_ | _) | _ | _ <;> decide

/-- The keys that lead to a site from the top of a document. -/
def path : Site → List String
  | material place => place.path
  | ranges place => place.path ++ ["allow_termination_from"]
  | host i => ["serve", i.name] ++ ["host"]
  | fileMode i => ["serve", i.name] ++ ["socket", "mode"]
  | origins i => ["serve", i.name] ++ ["cors", "allowed_origins"]
  | issuer => ["urls", "self_issuer"]
  | drainTime => ["serve", "shutdown_timeout_secs"]

end Site

namespace Settings

def tlsAt (s : Settings) : TlsPlace → Option TlsSettings
  | .shared => some s.serve.tls
  | .own i => (s.interface i).tls

/-- What the settings have at a site: the entries of a list, or one value, or none where a section
is left out. -/
def values (s : Settings) : Site → List Value
  | .material place => (s.tlsAt place).toList.map fun t => .material t.cert t.key
  | .ranges place => (s.tlsAt place).toList.flatMap fun t => t.allowTerminationFrom.map .text
  | .host i => [.text (s.interface i).host]
  | .fileMode i => (s.interface i).socket.toList.map fun permission => .fileMode permission.mode
  | .origins i => (s.cors i).allowedOrigins.map .text
  | .issuer => [.text s.urls.selfIssuer]
  | .drainTime => [.seconds s.serve.shutdownTimeoutSecs]

end Settings

/-- The value at a site breaks a rule. -/
inductive Wrong [UrlReader] : Site → Value → Violation → Prop
  | unpairedMaterial {place : TlsPlace} {cert key : PemSource} :
      cert.isSet ≠ key.isSet →
      Wrong (.material place) (.material cert key) (.unpairedMaterial place)
  | badRange {place : TlsPlace} {text : String} :
      (∀ range, Net.IpRange.parse text ≠ .ok range) →
      Wrong (.ranges place) (.text text) (.badRange place text)
  | emptySocketPath {i : Interface} :
      Wrong (.host i) (.text unixMark) (.emptySocketPath i)
  | relativeSocketPath {i : Interface} {host : String} :
      '/' ∈ host.toList → ¬ NamesSocket host →
      Wrong (.host i) (.text host) (.relativeSocketPath i)
  | badFileMode {i : Interface} {mode : UInt32} :
      0o7777 < mode.toNat →
      Wrong (.fileMode i) (.fileMode mode) (.badFileMode i mode)
  | badOrigin {i : Interface} {origin : String} {c : Char} :
      origin ≠ "*" → c ∈ origin.toList → c.toNat < 0x20 ∧ c ≠ '\t' ∨ c.toNat = 0x7F →
      Wrong (.origins i) (.text origin) (.badOrigin i origin)
  | badIssuer {issuer : String} :
      issuer ≠ "" → UrlReader.read? issuer = none →
      Wrong .issuer (.text issuer) (.badIssuer issuer)
  | noDrainTime : Wrong .drainTime (.seconds 0) .noDrainTime

/-- A violation has the path of its site for a field. -/
theorem Wrong.field_eq [UrlReader] {site : Site} {x : Value} {v : Violation} (h : Wrong site x v) :
    v.field = ".".intercalate site.path := by
  have htls : ∀ place : TlsPlace,
      place.field = ".".intercalate (Site.material place).path ∧
      place.field ++ ".allow_termination_from" = ".".intercalate (Site.ranges place).path := by
    rintro (_ | _ | _) <;> decide
  have hinterface : ∀ i : Interface,
      s!"serve.{i.name}.host" = ".".intercalate (Site.host i).path ∧
      s!"serve.{i.name}.socket.mode" = ".".intercalate (Site.fileMode i).path ∧
      s!"serve.{i.name}.cors.allowed_origins" = ".".intercalate (Site.origins i).path := by
    rintro (_ | _) <;> decide
  cases h with
  | unpairedMaterial => exact (htls _).1
  | badRange => exact (htls _).2
  | emptySocketPath | relativeSocketPath => exact (hinterface _).1
  | badFileMode => exact (hinterface _).2.1
  | badOrigin => exact (hinterface _).2.2
  | badIssuer | noDrainTime => rfl

namespace Document

/-- The document that keys lead to, one after the other. -/
def at? (d : Document) (path : List String) : Option Document :=
  path.foldlM (fun d key => d.valueAt? 0 key) d

theorem texts_inj {items items' : List String} (h : texts items = texts items') :
    items = items' := by
  have hmap : items.map Document.text = items'.map Document.text := by simpa [texts] using h
  exact List.map_injective_iff.mpr (fun a b => Document.text.inj) hmap

end Document

theorem PemSource.encode_inj {a b : PemSource} (h : a.encode = b.encode) : a = b := by
  have hoption : ∀ a b : Option String, Document.optional .text a = .optional .text b → a = b := by
    intro a b h
    cases a <;> cases b <;> simp_all [Document.optional]
  obtain ⟨path, base64⟩ := a
  obtain ⟨path', base64'⟩ := b
  simp only [encode, Document.table.injEq, List.cons.injEq, Prod.mk.injEq, true_and, and_true] at h
  rw [hoption _ _ h.1, hoption _ _ h.2]

theorem at?_tlsPath (s : Settings) (place : TlsPlace) (rest : List String) :
    s.encode.at? (place.path ++ rest) =
      (Document.optional TlsSettings.encode (s.tlsAt place)).at? rest := by
  rcases place with _ | _ | _ <;> rfl

theorem at?_interfacePath (s : Settings) (i : Interface) (rest : List String) :
    s.encode.at? (["serve", i.name] ++ rest) = (s.interface i).encode.at? rest := by
  cases i <;> rfl

theorem at?_fileMode (s : InterfaceSettings) :
    s.encode.at? ["socket", "mode"] =
      s.socket.map fun permission => .nat permission.mode.toNat := by
  obtain ⟨_, _, socket, _, _, _⟩ := s
  cases socket <;> rfl

/-- Of a section that may be left out, a view that tells its absence from its presence tells all
that it tells of those that are there. -/
theorem map_toList_congr {α β γ : Type} (view : Option α → β) {f : α → γ} {a b : Option α}
    (h : view a = view b) (hnone : ∀ t, view (some t) ≠ view none)
    (hsome : ∀ t t', view (some t) = view (some t') → f t = f t') :
    a.toList.map f = b.toList.map f := by
  cases a with
  | none =>
    cases b with
    | none => rfl
    | some t' => exact absurd h.symm (hnone t')
  | some t =>
    cases b with
    | none => exact absurd h (hnone t)
    | some t' => exact congrArg ([·]) (hsome t t' h)

/-- What the settings have at a site is what the document has at its path. -/
theorem values_congr {s s' : Settings} {site : Site}
    (h : s.encode.at? site.path = s'.encode.at? site.path) : s.values site = s'.values site := by
  cases site with
  | material place =>
    rw [Site.path, ← List.append_nil place.path, at?_tlsPath, at?_tlsPath] at h
    refine map_toList_congr (Document.optional TlsSettings.encode) (Option.some.inj h) ?_ ?_
    · intro t hnone
      cases hnone
    · intro t t' ht
      simp only [Document.optional, TlsSettings.encode, Document.table.injEq, List.cons.injEq,
        Prod.mk.injEq, true_and] at ht
      rw [PemSource.encode_inj ht.2.1, PemSource.encode_inj ht.2.2.1]
  | ranges place =>
    rw [Site.path, at?_tlsPath, at?_tlsPath] at h
    refine congrArg List.flatten (map_toList_congr
      (fun t => (Document.optional TlsSettings.encode t).at? ["allow_termination_from"]) h ?_ ?_)
    · intro t hnone
      cases hnone
    · intro t t' ht
      have hranges : t.allowTerminationFrom = t'.allowTerminationFrom :=
        Document.texts_inj (Option.some.inj ht)
      rw [hranges]
  | host i =>
    rw [Site.path, at?_interfacePath, at?_interfacePath] at h
    have hhost : (s.interface i).host = (s'.interface i).host :=
      Document.text.inj (Option.some.inj h)
    simp [Settings.values, hhost]
  | fileMode i =>
    rw [Site.path, at?_interfacePath, at?_interfacePath, at?_fileMode, at?_fileMode] at h
    refine map_toList_congr (Option.map fun permission => Document.nat permission.mode.toNat) h
      ?_ ?_
    · intro permission hnone
      cases hnone
    · intro permission permission' hpermission
      have hmode : permission.mode.toNat = permission'.mode.toNat :=
        Int.ofNat.inj (Document.int.inj (Option.some.inj hpermission))
      rw [UInt32.toNat_inj.mp hmode]
  | origins i =>
    rw [Site.path, at?_interfacePath, at?_interfacePath] at h
    have horigins : (s.cors i).allowedOrigins = (s'.cors i).allowedOrigins :=
      Document.texts_inj (Option.some.inj h)
    simp [Settings.values, horigins]
  | issuer =>
    have hissuer : s.urls.selfIssuer = s'.urls.selfIssuer := Document.text.inj (Option.some.inj h)
    simp [Settings.values, hissuer]
  | drainTime =>
    have htime : s.serve.shutdownTimeoutSecs.toNat = s'.serve.shutdownTimeoutSecs.toNat :=
      Int.ofNat.inj (Document.int.inj (Option.some.inj h))
    simp [Settings.values, UInt64.toNat_inj.mp htime]

/-- What is wrong with the value at a site, if anything. -/
def Site.problem? [UrlReader] : Site → Value → Option Violation
  | .material place, .material cert key =>
    if cert.isSet ≠ key.isSet then some (.unpairedMaterial place) else none
  | .ranges place, .text text => if isRange text then none else some (.badRange place text)
  | .host i, .text text => (hostViolations i text).head?
  | .fileMode i, .fileMode mode => if maxFileMode < mode then some (.badFileMode i mode) else none
  | .origins i, .text text => if isOrigin text then none else some (.badOrigin i text)
  | .issuer, .text text => (issuerViolations text).head?
  | .drainTime, .seconds count => if count = 0 then some .noDrainTime else none
  | _, _ => none

def Settings.problems [UrlReader] (s : Settings) (site : Site) : List Violation :=
  (s.values site).filterMap site.problem?

theorem isRange_eq_false_iff {text : String} :
    isRange text = false ↔ ∀ range, Net.IpRange.parse text ≠ .ok range := by
  unfold isRange Net.IpRange.parse
  cases Net.IpRange.ofChars? text.toList <;> simp

theorem isOrigin_eq_false_iff {origin : String} :
    isOrigin origin = false ↔ origin ≠ "*" ∧ ∃ c ∈ origin.toList,
      c.toNat < 0x20 ∧ c ≠ '\t' ∨ c.toNat = 0x7F := by
  have hchar : ∀ c : Char, Http.isValueChar c = false ↔
      c.toNat < 0x20 ∧ c ≠ '\t' ∨ c.toNat = 0x7F := by
    intro c
    by_cases htab : c = '\t'
    · subst htab
      decide
    · simp only [Http.isValueChar, htab, decide_false, Bool.or_false, Bool.and_eq_false_iff,
        decide_eq_false_iff_not, ne_eq, not_false_eq_true, and_true]
      omega
  simp [isOrigin, Http.isFieldValue, hchar]

theorem head?_hostViolations [UrlReader] {i : Interface} {host : String} {v : Violation} :
    (hostViolations i host).head? = some v ↔ Wrong (.host i) (.text host) v := by
  constructor
  · intro h
    unfold hostViolations at h
    split at h
    next path hpath =>
      split at h
      next hempty =>
        cases h
        rw [List.isEmpty_iff.mp hempty, dropFront?_eq_some, List.append_nil,
          String.toList_inj] at hpath
        exact hpath ▸ .emptySocketPath
      next => cases h
    next hmark =>
      split at h
      next hrelative =>
        cases h
        rw [Bool.and_eq_true, decide_eq_true_eq, List.contains_iff_mem] at hrelative
        refine .relativeSocketPath hrelative.1 ?_
        rw [NamesSocket, ← dropFront?_isSome_iff, hmark, ← head?_eq_some_iff_prefix]
        simp [hrelative.2]
      next => cases h
  · intro h
    cases h with
    | emptySocketPath => rfl
    | relativeSocketPath hslash hsocket =>
      rw [NamesSocket, not_or, ← dropFront?_isSome_iff, ← head?_eq_some_iff_prefix] at hsocket
      have hmark : dropFront? unixMark.toList host.toList = none := by simpa using hsocket.1
      simp [hostViolations, hmark, hslash, hsocket.2]

theorem problem?_eq_some_iff [UrlReader] {site : Site} {x : Value} {v : Violation} :
    site.problem? x = some v ↔ Wrong site x v := by
  constructor
  · intro h
    unfold Site.problem? at h
    split at h
    · split at h
      next hset => cases h; exact .unpairedMaterial hset
      next => cases h
    · split at h
      next => cases h
      next hrange => cases h; exact .badRange (isRange_eq_false_iff.mp (by simpa using hrange))
    · exact head?_hostViolations.mp h
    · split at h
      next hmode => cases h; exact .badFileMode (UInt32.lt_iff_toNat_lt.mp hmode)
      next => cases h
    · split at h
      next => cases h
      next horigin =>
        cases h
        obtain ⟨hstar, c, hc, hbad⟩ := isOrigin_eq_false_iff.mp (by simpa using horigin)
        exact .badOrigin hstar hc hbad
    · unfold issuerViolations at h
      split at h
      next hissuer =>
        cases h
        rw [Bool.and_eq_true, Bool.not_eq_true', Option.isNone_iff_eq_none] at hissuer
        exact .badIssuer (by simpa using hissuer.1) hissuer.2
      next => cases h
    · split at h
      next hzero => cases h; subst hzero; exact .noDrainTime
      next => cases h
    · cases h
  · intro h
    cases h with
    | unpairedMaterial hset => simp [Site.problem?, hset]
    | badRange hrange => simp [Site.problem?, isRange_eq_false_iff.mpr hrange]
    | emptySocketPath => exact head?_hostViolations.mpr .emptySocketPath
    | relativeSocketPath hslash hsocket =>
      exact head?_hostViolations.mpr (.relativeSocketPath hslash hsocket)
    | badFileMode hmode =>
      have hlimit : maxFileMode < _ := UInt32.lt_iff_toNat_lt.mpr hmode
      exact if_pos hlimit
    | badOrigin hstar hc hbad =>
      simp [Site.problem?, isOrigin_eq_false_iff.mpr ⟨hstar, _, hc, hbad⟩]
    | badIssuer hissuer hurl => simp [Site.problem?, issuerViolations, hissuer, hurl]
    | noDrainTime => rfl

theorem filterMap_entries (valid : String → Bool) (report : String → Violation)
    (entries : List String) :
    entries.filterMap (fun text => if valid text then none else some (report text)) =
      (entries.filter (!valid ·)).map report := by
  induction entries with
  | nil => rfl
  | cons text entries ih => cases h : valid text <;> simp [h, ih]

theorem filterMap_singleton (report : Value → Option Violation) (x : Value) :
    [x].filterMap report = (report x).toList := by
  cases h : report x <;> simp [h]

section
variable [UrlReader] {s s' : Settings}

theorem problems_ofTls (place : TlsPlace) :
    (Site.ofTls place).flatMap s.problems =
      (s.tlsAt place).toList.flatMap (tlsViolations place) := by
  cases ht : s.tlsAt place with
  | none => simp [Site.ofTls, Settings.problems, Settings.values, ht]
  | some t =>
    have hranges : (t.allowTerminationFrom.map Value.text).filterMap (Site.ranges place).problem? =
        (t.allowTerminationFrom.filter (!isRange ·)).map (.badRange place) := by
      rw [List.filterMap_map, ← filterMap_entries]
      rfl
    have hmaterial : [Value.material t.cert t.key].filterMap (Site.material place).problem? =
        if t.cert.isSet ≠ t.key.isSet then [.unpairedMaterial place] else [] := by
      by_cases hset : t.cert.isSet = t.key.isSet <;> simp [Site.problem?, hset]
    simp [Site.ofTls, Settings.problems, Settings.values, ht, tlsViolations, hranges, hmaterial]

theorem problems_host (i : Interface) :
    s.problems (.host i) = hostViolations i (s.interface i).host := by
  have hone : ∀ host, (hostViolations i host).head?.toList = hostViolations i host := by
    intro host
    unfold hostViolations
    split <;> split <;> rfl
  rw [Settings.problems, Settings.values, filterMap_singleton, Site.problem?, hone]

theorem problems_issuer : s.problems .issuer = issuerViolations s.urls.selfIssuer := by
  have hone : ∀ issuer, (issuerViolations issuer).head?.toList = issuerViolations issuer := by
    intro issuer
    unfold issuerViolations
    split <;> rfl
  rw [Settings.problems, Settings.values, filterMap_singleton, Site.problem?, hone]

theorem problems_drainTime : s.problems .drainTime =
    if s.serve.shutdownTimeoutSecs = 0 then [.noDrainTime] else [] := by
  rw [Settings.problems, Settings.values, filterMap_singleton, Site.problem?]
  split <;> rfl

theorem problems_fileMode (i : Interface) : s.problems (.fileMode i) =
    (s.interface i).socket.toList.flatMap fun permission =>
      if maxFileMode < permission.mode then [.badFileMode i permission.mode] else [] := by
  cases hsocket : (s.interface i).socket with
  | none => simp [Settings.problems, Settings.values, hsocket]
  | some permission =>
    by_cases hlimit : maxFileMode < permission.mode <;>
      simp [Settings.problems, Settings.values, Site.problem?, hsocket, hlimit]

theorem problems_origins (i : Interface) : s.problems (.origins i) =
    ((s.interface i).cors.allowedOrigins.filter (!isOrigin ·)).map (.badOrigin i) := by
  rw [Settings.problems, Settings.values, List.filterMap_map, ← filterMap_entries]
  rfl

theorem problems_ofInterface (i : Interface) :
    (Site.ofInterface i).flatMap s.problems = interfaceViolations i (s.interface i) := by
  unfold interfaceViolations
  rw [Site.ofInterface, List.flatMap_append, List.flatMap_append, problems_ofTls, Settings.tlsAt]
  simp only [List.flatMap_cons, List.flatMap_nil, List.append_nil, problems_host, problems_fileMode,
    problems_origins]
  cases (s.interface i).socket <;> cases (s.interface i).tls <;> simp

/-- The violations are those of the values at all sites, each by itself and in order. -/
theorem violations_eq (s : Settings) : violations s = Site.all.flatMap s.problems := by
  simp only [Site.all, List.flatMap_append, problems_ofTls, problems_ofInterface,
    List.flatMap_cons, List.flatMap_nil, List.append_nil, problems_issuer, problems_drainTime]
  simp [violations, Settings.tlsAt, Settings.interface]

theorem problems_eq_nil_iff {site : Site} :
    s.problems site = [] ↔ ∀ x ∈ s.values site, ∀ v, ¬ Wrong site x v := by
  simp only [Settings.problems, List.filterMap_eq_nil_iff, Option.eq_none_iff_forall_ne_some, ne_eq,
    problem?_eq_some_iff]

theorem valid_iff : s.Valid ↔ ∀ site, ∀ x ∈ s.values site, ∀ v, ¬ Wrong site x v := by
  rw [Settings.Valid, violations_eq, List.flatMap_eq_nil_iff]
  simp only [problems_eq_nil_iff, Site.mem_all, forall_const]

theorem check_eq_error_iff {e : LoadError} :
    check s = .error e ↔ ¬ s.Valid ∧ e = .invalid (violations s) := by
  unfold check Settings.Valid
  split
  next hvalid => simp [hvalid]
  next hinvalid =>
    rw [Except.error.injEq, eq_comm]
    exact (and_iff_right hinvalid).symm

end

/-- The settings `s'` are `s` with one value put right: in its place stand values that break no
rule, or none at all, and every other value is as it was. -/
structure Repairs [UrlReader] (s : Settings) (site : Site) (x : Value) (s' : Settings) : Prop where
  here : ∃ before after fixed, s.values site = before ++ x :: after ∧
    s'.values site = before ++ fixed ++ after ∧ ∀ y ∈ fixed, ∀ v, ¬ Wrong site y v
  elsewhere : ∀ other, other ≠ site → s'.values other = s.values other

section
variable [UrlReader] {s s' : Settings} {site : Site} {x : Value} {v : Violation}

theorem Repairs.problems (h : Repairs s site x s') (hwrong : Wrong site x v) :
    ∃ before after, s.problems site = before ++ v :: after ∧
      s'.problems site = before ++ after := by
  obtain ⟨before, after, fixed, hs, hs', hfixed⟩ := h.here
  refine ⟨before.filterMap site.problem?, after.filterMap site.problem?, ?_, ?_⟩
  · simp [Settings.problems, hs, problem?_eq_some_iff.mpr hwrong]
  · have hnone : fixed.filterMap site.problem? = [] := by
      simpa only [List.filterMap_eq_nil_iff, Option.eq_none_iff_forall_ne_some, ne_eq,
        problem?_eq_some_iff] using hfixed
    simp [Settings.problems, hs', hnone]

theorem Repairs.violations (h : Repairs s site x s') (hwrong : Wrong site x v) :
    ∃ before after, violations s = before ++ v :: after ∧ violations s' = before ++ after := by
  obtain ⟨front, back, hall⟩ := List.append_of_mem (Site.mem_all site)
  obtain ⟨before, after, hs, hs'⟩ := h.problems hwrong
  have hnodup : (site :: (front ++ back)).Nodup :=
    List.perm_middle.nodup_iff.mp (hall ▸ Site.nodup_all)
  obtain ⟨hothers, -⟩ := List.nodup_cons.mp hnodup
  rw [List.mem_append, not_or] at hothers
  have hsame : ∀ sites : List Site, site ∉ sites →
      sites.flatMap s'.problems = sites.flatMap s.problems := by
    intro sites hsites
    refine List.flatMap_congr fun other hother => ?_
    have hother' : other ≠ site := fun heq => hsites (heq ▸ hother)
    rw [Settings.problems, Settings.problems, h.elsewhere other hother']
  refine ⟨front.flatMap s.problems ++ before, after ++ back.flatMap s.problems, ?_, ?_⟩
  · rw [violations_eq, hall, List.flatMap_append, List.flatMap_cons, hs]
    simp
  · rw [violations_eq, hall, List.flatMap_append, List.flatMap_cons, hs', hsame front hothers.1,
      hsame back hothers.2]
    simp

end

/-- Whatever is taken for a URL, each value that breaks a rule is reported once, in the order of the
sites, under the path of its site, and nothing else is. Settings are accepted when no value breaks a
rule, and a value put right takes just its own report away. -/
theorem violations_reported_exactly [UrlReader] (s : Settings) :
    violations s = Site.all.flatMap (fun site : Site => (s.values site).filterMap site.problem?) ∧
    (∀ (site : Site) x v, site.problem? x = some v ↔ Wrong site x v) ∧
    (∀ site x v, Wrong site x v → v.field = ".".intercalate site.path) ∧
    (∀ (site : Site) (s' : Settings), s.encode.at? site.path = s'.encode.at? site.path →
      s.values site = s'.values site) ∧
    (∀ accepted, check s = .ok accepted ↔
      accepted = s ∧ ∀ site, ∀ x ∈ s.values site, ∀ v, ¬ Wrong site x v) ∧
    (∀ e, check s = .error e ↔
      (∃ site, ∃ x ∈ s.values site, ∃ v, Wrong site x v) ∧ e = .invalid (violations s)) ∧
    ∀ s' site x v, Repairs s site x s' → Wrong site x v →
      ∃ before after, violations s = before ++ v :: after ∧ violations s' = before ++ after := by
  refine ⟨violations_eq s, fun _ _ _ => problem?_eq_some_iff, fun _ _ _ => Wrong.field_eq,
    fun _ _ => values_congr, ?_, ?_, fun _ _ _ _ => Repairs.violations⟩
  · intro accepted
    rw [check_eq_ok_iff, eq_comm]
    exact and_congr_right fun heq => heq ▸ valid_iff
  · intro e
    rw [check_eq_error_iff, valid_iff]
    push Not
    rfl

/-- One of two violations put right by leaving the entry out. -/
example :
    letI : UrlReader := .none
    let withOrigins (origins : List String) : Settings :=
      { serve := { «public» :=
          { host := "run/http.sock", cors := { allowedOrigins := origins } } } }
    let s := withOrigins ["*", "a\nb"]
    let s' := withOrigins ["*"]
    Repairs s (.origins .public) (.text "a\nb") s' ∧
    violations s = [.relativeSocketPath .public, .badOrigin .public "a\nb"] ∧
    violations s' = [.relativeSocketPath .public] := by
  intro withOrigins s s'
  let _ : UrlReader := .none
  have helsewhere : ∀ other ∈ Site.all, other ≠ .origins .public →
      s'.values other = s.values other := by decide +kernel
  refine ⟨⟨⟨[.text "*"], [], [], rfl, rfl, by simp⟩, ?_⟩, by decide +kernel, by decide +kernel⟩
  exact fun other => helsewhere other (Site.mem_all other)

end DualServer.Config
