import Mathlib.Data.List.Basic
import DualServer.Config.Validation
import DualServer.Pipeline.Compose
import DualServer.Proofs.Net.Membership
import DualServer.Proofs.Pipeline.Finishing

/-! Who gets past the gate of an interface. `Admits` says it in terms of the settings and the
request; the ranges of a gate count as a set, so entries that do not parse, come twice or change
places make no difference, and more entries admit more. -/
namespace DualServer.Pipeline
open DualServer.Config DualServer.Http DualServer.Text

namespace Paths

def probes : List String := [alive, ready, metrics, admin alive, admin ready, admin metrics]

theorem isProbe_iff {path : String} : isProbe path = true ↔ path ∈ probes := by
  unfold isProbe
  cases hfront : dropFront? "/admin".toList path.toList with
  | some rest =>
    -- Below the admin prefix; no probe of the other interface begins with it.
    obtain rfl : path = admin (String.ofList rest) := by
      rw [← String.toList_inj, dropFront?_eq_some.mp hfront, admin]
      simp
    have hbare : admin (String.ofList rest) ∉ [alive, ready, metrics] := by
      intro h
      have hnone : ∀ p ∈ [alive, ready, metrics], dropFront? "/admin".toList p.toList = none := by
        decide
      rw [hnone _ h] at hfront
      cases hfront
    have hinj : ∀ p q, admin p = admin q ↔ p = q := fun _ _ => String.append_right_inj _
    simp only [List.mem_cons, List.not_mem_nil, or_false, not_or] at hbare
    simp [probes, hbare, hinj, or_assoc]
  | none =>
    have hadmin : ∀ p, path ≠ admin p := by
      rintro p rfl
      rw [admin, String.toList_append, dropFront?_eq_some.mpr rfl] at hfront
      cases hfront
    simp [probes, hadmin, or_assoc]

end Paths

theorem isVisible_of_toLower {c : Char} (h : isVisible c.toLower = true) : isVisible c = true := by
  unfold Char.toLower at h
  split at h
  next hupper =>
    have hlow : 65 ≤ c.toNat := UInt32.le_iff_toNat_le.mp hupper.1
    have hhigh : c.toNat ≤ 90 := UInt32.le_iff_toNat_le.mp hupper.2
    simp only [isVisible, Bool.or_eq_true, Bool.and_eq_true, decide_eq_true_eq]
    omega
  next => exact h

/-- A value that is some visible text up to case is visible itself. -/
theorem visible?_of_lowerAscii {value : String}
    (h : (lowerAscii value).toList.all isVisible = true) : visible? value = some value := by
  have hvalue : value.toList.all isVisible = true := by
    rw [lowerAscii, String.toList_map, List.all_map, List.all_eq_true] at h
    exact List.all_eq_true.mpr fun c hc => isVisible_of_toLower (h c hc)
  unfold visible?
  rw [if_pos hvalue]

theorem any_secure_iff {value : Option String} :
    (value.bind visible?).any (sameIgnoringCase · "https") = true ↔
      ∃ text, value = some text ∧ lowerAscii text = "https" := by
  have hhttps : lowerAscii "https" = "https" := by decide +kernel
  cases value with
  | none => simp
  | some text =>
    have hsame : sameIgnoringCase text "https" = true ↔ lowerAscii text = "https" := by
      rw [sameIgnoringCase, hhttps, beq_iff_eq]
    simp only [Option.bind_some, Option.some.injEq, exists_eq_left', ← hsame]
    constructor
    · intro h
      unfold visible? at h
      split at h
      · exact h
      · cases h
    · intro h
      rw [visible?_of_lowerAscii (by rw [hsame.mp h]; decide)]
      exact h

theorem parse_eq_ok_iff {text : String} {range : Net.IpRange} :
    Net.IpRange.parse text = .ok range ↔ Net.IpRange.ofChars? text.toList = some range := by
  unfold Net.IpRange.parse
  cases Net.IpRange.ofChars? text.toList <;> simp

theorem isRange_of_parse {text : String} {range : Net.IpRange}
    (h : Net.IpRange.parse text = .ok range) : isRange text = true := by
  rw [isRange, parse_eq_ok_iff.mp h]
  rfl

namespace Gate

/-- The gate of an interface with the given TLS settings. -/
def ofSettings (t : TlsSettings) : Gate := (make t.enabled t.allowTerminationFrom).1

theorem mem_trusted_ofSettings {t : TlsSettings} {range : Net.IpRange} :
    range ∈ (ofSettings t).trusted ↔
      ∃ text ∈ t.allowTerminationFrom, Net.IpRange.parse text = .ok range := by
  have hoption : ∀ text : String, (Net.IpRange.parse text).toOption = some range ↔
      Net.IpRange.parse text = .ok range := by
    intro text
    cases Net.IpRange.parse text <;> simp [Except.toOption]
  simp [ofSettings, make, hoption]

theorem trusted_subset {t t' : TlsSettings}
    (h : ∀ text, isRange text = true → text ∈ t.allowTerminationFrom →
      text ∈ t'.allowTerminationFrom) :
    ∀ range ∈ (ofSettings t).trusted, range ∈ (ofSettings t').trusted := by
  intro range hrange
  obtain ⟨text, hmem, hparse⟩ := mem_trusted_ofSettings.mp hrange
  exact mem_trusted_ofSettings.mpr ⟨text, h text (isRange_of_parse hparse) hmem, hparse⟩

theorem any_trusted_iff {t : TlsSettings} {ip : Net.IpAddress} :
    (ofSettings t).trusted.any (·.contains ip) = true ↔
      ∃ text ∈ t.allowTerminationFrom, ∃ range, Net.IpRange.parse text = .ok range ∧
        ∃ address, Net.IpAddress.ComparedAs ip address ∧
          Net.IpAddress.SharePrefix range.prefixLength range.network address := by
  simp only [List.any_eq_true, ← Net.IpRange.contains_iff_compared]
  constructor
  · rintro ⟨range, hrange, hcontains⟩
    obtain ⟨text, hmem, hparse⟩ := mem_trusted_ofSettings.mp hrange
    exact ⟨text, hmem, range, hparse, hcontains⟩
  · rintro ⟨text, hmem, range, hparse, hcontains⟩
    exact ⟨range, mem_trusted_ofSettings.mpr ⟨text, hmem, hparse⟩, hcontains⟩

/-- The ranges of a gate count as a set. -/
theorem decide_congr {gate gate' : Gate} (henabled : gate.tlsEnabled = gate'.tlsEnabled)
    (htrusted : ∀ range, range ∈ gate.trusted ↔ range ∈ gate'.trusted) (request : Request) :
    gate.decide request = gate'.decide request := by
  have hany : ∀ p : Net.IpRange → Bool, gate.trusted.any p = gate'.trusted.any p := by
    intro p
    rw [Bool.eq_iff_iff, List.any_eq_true, List.any_eq_true]
    simp only [htrusted]
  unfold decide check
  simp only [henabled, hany]

end Gate

/-- A peer whose address, as it is compared, begins like the network of some entry says that it
ended TLS. -/
def Vouched (t : TlsSettings) (request : Request) : Prop :=
  ∃ peer, request.peer = some peer ∧
    (∃ text ∈ t.allowTerminationFrom, ∃ range, Net.IpRange.parse text = .ok range ∧
      ∃ address, Net.IpAddress.ComparedAs peer.ip address ∧
        Net.IpAddress.SharePrefix range.prefixLength range.network address) ∧
    ∃ scheme, request.fields.first? "x-forwarded-proto" = some scheme ∧ lowerAscii scheme = "https"

/-- Whom an interface with the given TLS settings lets in. -/
def Admits (t : TlsSettings) (request : Request) : Prop :=
  request.security = some .tls ∨ t.enabled = false ∨ request.path ∈ Paths.probes ∨ Vouched t request

namespace Gate

theorem decide_eq_ok_iff {t : TlsSettings} {request : Request} :
    (ofSettings t).decide request = .ok () ↔ Admits t request := by
  have henabled : (ofSettings t).tlsEnabled = t.enabled := rfl
  unfold decide check Admits
  simp only [henabled, Bool.or_eq_true, decide_eq_true_eq, Bool.not_eq_true', Paths.isProbe_iff]
  split
  next hfree => simp only [true_iff]; tauto
  next hguarded =>
    simp only [not_or] at hguarded
    simp only [hguarded.1.1, hguarded.1.2, hguarded.2, false_or, Vouched, reduceCtorEq]
    cases request.peer with
    | none => simp
    | some peer =>
      simp only [Option.map_some, Option.some.injEq, exists_eq_left', ← any_trusted_iff,
        ← any_secure_iff]
      cases (ofSettings t).trusted.any (·.contains peer.ip) with
      | false => simp
      | true =>
        cases ((request.fields.first? "x-forwarded-proto").bind visible?).any
          (sameIgnoringCase · "https") <;> simp

/-- A request without a mark is taken for one in plain text. -/
theorem decide_unmarked (gate : Gate) (request : Request) :
    gate.decide { request with security := none } =
      gate.decide { request with security := some .plain } := by
  unfold decide check
  simp

end Gate

theorem Admits.mono {t t' : TlsSettings} {request : Request} (henabled : t'.enabled = t.enabled)
    (h : ∀ text, isRange text = true → text ∈ t.allowTerminationFrom →
      text ∈ t'.allowTerminationFrom) (hadmits : Admits t request) : Admits t' request := by
  rcases hadmits with hmarked | hdisabled | hprobe | ⟨peer, hpeer, hrange, hscheme⟩
  · exact .inl hmarked
  · exact .inr (.inl (henabled.trans hdisabled))
  · exact .inr (.inr (.inl hprobe))
  · obtain ⟨text, hmem, range, hparse, hcontains⟩ := hrange
    have hmem' := h text (isRange_of_parse hparse) hmem
    exact .inr (.inr (.inr ⟨peer, hpeer, ⟨text, hmem', range, hparse, hcontains⟩, hscheme⟩))

section
variable {gate : Gate} {r : Router} {request : Request}

theorem serve_layer_of_admitted (h : gate.decide request = .ok ()) :
    (r.layer gate.wrap).serve request = r.serve request := by
  unfold Router.serve Router.layer Gate.wrap
  simp only [h]

theorem serve_layer_of_refused {refusal : Refusal} (h : gate.decide request = .error refusal) :
    (r.layer gate.wrap).serve request = ⟨[.log (Gate.refusedEntry request refusal)],
      .ok ((r.route request).finish (Gate.refusedResponse refusal))⟩ := by
  unfold Router.serve Router.layer Gate.wrap
  simp only [h]
  rfl

end

def Stage.isGate : Stage → Bool
  | .gate _ => true
  | _ => false

def ungated (p : Pipeline) : Pipeline := { p with stages := p.stages.filter (!·.isGate) }

section
variable {s : Settings} {i : Interface} {gateRequired : Bool} {custom : List Middleware}
  {routes : Router}

theorem gate_mem_compose {gate : Gate} :
    .gate gate ∈ (Pipeline.compose s i gateRequired custom routes).1.stages ↔
      gateRequired = true ∧ gate = .ofSettings (s.tls i) := by
  cases gateRequired <;> simp [compose, stagesOf, Gate.ofSettings]

theorem ungated_compose :
    (Pipeline.compose s i gateRequired custom routes).1.ungated =
      (Pipeline.compose s i false custom routes).1 := by
  cases gateRequired <;> simp [compose, stagesOf, ungated, Stage.isGate]

end

/-- The whole run: the refusal is logged and answered, and of the stages inside nothing comes out.
`finish` is what the routes do to any answer. -/
structure RefusedBy (refusal : Refusal) (request : Request) (finish : Response → Response)
    (run : Run Response) : Prop where
  run_eq : run = ⟨[.log (Gate.refusedEntry request refusal)],
    .ok (finish (Gate.refusedResponse refusal))⟩
  status : (finish (Gate.refusedResponse refusal)).status = 400
  fields : ∀ field ∈ (finish (Gate.refusedResponse refusal)).fields,
    field.1 ∈ ["content-type", "allow", "content-length"]

theorem refusedBy_layer {gate : Gate} {r : Router} {table : RouteTable} {request : Request}
    {refusal : Refusal} (h : gate.decide request = .error refusal)
    (hfinish : (r.route request).finish = (table.router.route request).finish) :
    RefusedBy refusal request (table.router.route request).finish
      ((r.layer gate.wrap).serve request) where
  run_eq := by rw [serve_layer_of_refused h, hfinish]
  status := table.finish_status request _
  fields := by
    intro field hfield
    rcases table.fst_of_mem_finish request _ hfield with hrefused | hallow | hlength
    · rw [List.mem_singleton.mp hrefused]
      exact List.mem_cons_self
    · rw [hallow]
      decide
    · rw [hlength]
      decide

/-- A gate in front of a pipeline decides by the settings that it was composed of and by the request
alone. Who is admitted gets what the stages inside answer; who is not gets a refusal with status
400, and of the stages inside none has run. The ranges count as a set. -/
theorem gated_pipeline_admits_iff (s current : Settings) (i : Interface) (custom : List Middleware)
    (table : RouteTable) (request : Request) :
    let t := s.tls i
    let gate := Gate.ofSettings t
    let withRanges ranges := Gate.ofSettings { t with allowTerminationFrom := ranges }
    let gated := (Pipeline.compose s i true custom table.router).1
    let inside := (Pipeline.compose s i false custom table.router).1
    gated.stages = .gate gate :: inside.stages ∧
    (gate.decide request = .ok () ↔ Admits t request) ∧
    (match gate.decide request with
      | .ok () => (gated.router current).serve request = (inside.router current).serve request
      | .error refusal => RefusedBy refusal request (table.router.route request).finish
          ((gated.router current).serve request)) ∧
    gate.decide { request with security := none } =
      gate.decide { request with security := some .plain } ∧
    (∀ ranges, (∀ text, isRange text = true → (text ∈ ranges ↔ text ∈ t.allowTerminationFrom)) →
      (withRanges ranges).decide request = gate.decide request) ∧
    (∀ ranges, (∀ text, isRange text = true → text ∈ t.allowTerminationFrom → text ∈ ranges) →
      gate.decide request = .ok () → (withRanges ranges).decide request = .ok ()) := by
  intro t gate withRanges gated inside
  have hrouter : gated.router current = (inside.router current).layer gate.wrap := rfl
  have hfinish : ((inside.router current).route request).finish =
      (table.router.route request).finish := inside.finish_router current request
  refine ⟨rfl, Gate.decide_eq_ok_iff, ?_, gate.decide_unmarked request, ?_, ?_⟩
  · rw [hrouter]
    split
    next hadmitted => exact serve_layer_of_admitted hadmitted
    next refusal hrefused => exact refusedBy_layer hrefused hfinish
  · intro ranges hranges
    have henabled : (withRanges ranges).tlsEnabled = gate.tlsEnabled := rfl
    refine Gate.decide_congr henabled (fun range => ?_) request
    exact ⟨Gate.trusted_subset (fun text hrange => (hranges text hrange).mp) range,
      Gate.trusted_subset (fun text hrange => (hranges text hrange).mpr) range⟩
  · intro ranges hranges hadmitted
    have hadmits : Admits t request := Gate.decide_eq_ok_iff.mp hadmitted
    have henabled : ({ t with allowTerminationFrom := ranges } : TlsSettings).enabled = t.enabled :=
      rfl
    exact Gate.decide_eq_ok_iff.mpr (hadmits.mono henabled hranges)

end DualServer.Pipeline
