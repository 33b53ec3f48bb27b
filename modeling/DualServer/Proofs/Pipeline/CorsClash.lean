import DualServer.Config.Live
import DualServer.Pipeline.Compose

/-! When the policy for other origins breaks down. Credentials do not go with a list that joins to a
lone `*`, and only the origins are kept from it: the other lists are taken as they are configured,
and no check of the settings looks at them. -/
namespace DualServer.Pipeline
open DualServer.Config DualServer.Http

/-- Every request gets an answer. -/
def Answers (service : Service) : Prop :=
  ∀ request, ∃ response, (service request).result = .ok response

theorem Run.exists_result_andThen {α β : Type} {run : Run α} {next : α → Run β}
    (hrun : ∃ a, run.result = .ok a) (hnext : ∀ a, ∃ b, (next a).result = .ok b) :
    ∃ b, (run.andThen next).result = .ok b := by
  obtain ⟨a, ha⟩ := hrun
  obtain ⟨b, hb⟩ := hnext a
  refine ⟨b, ?_⟩
  unfold andThen
  rw [ha]
  exact hb

theorem joined?_eq_wildcard_iff {items : List String} :
    joined? items = some "*" ↔ items = ["*"] := by
  match items with
  | [] => simp [joined?]
  | [item] => simp [joined?]
  | first :: second :: rest =>
    have hcomma : String.intercalate "," (first :: second :: rest) ≠ "*" := by
      intro h
      have hmem : ',' ∈ (String.intercalate "," (first :: second :: rest)).toList := by
        rw [String.intercalate_cons_cons]
        simp
      rw [h] at hmem
      exact absurd hmem (by decide)
    have hjoined : joined? (first :: second :: rest) =
        some (String.intercalate "," (first :: second :: rest)) := rfl
    rw [hjoined, Option.some_inj]
    exact iff_of_false hcomma (by simp)

section
variable {c : CorsSettings}

/-- A list of the settings of which a lone `*` is left over. -/
def LoneWildcard (c : CorsSettings) : Prop :=
  fieldNames c.allowedHeaders = ["*"] ∨ methodNames c.allowedMethods = ["*"] ∨
    fieldNames c.exposedHeaders = ["*"]

namespace CorsPolicy

/-- Beside credentials a wildcard among the origins echoes the origin that asks. -/
theorem originRule_ne_anyOrigin (h : c.allowCredentials = true) : originRule c ≠ .anyOrigin := by
  unfold originRule
  rw [h]
  split <;> simp

theorem clash?_ofSettings_eq_none_iff :
    (ofSettings c).clash? = none ↔ ¬ (c.allowCredentials = true ∧ LoneWildcard c) := by
  unfold clash? LoneWildcard
  simp only [ofSettings, joined?_eq_wildcard_iff]
  cases hcredentials : c.allowCredentials with
  | false => simp
  | true =>
    have horigin := originRule_ne_anyOrigin hcredentials
    by_cases hheaders : fieldNames c.allowedHeaders = ["*"]
    · simp [hheaders]
    by_cases hmethods : methodNames c.allowedMethods = ["*"]
    · simp [hheaders, hmethods]
    by_cases hexposed : fieldNames c.exposedHeaders = ["*"]
    · simp [hheaders, hmethods, horigin, hexposed]
    · simp [hheaders, hmethods, horigin, hexposed]

end CorsPolicy

theorem corsStage_of_disabled (h : c.enabled = false) (inner : Service) :
    corsStage c inner = inner := by
  funext request
  unfold corsStage
  rw [h]
  rfl

theorem corsStage_of_clash {field : String} (henabled : c.enabled = true)
    (hclash : (CorsPolicy.ofSettings c).clash? = some field) (inner : Service) (request : Request) :
    corsStage c inner request = .panic (CorsPolicy.clashMessage field) := by
  unfold corsStage
  simp [henabled, hclash]

theorem answers_corsStage {inner : Service} (hinner : Answers inner)
    (hclash : (CorsPolicy.ofSettings c).clash? = none) : Answers (corsStage c inner) := by
  intro request
  unfold corsStage
  split
  · exact hinner request
  · simp only [hclash]
    split
    · exact ⟨_, rfl⟩
    · exact Run.exists_result_andThen (hinner request) fun _ => ⟨_, rfl⟩

end

/-- An interface answers a request unless the policy of the moment is on, allows credentials and has
a list, other than that of the origins, of which a lone `*` is left. Under such a policy every
request breaks down. -/
theorem cors_answers_iff_no_lone_wildcard (live : Live) (i : Interface) :
    let c := live.load.cors i
    let stage := (Stage.cors i).wrap live.load
    let clashes := c.enabled = true ∧ c.allowCredentials = true ∧ LoneWildcard c
    ((∀ inner, Answers inner → Answers (stage inner)) ↔ ¬ clashes) ∧
    (clashes → ∃ field, ∀ inner request,
      stage inner request = .panic (CorsPolicy.clashMessage field)) ∧
    (c.allowCredentials = true → (CorsPolicy.ofSettings c).origin ≠ .anyOrigin) := by
  intro c stage clashes
  have hbreaks : clashes → ∃ field, ∀ inner request,
      stage inner request = .panic (CorsPolicy.clashMessage field) := by
    rintro ⟨henabled, hlone⟩
    cases hclash : (CorsPolicy.ofSettings c).clash? with
    | none => exact absurd hlone (CorsPolicy.clash?_ofSettings_eq_none_iff.mp hclash)
    | some field => exact ⟨field, corsStage_of_clash henabled hclash⟩
  refine ⟨⟨?_, ?_⟩, hbreaks, CorsPolicy.originRule_ne_anyOrigin⟩
  · intro hanswers hclashes
    obtain ⟨field, hpanic⟩ := hbreaks hclashes
    have hanswered : Answers (stage fun _ => .ofValue {}) := hanswers _ fun _ => ⟨_, rfl⟩
    obtain ⟨response, hresponse⟩ := hanswered { path := "/" }
    rw [hpanic] at hresponse
    cases hresponse
  · intro hfree inner hinner
    cases henabled : c.enabled with
    | false =>
      have hstage : stage inner = inner := corsStage_of_disabled henabled inner
      rw [hstage]
      exact hinner
    | true =>
      refine answers_corsStage hinner (CorsPolicy.clash?_ofSettings_eq_none_iff.mpr fun hlone => ?_)
      exact hfree ⟨henabled, hlone⟩

/-- Settings that are accepted, and under which every request to the interface breaks down. -/
theorem cors_breaks_down_of_valid :
    letI : UrlReader := .none
    let c : CorsSettings := { enabled := true, allowedHeaders := ["*"] }
    let s : Settings := { serve := { «public» := { port := 4444, cors := c } } }
    s.Valid ∧ ∀ (live : Live) (inner : Service) (request : Request),
      (Stage.cors .public).wrap (live.store s).load inner request =
        .panic (CorsPolicy.clashMessage "Access-Control-Allow-Headers") := by
  intro c s
  have hclash : (CorsPolicy.ofSettings c).clash? = some "Access-Control-Allow-Headers" := by
    decide +kernel
  exact ⟨by decide, fun _ => corsStage_of_clash rfl hclash⟩

end DualServer.Pipeline
