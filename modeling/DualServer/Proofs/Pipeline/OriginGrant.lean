import DualServer.Proofs.Http.Fields
import DualServer.Proofs.Pipeline.CorsClash

/-! Which origin an answer grants access to. The policy of the interface and the first origin of the
request decide it, for a preflight and for any other request alike. -/
namespace DualServer.Pipeline
open DualServer.Config DualServer.Http

/-- The fields of an answer that tell a browser about other origins. -/
def IsPolicyField (name : String) : Prop := "access-control-".toList <+: name.toList

instance (name : String) : Decidable (IsPolicyField name) :=
  inferInstanceAs (Decidable ("access-control-".toList <+: name.toList))

/-- A service that leaves the policy for other origins to the stage around it. -/
def SetsNoPolicy (service : Service) : Prop :=
  ∀ request response, (service request).result = .ok response →
    ∀ field ∈ response.fields, ¬ IsPolicyField field.1

theorem SetsNoPolicy.all_eq_nil {service : Service} {request : Request} {response : Response}
    {name : String} (h : SetsNoPolicy service) (hresult : (service request).result = .ok response)
    (hname : IsPolicyField name) : response.fields.all name = [] :=
  (Fields.all_eq_nil_iff _).mpr fun field hfield heq =>
    h request response hresult field hfield (heq ▸ hname)

theorem Run.result_andThen_eq_ok_iff {α β : Type} {run : Run α} {next : α → Run β} {b : β} :
    (run.andThen next).result = .ok b ↔ ∃ a, run.result = .ok a ∧ (next a).result = .ok b := by
  unfold andThen
  cases hresult : run.result <;> simp

namespace CorsPolicy

section
variable (p : CorsPolicy) (request : Request) (response : Response) {name : String}

theorem all_optionalField (name other : String) (value : Option String) :
    (optionalField other value).all name = if other = name then value.toList else [] := by
  cases value with
  | none => simp [optionalField, Fields.all]
  | some value => exact Fields.all_singleton name (other, value)

theorem names_optionalField (name : String) (value : Option String) :
    ((optionalField name value).map (·.1)).Sublist [name] := by
  cases value with
  | none => exact List.nil_sublist _
  | some value => exact List.Sublist.refl _

theorem names_answerFields : ((p.answerFields request).map (·.1)).Sublist
    ["access-control-allow-origin", "access-control-allow-credentials",
      "access-control-expose-headers"] := by
  rw [answerFields, commonFields, List.map_append, List.map_append]
  exact ((names_optionalField ..).append (names_optionalField ..)).append (names_optionalField ..)

theorem isPolicyField_of_mem_answerFields {field : String × String}
    (h : field ∈ p.answerFields request) : IsPolicyField field.1 := by
  have hnames : ∀ name ∈ ["access-control-allow-origin", "access-control-allow-credentials",
      "access-control-expose-headers"], IsPolicyField name := by decide
  exact hnames _ ((p.names_answerFields request).subset (List.mem_map_of_mem h))

theorem nodup_answerFields : ((p.answerFields request).map (·.1)).Nodup :=
  (p.names_answerFields request).nodup (by decide)

theorem all_decorate (name : String) :
    (p.decorate request response).fields.all name =
      if (p.answerFields request).all name = [] then (response.fields.add "vary" varyValue).all name
      else (p.answerFields request).all name :=
  Fields.all_foldl_set _ _ _ (p.nodup_answerFields request)

/-- A field of the policy comes from the policy alone, if the answer had none of that name. -/
theorem all_decorate_of_absent (hname : name ≠ "vary") (habsent : response.fields.all name = []) :
    (p.decorate request response).fields.all name = (p.answerFields request).all name := by
  rw [all_decorate, Fields.all_add_of_ne _ _ hname.symm, habsent]
  split
  next hnone => exact hnone.symm
  next => rfl

theorem allowOrigin_commonFields : (p.commonFields request).all "access-control-allow-origin" =
    (p.grantedOrigin (request.fields.first? "origin")).toList := by
  simp [commonFields, Fields.all_append, all_optionalField]

theorem credentials_commonFields :
    (p.commonFields request).all "access-control-allow-credentials" =
      if p.credentials then ["true"] else [] := by
  cases h : p.credentials <;> simp [commonFields, Fields.all_append, all_optionalField, h]

end

/-- The fields that every answer under a policy has, to whatever kind of request. -/
def commonNames : List String := ["access-control-allow-origin", "access-control-allow-credentials"]

section
variable {p : CorsPolicy} {request : Request} {name : String}

theorem all_answerFields_of_common (h : name ∈ commonNames) :
    (p.answerFields request).all name = (p.commonFields request).all name := by
  have hother : ∀ name ∈ commonNames, "access-control-expose-headers" ≠ name := by decide
  rw [answerFields, Fields.all_append, all_optionalField, if_neg (hother name h), List.append_nil]

theorem all_preflight_of_common (h : name ∈ commonNames) :
    (p.preflight request).fields.all name = (p.commonFields request).all name := by
  have hother : ∀ name ∈ commonNames, "access-control-allow-methods" ≠ name ∧
      "access-control-allow-headers" ≠ name ∧ "access-control-max-age" ≠ name ∧ "vary" ≠ name := by
    decide
  obtain ⟨hmethods, hheaders, hage, hvary⟩ := hother name h
  simp only [preflight, Fields.all_append, Fields.all_singleton, all_optionalField, if_neg hmethods,
    if_neg hheaders, if_neg hage, if_neg hvary, List.append_nil]

end

section
variable {c : CorsSettings} {origin : Option String}

theorem grantedOrigin_of_listed (h : "*" ∉ c.allowedOrigins) {value : String} :
    (ofSettings c).grantedOrigin origin = some value ↔
      origin = some value ∧ value ∈ c.allowedOrigins ∧ isFieldValue value = true := by
  have hrule : (ofSettings c).origin = .listed (c.allowedOrigins.filter isFieldValue) := by
    simp [ofSettings, originRule, h]
  simp [grantedOrigin, hrule, Option.filter_eq_some_iff]

theorem grantedOrigin_of_wildcard (h : "*" ∈ c.allowedOrigins) :
    (ofSettings c).grantedOrigin origin = if c.allowCredentials then origin else some "*" := by
  cases hcredentials : c.allowCredentials <;>
    simp [grantedOrigin, ofSettings, originRule, h, hcredentials]

end

end CorsPolicy

section
variable {c : CorsSettings} {inner : Service} {request : Request} {response : Response}

theorem corsStage_of_preflight (henabled : c.enabled = true)
    (hbuilds : (CorsPolicy.ofSettings c).clash? = none) (hmethod : request.method = "OPTIONS") :
    corsStage c inner request = .ofValue ((CorsPolicy.ofSettings c).preflight request) := by
  unfold corsStage
  simp [henabled, hbuilds, hmethod]

theorem corsStage_of_actual (henabled : c.enabled = true)
    (hbuilds : (CorsPolicy.ofSettings c).clash? = none) (hmethod : request.method ≠ "OPTIONS") :
    corsStage c inner request = (inner request).andThen fun response =>
      .ofValue ((CorsPolicy.ofSettings c).decorate request response) := by
  unfold corsStage
  simp [henabled, hbuilds, hmethod]

theorem answers_corsStage_iff (henabled : c.enabled = true)
    (hbuilds : (CorsPolicy.ofSettings c).clash? = none) :
    (∃ response, (corsStage c inner request).result = .ok response) ↔
      request.method = "OPTIONS" ∨ ∃ response, (inner request).result = .ok response := by
  by_cases hmethod : request.method = "OPTIONS"
  · rw [corsStage_of_preflight henabled hbuilds hmethod]
    exact iff_of_true ⟨_, rfl⟩ (.inl hmethod)
  · rw [corsStage_of_actual henabled hbuilds hmethod]
    simp only [hmethod, false_or, Run.result_andThen_eq_ok_iff]
    exact ⟨fun ⟨_, plain, hplain, _⟩ => ⟨plain, hplain⟩,
      fun ⟨plain, hplain⟩ => ⟨_, plain, hplain, rfl⟩⟩

/-- What an answer says of the origin and of credentials is the policy's word, to whatever kind of
request. -/
theorem all_corsStage_of_common {name : String} (henabled : c.enabled = true)
    (hbuilds : (CorsPolicy.ofSettings c).clash? = none) (hinner : SetsNoPolicy inner)
    (hresult : (corsStage c inner request).result = .ok response)
    (hname : name ∈ CorsPolicy.commonNames) :
    response.fields.all name = ((CorsPolicy.ofSettings c).commonFields request).all name := by
  by_cases hmethod : request.method = "OPTIONS"
  · rw [corsStage_of_preflight henabled hbuilds hmethod] at hresult
    cases hresult
    exact CorsPolicy.all_preflight_of_common hname
  · rw [corsStage_of_actual henabled hbuilds hmethod] at hresult
    obtain ⟨plain, hplain, hdecorated⟩ := Run.result_andThen_eq_ok_iff.mp hresult
    cases hdecorated
    have hpolicy : ∀ name ∈ CorsPolicy.commonNames, IsPolicyField name ∧ name ≠ "vary" := by decide
    rw [CorsPolicy.all_decorate_of_absent _ _ _ (hpolicy name hname).2
      (hinner.all_eq_nil hplain (hpolicy name hname).1)]
    exact CorsPolicy.all_answerFields_of_common hname

theorem allowOrigin_corsStage (henabled : c.enabled = true)
    (hbuilds : (CorsPolicy.ofSettings c).clash? = none) (hinner : SetsNoPolicy inner)
    (hresult : (corsStage c inner request).result = .ok response) :
    response.fields.all "access-control-allow-origin" =
      ((CorsPolicy.ofSettings c).grantedOrigin (request.fields.first? "origin")).toList :=
  (all_corsStage_of_common henabled hbuilds hinner hresult (by decide)).trans
    (CorsPolicy.allowOrigin_commonFields _ request)

theorem allowCredentials_of_mem (henabled : c.enabled = true)
    (hbuilds : (CorsPolicy.ofSettings c).clash? = none) (hinner : SetsNoPolicy inner)
    (hresult : (corsStage c inner request).result = .ok response)
    (hmem : "true" ∈ response.fields.all "access-control-allow-credentials") :
    c.allowCredentials = true := by
  rw [all_corsStage_of_common henabled hbuilds hinner hresult (by decide),
    CorsPolicy.credentials_commonFields] at hmem
  have hcredentials : (CorsPolicy.ofSettings c).credentials = true := by
    by_cases hcredentials : (CorsPolicy.ofSettings c).credentials = true
    · exact hcredentials
    · simp [hcredentials] at hmem
  simpa [CorsPolicy.ofSettings] using hcredentials

end

/-- An answer grants access to the first origin of its request exactly if that is listed, letter for
letter, and a valid value. A wildcard echoes it beside credentials and grants all without them. What
is granted depends on the origin and on the policy of this interface alone. -/
theorem origin_granted_exactly (current : Settings) (i : Interface) (inner : Service)
    (henabled : (current.cors i).enabled = true)
    (hbuilds : (CorsPolicy.ofSettings (current.cors i)).clash? = none)
    (hinner : SetsNoPolicy inner) (request : Request) :
    let c := current.cors i
    let answer := (Stage.cors i).wrap current inner request
    let origin := request.fields.first? "origin"
    ((∃ response, answer.result = .ok response) ↔
      request.method = "OPTIONS" ∨ ∃ response, (inner request).result = .ok response) ∧
    ∀ response, answer.result = .ok response →
      let allowed := response.fields.all "access-control-allow-origin"
      ("*" ∉ c.allowedOrigins →
        (∀ value, value ∈ allowed ↔
          origin = some value ∧ value ∈ c.allowedOrigins ∧ isFieldValue value = true) ∧
        allowed.length ≤ 1 ∧
        ∀ value, origin = some value → value ∉ c.allowedOrigins → allowed = []) ∧
      ("*" ∈ c.allowedOrigins →
        allowed = if c.allowCredentials then origin.toList else ["*"]) ∧
      ("*" ∈ allowed → "true" ∈ response.fields.all "access-control-allow-credentials" →
        origin = some "*") ∧
      ∀ current' inner' request' response', current'.cors i = c → SetsNoPolicy inner' →
        request'.fields.first? "origin" = origin →
        ((Stage.cors i).wrap current' inner' request').result = .ok response' →
        response'.fields.all "access-control-allow-origin" = allowed := by
  intro c answer origin
  refine ⟨answers_corsStage_iff henabled hbuilds, ?_⟩
  intro response hresponse allowed
  have hallowed : allowed = ((CorsPolicy.ofSettings c).grantedOrigin origin).toList :=
    allowOrigin_corsStage henabled hbuilds hinner hresponse
  have hlisted : "*" ∉ c.allowedOrigins → ∀ value, value ∈ allowed ↔
      origin = some value ∧ value ∈ c.allowedOrigins ∧ isFieldValue value = true := by
    intro hwildcard value
    rw [hallowed, Option.mem_toList, CorsPolicy.grantedOrigin_of_listed hwildcard]
  have hwild : "*" ∈ c.allowedOrigins →
      allowed = if c.allowCredentials then origin.toList else ["*"] := by
    intro hwildcard
    rw [hallowed, CorsPolicy.grantedOrigin_of_wildcard hwildcard]
    split <;> rfl
  refine ⟨fun hwildcard => ⟨hlisted hwildcard, ?_, ?_⟩, hwild, ?_, ?_⟩
  · rw [hallowed]
    exact Option.length_toList_le
  · intro value horigin hunlisted
    refine List.eq_nil_iff_forall_not_mem.mpr fun granted hgranted => ?_
    obtain ⟨hsame, hmem, -⟩ := (hlisted hwildcard granted).mp hgranted
    cases horigin.symm.trans hsame
    exact hunlisted hmem
  · intro hstar htrue
    by_cases hwildcard : "*" ∈ c.allowedOrigins
    · have hcredentials := allowCredentials_of_mem henabled hbuilds hinner hresponse htrue
      rw [hwild hwildcard, if_pos hcredentials] at hstar
      exact Option.mem_toList.mp hstar
    · exact ((hlisted hwildcard "*").mp hstar).1
  · intro current' inner' request' response' hcors hinner' horigin hresponse'
    have henabled' : (current'.cors i).enabled = true := hcors ▸ henabled
    have hbuilds' : (CorsPolicy.ofSettings (current'.cors i)).clash? = none := hcors ▸ hbuilds
    rw [allowOrigin_corsStage henabled' hbuilds' hinner' hresponse', horigin, hcors, hallowed]

/-- A listed origin, and a service that has a field of its own. -/
theorem origin_granted_exactly_listed :
    let c : CorsSettings := { enabled := true, allowedOrigins := ["https://app.example"] }
    let s : Settings := { serve := { «public» := { port := 4444, cors := c } } }
    let inner : Service := fun _ => .ofValue { fields := [("vary", "accept")] }
    let request : Request := { path := "/", fields := [("origin", "https://app.example")] }
    c.enabled = true ∧ (CorsPolicy.ofSettings c).clash? = none ∧ SetsNoPolicy inner ∧
    ∃ response, ((Stage.cors .public).wrap s inner request).result = .ok response ∧
      "https://app.example" ∈ response.fields.all "access-control-allow-origin" := by
  intro c s inner request
  have hbuilds : (CorsPolicy.ofSettings c).clash? = none := by decide +kernel
  have hinner : SetsNoPolicy inner := by
    intro _ response hresult
    cases hresult
    decide
  obtain ⟨hanswers, hgranted⟩ := origin_granted_exactly s .public inner rfl hbuilds hinner request
  obtain ⟨response, hresponse⟩ := hanswers.mpr (.inr ⟨_, rfl⟩)
  refine ⟨rfl, hbuilds, hinner, response, hresponse, ?_⟩
  have hlisted := ((hgranted response hresponse).1 (by decide)).1 "https://app.example"
  exact hlisted.mpr ⟨rfl, by decide, by decide +kernel⟩

end DualServer.Pipeline
