import DualServer.Pipeline.Compose
import DualServer.Pipeline.RouteTable

/-! What is done to an answer after every stage: a known path lists its methods and tells the
length. The status stays, and no other field comes in. -/
namespace DualServer.Pipeline
open DualServer.Http

theorem finishKnown_status (method : String) (allow : Option String) (r : Response) :
    (finishKnown method allow r).status = r.status := by
  unfold finishKnown
  split
  · rfl
  · simp only
    split <;> rfl

theorem fst_of_mem_setIfAbsent {fields : Fields} {name value : String} {field : String × String}
    (h : field ∈ fields.setIfAbsent name value) : field ∈ fields ∨ field.1 = name := by
  unfold Fields.setIfAbsent at h
  split at h
  · exact .inl h
  · rcases List.mem_append.mp h with hold | hnew
    · exact .inl hold
    · exact .inr (congrArg Prod.fst (List.mem_singleton.mp hnew))

theorem fst_of_mem_withLength {r : Response} {field : String × String}
    (h : field ∈ (withLength r).fields) : field ∈ r.fields ∨ field.1 = "content-length" :=
  fst_of_mem_setIfAbsent h

theorem fst_of_mem_finishKnown {method : String} {allow : Option String} {r : Response}
    {field : String × String} (h : field ∈ (finishKnown method allow r).fields) :
    field ∈ r.fields ∨ field.1 = "allow" ∨ field.1 = "content-length" := by
  unfold finishKnown at h
  split at h
  · exact .inl h
  · cases allow with
    | none =>
      have hlength : field ∈ (withLength r).fields := by
        simp only at h
        split at h <;> exact h
      exact (fst_of_mem_withLength hlength).imp_right .inr
    | some methods =>
      have hlength : field ∈
          (withLength { r with fields := r.fields.setIfAbsent "allow" methods }).fields := by
        simp only at h
        split at h <;> exact h
      rcases fst_of_mem_withLength hlength with hlisted | hlength
      · exact (fst_of_mem_setIfAbsent hlisted).imp_right .inl
      · exact .inr (.inr hlength)

theorem RouteTable.finish_router (table : RouteTable) (request : Request) :
    (table.router.route request).finish = id ∨
      ∃ allow, (table.router.route request).finish = finishKnown request.method allow := by
  unfold RouteTable.router
  simp only
  split
  · split
    · exact .inr ⟨none, rfl⟩
    · split
      · exact .inl rfl
      · exact .inr ⟨none, rfl⟩
  next r _ =>
    split
    · exact .inr ⟨none, rfl⟩
    · exact .inr ⟨r.allowed?, rfl⟩

section
variable (table : RouteTable) (request : Request) (response : Response)

theorem RouteTable.finish_status :
    ((table.router.route request).finish response).status = response.status := by
  rcases table.finish_router request with hid | ⟨allow, hknown⟩
  · rw [hid, id]
  · rw [hknown, finishKnown_status]

theorem RouteTable.fst_of_mem_finish {field : String × String}
    (h : field ∈ ((table.router.route request).finish response).fields) :
    field ∈ response.fields ∨ field.1 = "allow" ∨ field.1 = "content-length" := by
  rcases table.finish_router request with hid | ⟨allow, hknown⟩
  · rw [hid] at h
    exact .inl h
  · rw [hknown] at h
    exact fst_of_mem_finishKnown h

end

end DualServer.Pipeline

namespace DualServer
open DualServer.Config DualServer.Http DualServer.Pipeline

/-- The stages stand around the service of an endpoint; what is done on the way out stays. -/
theorem Pipeline.route_router (p : Pipeline) (current : Settings) (request : Request) :
    (p.router current).route request =
      { p.routes.route request with
        service := p.stages.foldr (fun stage inner => stage.wrap current inner)
          (p.routes.route request).service } := by
  unfold router
  induction p.stages with
  | nil => rfl
  | cons stage stages ih =>
    simp only [List.foldr_cons, Router.layer] at ih ⊢
    rw [ih]

theorem Pipeline.finish_router (p : Pipeline) (current : Settings) (request : Request) :
    ((p.router current).route request).finish = (p.routes.route request).finish := by
  rw [route_router]

theorem Pipeline.route_congr {p : Pipeline} {current : Settings} {request request' : Request}
    (h : p.routes.route request = p.routes.route request') :
    (p.router current).route request = (p.router current).route request' := by
  rw [route_router, route_router, h]

end DualServer
