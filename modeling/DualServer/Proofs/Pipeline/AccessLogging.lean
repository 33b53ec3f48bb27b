import DualServer.Pipeline.AccessLog
import DualServer.Proofs.Http.Fields

/-! What the access log does to a request and to its answer. A path that any list leaves out goes
through unseen; any other request is told of before and after, and carries one identifier, which its
answer gets back in place of all that the service may have put there. -/
namespace DualServer.Pipeline
open DualServer.Http

namespace AccessLog

theorem excluded_foldl (log : AccessLog) (lists : List (List String)) :
    (lists.foldl exclude log).excluded = log.excluded ++ lists.flatten := by
  induction lists generalizing log with
  | nil => simp
  | cons paths lists ih =>
    rw [List.foldl_cons, ih, exclude, List.flatten_cons, List.append_assoc]

theorem isExcluded_foldl_iff {log : AccessLog} {lists : List (List String)} {path : String} :
    (lists.foldl exclude log).isExcluded path = true ↔
      path ∈ log.excluded ∨ ∃ paths ∈ lists, path ∈ paths := by
  rw [isExcluded, excluded_foldl, List.contains_iff_mem, List.mem_append, List.mem_flatten]

/-- A request as it is handed on: with an identifier as the first one, which is its own if it has
any, and else is added. -/
structure HandedOn (id : String) (request seen : Request) : Prop where
  first : seen.fields.first? requestIdField = some id
  fields : seen.fields =
    if request.fields.all requestIdField = [] then request.fields.add requestIdField id
    else request.fields
  rest : seen = { request with fields := seen.fields }

/-- An answer as it is given back: with one identifier, and all else as it was. -/
structure GivenBack (id : String) (response answer : Response) : Prop where
  ids : answer.fields.all requestIdField = [id]
  others : answer.fields.without requestIdField = response.fields.without requestIdField
  status : answer.status = response.status
  body : answer.body = response.body

theorem handedOn_identified (request : Request) :
    HandedOn (requestId request) request (identified request) := by
  unfold identified requestId
  split
  next hown =>
    have hall : request.fields.all requestIdField ≠ [] := (Fields.has_eq_true_iff _).mp hown
    obtain ⟨id, others, hids⟩ := List.exists_cons_of_ne_nil hall
    have hfirst : request.fields.first? requestIdField = some id := by
      rw [Fields.first?, hids, List.head?_cons]
    refine ⟨?_, (if_neg hall).symm, rfl⟩
    rw [hfirst, Option.getD_some]
  next hother =>
    have hall : request.fields.all requestIdField = [] :=
      Decidable.not_not.mp (mt (Fields.has_eq_true_iff _).mpr hother)
    have hfirst : request.fields.first? requestIdField = none := by
      rw [Fields.first?, hall, List.head?_nil]
    rw [hfirst, Option.getD_none]
    refine ⟨?_, (if_pos hall).symm, rfl⟩
    rw [Fields.first?, Fields.all_add_self, hall]
    rfl

theorem givenBack_set (id : String) (response : Response) :
    GivenBack id response
      { response with fields := response.fields.set requestIdField id } where
  ids := Fields.all_set_self ..
  others := Fields.without_set_self response.fields id requestIdField
  status := rfl
  body := rfl

/-- An entry that says what happened to a request, by the method and the path it came with. -/
structure Tells (message : String) (request : Request) (entry : Log.Entry) : Prop where
  message : entry.message = message
  method : entry.field? "method" = some request.method
  path : entry.field? "path" = some request.path

section
variable (log : AccessLog) (request : Request) (status : Nat)

theorem tells_startedEntry :
    Tells "started handling request" request (log.startedEntry request) where
  message := rfl
  method := by simp [Log.Entry.field?, startedEntry, Log.FieldValue.text]
  path := by simp [Log.Entry.field?, startedEntry, Log.FieldValue.text]

theorem tells_completedEntry :
    Tells "completed handling request" request (log.completedEntry request status) where
  message := rfl
  method := by simp [Log.Entry.field?, completedEntry, Log.FieldValue.text]
  path := by simp [Log.Entry.field?, completedEntry, Log.FieldValue.text]

theorem status_completedEntry :
    (log.completedEntry request status).field? "status" = some (toString status) := by
  simp [Log.Entry.field?, completedEntry, Log.FieldValue.text]

end

section
variable {log : AccessLog} {inner : Service} {request : Request}

theorem wrap_of_excluded (h : log.isExcluded request.path = true) :
    log.wrap inner request = inner request := by
  rw [wrap, if_pos h]

theorem wrap_of_answered (h : log.isExcluded request.path ≠ true) {response : Response}
    (hinner : (inner (identified request)).result = .ok response) :
    log.wrap inner request =
      ⟨.log (log.startedEntry request) :: (inner (identified request)).effects ++
          [.log (log.completedEntry request response.status)],
        .ok { response with
          fields := response.fields.set requestIdField (requestId request) }⟩ := by
  rw [wrap, if_neg h]
  simp [Run.log, Run.andThen, Run.ofValue, hinner]

end

/-- A request to a path that one of the lists leaves out goes through as it is. Any other is handed
on with an identifier, its own first one or a fresh one, which its answer carries, too; one entry
tells that the request came and one that it was answered. -/
theorem request_logged_and_identified (base : AccessLog) (lists : List (List String))
    (request : Request) (inner : Service) :
    let log := lists.foldl exclude base
    let excluded := request.path ∈ base.excluded ∨ ∃ paths ∈ lists, request.path ∈ paths
    let id := (request.fields.first? requestIdField).getD request.freshId
    (excluded → log.wrap inner request = inner request) ∧
    (¬ excluded → ∃ seen, HandedOn id request seen ∧
      ∀ response, (inner seen).result = .ok response →
        ∃ started completed answer,
          log.wrap inner request =
            ⟨.log started :: (inner seen).effects ++ [.log completed], .ok answer⟩ ∧
          Tells "started handling request" request started ∧
          Tells "completed handling request" request completed ∧
          completed.field? "status" = some (toString response.status) ∧
          GivenBack id response answer) := by
  intro log excluded id
  have hexcluded : log.isExcluded request.path = true ↔ excluded := isExcluded_foldl_iff
  refine ⟨fun h => wrap_of_excluded (hexcluded.mpr h), fun h => ?_⟩
  refine ⟨identified request, handedOn_identified request, fun response hinner => ?_⟩
  exact ⟨_, _, _, wrap_of_answered (mt hexcluded.mp h) hinner, log.tells_startedEntry request,
    log.tells_completedEntry request response.status,
    log.status_completedEntry request response.status, givenBack_set id response⟩

end AccessLog
end DualServer.Pipeline
