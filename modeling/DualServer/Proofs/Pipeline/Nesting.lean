import Mathlib.Data.List.Range
import DualServer.Pipeline.Conduct
import DualServer.Proofs.Lifecycle.Setup
import DualServer.Proofs.Pipeline.Admission

/-! The stages of a pipeline as one nest around the routes, and how a request goes through it.
`Traces` says step by step which stages are entered and left, as the conduct of each one asks for;
it agrees with the nest, and its marks show the order. -/
namespace DualServer.Pipeline
open DualServer.Config DualServer.Http

/-- The stages around a core, the outermost first. -/
def around (core : Service) (stages : List Script) : Service := stages.foldr Script.wrap core

/-- What the outermost of the stages does, or the core if there is none. -/
def first (core : Service) : List Script → Script
  | [] => fun request => .answer (core request)
  | stage :: _ => stage

theorem around_eq_first (core : Service) (stages : List Script) (request : Request) :
    around core stages request = (first core stages request).run (around core stages.tail) := by
  cases stages <;> rfl

/-- Places are counted from the outside in; the place after the last stage is the core's. -/
inductive Mark
  | entered (place : Nat) (request : Request)
  | did (effect : Effect)
  | left (place : Nat) (result : Except String Response)

/-- What a stage makes of a request, if the given stages stand inside it from the given place on.
One that answers leaves no mark of them. One that forwards a request has it enter the next place,
and goes on with the response when that place is left. -/
inductive Traces (core : Service) :
    List Script → Nat → Conduct → List Mark → Except String Response → Prop
  | answered (inside : List Script) (place : Nat) (run : Run Response) :
    Traces core inside place (.answer run) (run.effects.map .did) run.result
  | brokeDown {inside : List Script} {place : Nat} {request : Request} {marks : List Mark}
      {message : String} (before : List Effect) (after : Response → Conduct)
      (hnext : Traces core inside.tail (place + 1) (first core inside request) marks
        (.error message)) :
    Traces core inside place (.forward before request after)
      (before.map .did ++ .entered place request :: (marks ++ [.left place (.error message)]))
      (.error message)
  | returned {inside : List Script} {place : Nat} {request : Request} {marks later : List Mark}
      {response : Response} {result : Except String Response} (before : List Effect)
      {after : Response → Conduct}
      (hnext : Traces core inside.tail (place + 1) (first core inside request) marks (.ok response))
      (hafter : Traces core inside place (after response) later result) :
    Traces core inside place (.forward before request after)
      (before.map .did ++ .entered place request :: (marks ++ .left place (.ok response) :: later))
      result

def effectsOf (marks : List Mark) : List Effect :=
  marks.filterMap fun
    | .did effect => some effect
    | _ => none

/-- How many places are open after some marks, if each place is entered from the one around it and
left when it is the innermost. -/
def walk : Nat → List Mark → Option Nat
  | depth, [] => some depth
  | depth, .entered place _ :: marks => if place = depth then walk (depth + 1) marks else none
  | depth, .did _ :: marks => walk depth marks
  | depth, .left place _ :: marks => if depth = place + 1 then walk place marks else none

inductive Crossing
  | inward (place : Nat)
  | outward (place : Nat)
  deriving DecidableEq

def crossings (marks : List Mark) : List Crossing :=
  marks.filterMap fun
    | .entered place _ => some (.inward place)
    | .did _ => none
    | .left place _ => some (.outward place)

section
variable {core : Service} {inside : List Script} {place : Nat} {conduct : Conduct}
  {marks : List Mark} {result : Except String Response}

theorem exists_traces_of_first
    (hfirst : ∀ request, ∃ marks, Traces core inside.tail (place + 1) (first core inside request)
      marks (around core inside request).result) (conduct : Conduct) :
    ∃ marks, Traces core inside place conduct marks (conduct.run (around core inside)).result := by
  induction conduct with
  | answer run => exact ⟨_, .answered inside place run⟩
  | forward before request after ih =>
    obtain ⟨marks, hmarks⟩ := hfirst request
    cases hresult : (around core inside request).result with
    | error message =>
      rw [Conduct.run_forward_of_error hresult]
      rw [hresult] at hmarks
      exact ⟨_, .brokeDown before after hmarks⟩
    | ok response =>
      obtain ⟨later, hlater⟩ := ih response
      rw [Conduct.run_forward_of_ok hresult]
      rw [hresult] at hmarks
      exact ⟨_, .returned before hmarks hlater⟩

theorem exists_traces (core : Service) (inside : List Script) (place : Nat) (conduct : Conduct) :
    ∃ marks, Traces core inside place conduct marks (conduct.run (around core inside)).result := by
  induction inside generalizing place conduct with
  | nil =>
    exact exists_traces_of_first (fun request => ⟨_, .answered [] _ (core request)⟩) conduct
  | cons stage inside ih =>
    exact exists_traces_of_first (fun request => ih (place + 1) (stage request)) conduct

theorem effectsOf_map_did (effects : List Effect) : effectsOf (effects.map .did) = effects := by
  simp [effectsOf, List.filterMap_map]

/-- The marks tell what the stages do, and nothing else. -/
theorem Traces.run_eq (h : Traces core inside place conduct marks result) :
    conduct.run (around core inside) = ⟨effectsOf marks, result⟩ := by
  induction h with
  | answered inside place run => rw [effectsOf_map_did]; rfl
  | @brokeDown inside place request marks message before after hnext ih =>
    rw [← around_eq_first] at ih
    rw [Conduct.run_forward_of_error (by rw [ih]), ih]
    simp [effectsOf]
  | @returned inside place request marks later response result before after hnext hafter ih
      ihafter =>
    rw [← around_eq_first] at ih
    rw [Conduct.run_forward_of_ok (by rw [ih]), ih, ihafter]
    simp [effectsOf]

theorem walk_append (depth : Nat) (marks marks' : List Mark) :
    walk depth (marks ++ marks') = (walk depth marks).bind (walk · marks') := by
  induction marks generalizing depth with
  | nil => rfl
  | cons mark marks ih => cases mark <;> simp only [List.cons_append, walk] <;> grind

theorem walk_map_did (depth : Nat) (effects : List Effect) :
    walk depth (effects.map .did) = some depth := by
  induction effects with
  | nil => rfl
  | cons effect effects ih => exact ih

theorem Traces.walk_eq (h : Traces core inside place conduct marks result) :
    walk place marks = some place := by
  induction h with
  | answered inside place run => exact walk_map_did place run.effects
  | brokeDown before after hnext ih => simp [walk_append, walk_map_did, walk, ih]
  | returned before hnext hafter ih ihafter =>
    simp [walk_append, walk_map_did, walk, ih, ihafter]

/-- Every place that is entered is left again, and in between are the marks of what is done there
with the request. -/
def Visits (core : Service) (stages : List Script) (marks : List Mark) : Prop :=
  ∀ place request later, .entered place request :: later <:+ marks →
    ∃ inner result rest, later = inner ++ .left place result :: rest ∧
      Traces core (stages.drop (place + 1)) (place + 1) (first core (stages.drop place) request)
        inner result

theorem Visits.append {stages : List Script} {marks' : List Mark} (h : Visits core stages marks)
    (h' : Visits core stages marks') : Visits core stages (marks ++ marks') := by
  induction marks with
  | nil => exact h'
  | cons mark marks ih =>
    intro place request later hsuffix
    rw [List.cons_append, List.suffix_cons_iff] at hsuffix
    rcases hsuffix with heq | hsuffix
    · obtain ⟨rfl, rfl⟩ := List.cons_eq_cons.mp heq
      obtain ⟨inner, result, rest, rfl, hinner⟩ := h place request marks (List.suffix_refl _)
      exact ⟨inner, result, rest ++ marks', by simp, hinner⟩
    · refine ih (fun _ _ _ hlater => h _ _ _ ?_) _ _ _ hsuffix
      exact hlater.trans (List.suffix_cons ..)

theorem visits_of_not_entered {stages : List Script}
    (h : ∀ place request, .entered place request ∉ marks) : Visits core stages marks :=
  fun place request _ hsuffix => absurd (hsuffix.subset List.mem_cons_self) (h place request)

theorem visits_map_did {stages : List Script} (effects : List Effect) :
    Visits core stages (effects.map .did) :=
  visits_of_not_entered (by simp)

theorem Visits.enclosed {stages : List Script} {request : Request}
    (h : Traces core (stages.drop (place + 1)) (place + 1) (first core (stages.drop place) request)
      marks result) (hmarks : Visits core stages marks) :
    Visits core stages (.entered place request :: (marks ++ [.left place result])) := by
  intro other request' later hsuffix
  rw [List.suffix_cons_iff] at hsuffix
  rcases hsuffix with heq | hsuffix
  · obtain ⟨hmark, rfl⟩ := List.cons_eq_cons.mp heq
    cases hmark
    exact ⟨marks, result, [], rfl, h⟩
  · exact hmarks.append (visits_of_not_entered (by simp)) _ _ _ hsuffix

theorem Traces.visits {stages : List Script} (h : Traces core inside place conduct marks result)
    (hinside : inside = stages.drop place) : Visits core stages marks := by
  induction h with
  | answered inside place run => exact visits_map_did run.effects
  | brokeDown before after hnext ih =>
    subst hinside
    rw [List.tail_drop] at hnext ih
    exact (visits_map_did before).append ((ih rfl).enclosed hnext)
  | @returned inside place request marks later response result before after hnext hafter ih
      ihafter =>
    subst hinside
    rw [List.tail_drop] at hnext ih
    have hmarks := (visits_map_did before).append (((ih rfl).enclosed hnext).append (ihafter rfl))
    simpa using hmarks

/-- A stage that answers a request by itself, or the core, is left with that answer before any place
inside is entered. -/
def AnswersAlone (core : Service) (stages : List Script) (marks : List Mark) : Prop :=
  ∀ place request run later, .entered place request :: later <:+ marks →
    first core (stages.drop place) request = .answer run →
    run.effects.map .did ++ [.left place run.result] <+: later

theorem Visits.answersAlone {stages : List Script} (h : Visits core stages marks) :
    AnswersAlone core stages marks := by
  intro place request run later hsuffix hanswer
  obtain ⟨inner, result, rest, rfl, hinner⟩ := h place request later hsuffix
  rw [hanswer] at hinner
  cases hinner
  exact ⟨rest, by simp⟩

/-- Inward over so many places, and back. -/
def thereAndBack (place depth : Nat) : List Crossing :=
  (List.range' place depth).map .inward ++ (List.range' place depth).reverse.map .outward

theorem thereAndBack_succ (place depth : Nat) :
    thereAndBack place (depth + 1) =
      .inward place :: (thereAndBack (place + 1) depth ++ [.outward place]) := by
  simp [thereAndBack, List.range'_succ]

theorem crossings_append (marks marks' : List Mark) :
    crossings (marks ++ marks') = crossings marks ++ crossings marks' := List.filterMap_append ..

theorem crossings_map_did (effects : List Effect) : crossings (effects.map .did) = [] := by
  simp [crossings, List.filterMap_map]

theorem Traces.crossings_of_answer {run : Run Response}
    (h : Traces core inside place (.answer run) marks result) : crossings marks = [] := by
  cases h
  exact crossings_map_did run.effects

/-- The core forwards nothing, so the way in ends there at the latest. -/
theorem Traces.exists_depth {request : Request}
    (h : Traces core inside.tail (place + 1) (first core inside request) marks result)
    (hinside : ∀ stage ∈ inside, stage.AtMostOnce)
    (ih : (first core inside request).AtMostOnce → (∀ stage ∈ inside.tail, stage.AtMostOnce) →
      ∃ depth ≤ inside.tail.length + 1, crossings marks = thereAndBack (place + 1) depth) :
    ∃ depth ≤ inside.length, crossings marks = thereAndBack (place + 1) depth := by
  cases inside with
  | nil => exact ⟨0, Nat.le_refl _, h.crossings_of_answer⟩
  | cons stage inside =>
    exact ih (hinside stage List.mem_cons_self request)
      fun other hother => hinside other (List.mem_cons_of_mem _ hother)

/-- Stages that forward a request at most once are entered from the outside in, down to the one that
answers, and left the other way round. -/
theorem Traces.crossings_eq (h : Traces core inside place conduct marks result)
    (hconduct : conduct.AtMostOnce) (hinside : ∀ stage ∈ inside, stage.AtMostOnce) :
    ∃ depth ≤ inside.length + 1, crossings marks = thereAndBack place depth := by
  induction h with
  | answered inside place run => exact ⟨0, Nat.zero_le _, crossings_map_did run.effects⟩
  | brokeDown before after hnext ih =>
    obtain ⟨depth, hdepth, hcrossings⟩ := hnext.exists_depth hinside ih
    refine ⟨depth + 1, Nat.succ_le_succ hdepth, ?_⟩
    rw [crossings_append, crossings_map_did, thereAndBack_succ, ← hcrossings]
    simp [crossings]
  | @returned inside place request marks later response result before after hnext hafter ih =>
    obtain ⟨depth, hdepth, hcrossings⟩ := hnext.exists_depth hinside ih
    refine ⟨depth + 1, Nat.succ_le_succ hdepth, ?_⟩
    obtain ⟨run, hanswer⟩ := hconduct response
    rw [hanswer] at hafter
    have hlater : crossings later = [] := hafter.crossings_of_answer
    rw [crossings_append, crossings_map_did, thereAndBack_succ, ← hcrossings]
    simp only [crossings] at hlater ⊢
    simp [hlater]

end

/-- The stages of a pipeline by their conduct, the custom ones as given. -/
def scriptsOf (current : Settings) (gate : Option Gate) (interface : Interface)
    (custom : List Script) (log : AccessLog) (collector : Collector) : List Script :=
  (gate.map Gate.script).toList ++ [corsScript (current.cors interface)] ++ custom ++
    [log.script, collector.script]

theorem around_of_forall₂ {current : Settings} {stages : List Stage} {scripts : List Script}
    (h : List.Forall₂ (fun stage script => stage.wrap current = script.wrap) stages scripts)
    (core : Service) :
    around core scripts = stages.foldr (fun stage inner => stage.wrap current inner) core := by
  induction h with
  | nil => rfl
  | cons hwrap _ ih => rw [List.foldr_cons, hwrap, ← ih]; rfl

section
variable (current : Settings) (gate : Option Gate) (i : Interface) (log : AccessLog)
  (collector : Collector)

theorem forall₂_scriptsOf (custom : List Script) :
    List.Forall₂ (fun stage script => stage.wrap current = script.wrap)
      (stagesOf gate i (custom.map Script.wrap) log collector)
      (scriptsOf current gate i custom log collector) := by
  have hcustom : List.Forall₂ (fun stage script => Stage.wrap current stage = Script.wrap script)
      ((custom.map Script.wrap).map .custom) custom := by
    simp [List.forall₂_map_left_iff, List.forall₂_same, Stage.wrap]
  have hends : List.Forall₂ (fun stage script => Stage.wrap current stage = Script.wrap script)
      [.accessLog log, .metrics collector] [log.script, collector.script] :=
    .cons log.wrap_script.symm (.cons collector.wrap_script.symm .nil)
  have hcors : Stage.wrap current (.cors i) = (corsScript (current.cors i)).wrap :=
    (wrap_corsScript _).symm
  cases gate with
  | none => exact .cons hcors (List.rel_append hcustom hends)
  | some gate => exact .cons gate.wrap_script.symm (.cons hcors (List.rel_append hcustom hends))

theorem atMostOnce_scriptsOf {custom : List Script} (h : ∀ script ∈ custom, script.AtMostOnce) :
    ∀ script ∈ scriptsOf current gate i custom log collector, script.AtMostOnce := by
  intro script hscript
  simp only [scriptsOf, List.mem_append, Option.mem_toList, Option.map_eq_some_iff, List.mem_cons,
    List.not_mem_nil, or_false] at hscript
  rcases hscript with ((⟨gate, _, rfl⟩ | rfl) | hcustom) | rfl | rfl
  · exact gate.atMostOnce_script
  · exact atMostOnce_corsScript _
  · exact h script hcustom
  · exact log.atMostOnce_script
  · exact collector.atMostOnce_script

theorem foldr_stagesOf (custom : List Middleware) (inner : Service) :
    (stagesOf gate i custom log collector).foldr (fun stage inner => stage.wrap current inner)
        inner =
      nested current gate i custom log collector inner := by
  cases gate <;> simp [stagesOf, nested, Stage.wrap, List.foldr_map]

theorem around_scriptsOf (custom : List Script) (core : Service) :
    around core (scriptsOf current gate i custom log collector) =
      nested current gate i (custom.map Script.wrap) log collector core := by
  rw [around_of_forall₂ (forall₂_scriptsOf current gate i log collector custom), foldr_stagesOf]

theorem stageNames_stagesOf (custom : List Middleware) :
    (stagesOf gate i custom log collector).map Stage.name =
      (gate.map fun _ => "reject_insecure").toList ++
        "cors" :: List.replicate custom.length "service_locator" ++ ["access_log", "metrics"] := by
  have hcustom : (custom.map Stage.custom).map Stage.name =
      List.replicate custom.length "service_locator" := by
    rw [List.map_map]
    exact List.map_const' ..
  cases gate <;> simp [stagesOf, hcustom, Stage.name]

end

/-- The stages of a composed pipeline are one nest around the service of each route. -/
theorem router_compose (s current : Settings) (i : Interface) (gateRequired : Bool)
    (custom : List Middleware) (routes : Router) :
    (Pipeline.compose s i gateRequired custom routes).1.router current =
      routes.layer (nested current (if gateRequired then some (.ofSettings (s.tls i)) else none) i
        custom (.ofSettings s i) ⟨i, Paths.reported⟩) := by
  refine congrArg Router.mk (funext fun request => ?_)
  refine (Pipeline.route_router _ current request).trans ?_
  exact congrArg (fun service => { routes.route request with service }) (foldr_stagesOf ..)

/-- A composed pipeline is the nest of its stages around the routes, in the order in which it lists
them. A request goes through it as `Traces` says: a place is entered only from the one around it and
left only as the innermost, and one that answers by itself before any inside is entered. -/
theorem stages_nest_around_routes (s current : Settings) (i : Interface) (gateRequired : Bool)
    (custom : List Middleware) (routes : Router) :
    let gate := if gateRequired then some (Gate.ofSettings (s.tls i)) else none
    let log := AccessLog.ofSettings s i
    let collector : Collector := ⟨i, Paths.reported⟩
    let p := (Pipeline.compose s i gateRequired custom routes).1
    p.router current = routes.layer (nested current gate i custom log collector) ∧
    p.stageNames = (if gateRequired then ["reject_insecure"] else []) ++
      "cors" :: List.replicate custom.length "service_locator" ++ ["access_log", "metrics"] ∧
    p.stageNames.length = custom.length + (if gateRequired then 4 else 3) ∧
    p.hasGate = gateRequired ∧
    ∀ scripts : List Script, custom = scripts.map Script.wrap → ∀ request,
      let stages := scriptsOf current gate i scripts log collector
      let core := (routes.route request).service
      let run := nested current gate i custom log collector core request
      (p.router current).serve request =
        (run.andThen fun response => .ofValue ((routes.route request).finish response)) ∧
      List.Forall₂ (fun stage script => stage.wrap current = script.wrap) p.stages stages ∧
      (∃ marks, Traces core stages 0 (.pass request) marks run.result) ∧
      ∀ marks result, Traces core stages 0 (.pass request) marks result →
        run = ⟨effectsOf marks, result⟩ ∧ walk 0 marks = some 0 ∧
        Visits core stages marks ∧ AnswersAlone core stages marks ∧
        ((∀ script ∈ scripts, script.AtMostOnce) →
          ∃ depth ≤ stages.length + 1, crossings marks = thereAndBack 0 depth) := by
  intro gate log collector p
  have hrouter : p.router current = routes.layer (nested current gate i custom log collector) :=
    router_compose s current i gateRequired custom routes
  have hnames : p.stageNames = (if gateRequired then ["reject_insecure"] else []) ++
      "cors" :: List.replicate custom.length "service_locator" ++ ["access_log", "metrics"] := by
    refine (stageNames_stagesOf gate i log collector custom).trans ?_
    cases gateRequired <;> rfl
  refine ⟨hrouter, hnames, ?_, Lifecycle.hasGate_compose .., ?_⟩
  · rw [hnames]
    cases gateRequired <;> simp
  · rintro scripts rfl request stages core run
    have hpass : (Conduct.pass request).run (around core stages) = run := by
      rw [Conduct.run_pass, around_scriptsOf]
    refine ⟨by rw [hrouter]; rfl, forall₂_scriptsOf current gate i log collector scripts, ?_, ?_⟩
    · rw [← hpass]
      exact exists_traces core stages 0 (.pass request)
    · intro marks result htraces
      have hvisits : Visits core stages marks := htraces.visits rfl
      refine ⟨hpass.symm.trans htraces.run_eq, htraces.walk_eq, hvisits, hvisits.answersAlone, ?_⟩
      intro hscripts
      exact htraces.crossings_eq (Conduct.atMostOnce_pass request)
        (atMostOnce_scriptsOf current gate i log collector hscripts)

end DualServer.Pipeline
