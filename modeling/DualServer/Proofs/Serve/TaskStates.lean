import DualServer.Proofs.Serve.Binding
import DualServer.Proofs.Serve.Joining

/-! The states that a serving task goes through, and what it asks for on the way. Nothing is assumed
of its means: certificates, contexts, listeners and drains may come out in any way. What a task asks
its means for is seen by looking on while they answer. -/
namespace DualServer.Serve
open DualServer.Lifecycle DualServer.Transport

def servedStates : List TaskState :=
  [.initializing, .binding, .serving, .shuttingDown, .terminated]

/-- The states of a task that has nothing to serve on. -/
def refusedStates : List TaskState := [.initializing, .binding, .bindFailed, .terminated]

inductive Ask
  | certificates (i : Interface)
  | listener (target : Target) (flags : Flags)
  deriving DecidableEq

section
variable {World : Type}

/-- The same means in a world where everything that they are asked for is written down. -/
def Means.watched (m : Means World) : Means (World × List Ask) where
  certificates w i :=
    let answer := m.certificates w.1 i
    ((answer.1, w.2 ++ [.certificates i]), answer.2)
  context := m.context
  listen w target flags :=
    let answer := m.listen w.1 target flags
    ((answer.1, w.2 ++ [.listener target flags]), answer.2)
  removeFile w path :=
    let answer := m.removeFile w.1 path
    ((answer.1, w.2), answer.2)

/-- What serving comes to, once there is something to serve on. -/
def ServingEnd.result : ServingEnd → Except Halt Unit
  | drained _ _ => .ok ()
  | panicked text => .error (.panic text)

namespace Task
variable {m : Means World} {spec : InterfaceSpec} {w : World} {asks : List Ask}

theorem statesOf_append (acts later : List TaskAct) :
    statesOf (acts ++ later) = statesOf acts ++ statesOf later :=
  List.filterMap_append

theorem statesOf_logs (entries : List Log.Entry) : statesOf (entries.map .logs) = [] := by
  simp [statesOf]

theorem statesOf_secure : statesOf (secure m spec w).2.1 = [] := by
  unfold secure
  split
  · exact statesOf_logs _
  · rfl

theorem statesOf_bind : statesOf (bind m spec w).2.1 = [] := by
  have hsecure : statesOf (secure m spec w).2.1 = [] := statesOf_secure
  unfold bind
  generalize secure m spec w = secured at hsecure ⊢
  obtain ⟨w', acts, result⟩ := secured
  cases result with
  | error halt => exact hsecure
  | ok tls =>
    simp only [statesOf_append, hsecure, List.nil_append]
    exact statesOf_logs _

theorem statesOf_greet (i : Interface) (s : Serving) : statesOf (greet i s) = [.serving] := by
  unfold greet
  simp only [statesOf_append]
  split <;> rfl

theorem statesOf_finish (i : Interface) (bound : Bound) (how : Drained) :
    statesOf (finish m i bound how w).2 = [.terminated] := by
  have hclosing : ∀ acts warning : List TaskAct, statesOf acts = [] → statesOf warning = [] →
      statesOf (acts ++ warning ++ [entry .info i "Server stopped" [], .enters .terminated]) =
        [.terminated] := by
    intro acts warning hacts hwarning
    rw [statesOf_append, statesOf_append, hacts, hwarning]
    rfl
  unfold finish
  cases bound with
  | unix path id =>
    refine hclosing _ _ ?_ ?_
    · cases (m.removeFile w path).2 <;> rfl
    · cases how <;> rfl
  | tcp address | tunnel service =>
    refine hclosing [] _ rfl ?_
    cases how <;> rfl

theorem start_result : (start m spec w).2.2 = (bind m spec w).2.2 := by
  unfold start
  generalize bind m spec w = bound
  obtain ⟨w', acts, (failure | text) | serving⟩ := bound <;> rfl

theorem statesOf_start : statesOf (start m spec w).2.1 =
    match (bind m spec w).2.2 with
    | .ok _ => [.initializing, .binding, .serving]
    | .error (.failure _) => refusedStates
    | .error (.panic _) => [.initializing, .binding] := by
  have hbind : statesOf (bind m spec w).2.1 = [] := statesOf_bind
  have hbegun : ∀ acts later : List TaskAct, statesOf acts = [] →
      statesOf (.enters .initializing :: .enters .binding :: acts ++ later) =
        [.initializing, .binding] ++ statesOf later := by
    intro acts later hacts
    rw [statesOf_append]
    exact congrArg (.initializing :: .binding :: · ++ statesOf later) hacts
  unfold start
  generalize bind m spec w = bound at hbind ⊢
  obtain ⟨w', acts, (failure | text) | serving⟩ := bound
  · exact hbegun acts _ hbind
  · exact congrArg (.initializing :: .binding :: ·) hbind
  · exact (hbegun acts _ hbind).trans (congrArg _ (statesOf_greet _ _))

theorem run_result (drainMs : Nat) (ending : ServingEnd) :
    (run m spec drainMs ending w).2.2 = (bind m spec w).2.2.bind fun _ => ending.result := by
  have hresult : (start m spec w).2.2 = (bind m spec w).2.2 := start_result
  unfold run
  generalize start m spec w = started at hresult ⊢
  obtain ⟨w', acts, halt | serving⟩ := started
  · rw [← hresult]
    rfl
  · rw [← hresult]
    cases ending <;> rfl

theorem statesOf_run (drainMs : Nat) (ending : ServingEnd) :
    statesOf (run m spec drainMs ending w).2.1 =
      match (bind m spec w).2.2, ending with
      | .ok _, .drained _ _ => servedStates
      | .ok _, .panicked _ => [.initializing, .binding, .serving]
      | .error (.failure _), _ => refusedStates
      | .error (.panic _), _ => [.initializing, .binding] := by
  have hresult : (start m spec w).2.2 = (bind m spec w).2.2 := start_result
  have hstates : statesOf (start m spec w).2.1 = _ := statesOf_start
  unfold run
  rw [← hresult] at hstates ⊢
  generalize start m spec w = started at hstates ⊢
  obtain ⟨w', acts, (failure | text) | serving⟩ := started
  · exact hstates
  · exact hstates
  · cases ending with
    | panicked text => exact hstates
    | drained connections how =>
      simp only [statesOf_append, statesOf_finish]
      rw [hstates]
      rfl

theorem statesOf_of_ok {drainMs : Nat} {ending : ServingEnd}
    (h : (run m spec drainMs ending w).2.2 = .ok ()) :
    statesOf (run m spec drainMs ending w).2.1 = servedStates := by
  rw [run_result] at h
  rw [statesOf_run]
  generalize (bind m spec w).2.2 = answer at h ⊢
  obtain halt | serving := answer
  · cases h
  · cases ending with
    | drained connections how => rfl
    | panicked text => cases h

theorem statesOf_of_failure {drainMs : Nat} {ending : ServingEnd} {failure : Failure}
    (h : (run m spec drainMs ending w).2.2 = .error (.failure failure)) :
    statesOf (run m spec drainMs ending w).2.1 = refusedStates ∧
      (bind m spec w).2.2 = .error (.failure failure) := by
  rw [run_result] at h
  rw [statesOf_run]
  generalize (bind m spec w).2.2 = answer at h ⊢
  obtain (other | text) | serving := answer
  · cases h
    exact ⟨rfl, rfl⟩
  · cases h
  · cases ending <;> cases h

theorem statesOf_of_panic {drainMs : Nat} {ending : ServingEnd} {text : String}
    (h : (run m spec drainMs ending w).2.2 = .error (.panic text)) :
    statesOf (run m spec drainMs ending w).2.1 <+: servedStates ∧
      .terminated ∉ statesOf (run m spec drainMs ending w).2.1 := by
  rw [run_result] at h
  rw [statesOf_run]
  generalize (bind m spec w).2.2 = answer at h ⊢
  obtain (failure | other) | serving := answer
  · cases h
  · exact ⟨⟨_, rfl⟩, by simp⟩
  · cases ending with
    | drained connections how => cases h
    | panicked other => exact ⟨⟨_, rfl⟩, by simp⟩

/-- What comes of the certificates and the context, where TLS is wanted. -/
def secured (m : Means World) (spec : InterfaceSpec) (w : World) : Except Halt Unit :=
  if wantsTls spec then (m.certificates w spec.interface).2.1.bind (m.context spec.interface)
  else .ok ()

/-- The surroundings that a listener is looked for in. -/
def surroundings (m : Means World) (spec : InterfaceSpec) (w : World) : World :=
  if wantsTls spec then (m.certificates w spec.interface).1 else w

def listened (m : Means World) (spec : InterfaceSpec) (w : World) : Except Halt Bound :=
  (m.listen (surroundings m spec w) spec.target spec.flags).2.1

theorem secure_world : (secure m spec w).1 = surroundings m spec w := by
  unfold secure surroundings
  split <;> rfl

theorem secured_eq : secured m spec w = (secure m spec w).2.2.map fun _ => () := by
  unfold secure secured
  split
  · generalize m.certificates w spec.interface = answer
    obtain ⟨w', halt | material, entries⟩ := answer
    · rfl
    · simp only [Except.bind]
      cases m.context spec.interface material <;> rfl
  · rfl

theorem bind_eq : (bind m spec w).2.2.map (fun serving => serving.bound) =
    (secured m spec w).bind fun _ => listened m spec w := by
  rw [secured_eq, listened, ← secure_world]
  unfold bind
  generalize secure m spec w = answer
  obtain ⟨w', acts, halt | tls⟩ := answer
  · rfl
  · simp only [Except.map, Except.bind]
    cases (m.listen w' spec.target spec.flags).2.1 <;> rfl

/-- What a task asks for: certificates where it is to serve TLS, and a listener unless there is no
TLS to be had where it is wanted. -/
def asked (m : Means World) (spec : InterfaceSpec) (w : World) : List Ask :=
  (if wantsTls spec then [.certificates spec.interface] else []) ++
    match secured m spec w with
    | .ok () => [.listener spec.target spec.flags]
    | .error _ => []

theorem secure_watched : secure m.watched spec (w, asks) =
    (((secure m spec w).1, asks ++ if wantsTls spec then [.certificates spec.interface] else []),
      (secure m spec w).2) := by
  unfold secure
  split
  · rfl
  · simp

theorem bind_watched : bind m.watched spec (w, asks) =
    (((bind m spec w).1, asks ++ asked m spec w), (bind m spec w).2) := by
  unfold bind asked
  rw [secure_watched, secured_eq]
  generalize secure m spec w = answer
  obtain ⟨w', acts, halt | tls⟩ := answer
  · simp [Except.map]
  · simp [Except.map, Means.watched]

theorem start_watched : start m.watched spec (w, asks) =
    (((start m spec w).1, asks ++ asked m spec w), (start m spec w).2) := by
  unfold start
  rw [bind_watched]
  generalize bind m spec w = bound
  obtain ⟨w', acts, (failure | text) | serving⟩ := bound <;> rfl

theorem finish_watched (i : Interface) (bound : Bound) (how : Drained) :
    finish m.watched i bound how (w, asks) =
      (((finish m i bound how w).1, asks), (finish m i bound how w).2) := by
  cases bound <;> rfl

/-- Looking on changes nothing, and shows what has been asked for. -/
theorem run_watched (drainMs : Nat) (ending : ServingEnd) :
    run m.watched spec drainMs ending (w, asks) =
      (((run m spec drainMs ending w).1, asks ++ asked m spec w),
        (run m spec drainMs ending w).2) := by
  unfold run
  rw [start_watched]
  generalize start m spec w = started
  obtain ⟨w', acts, halt | serving⟩ := started
  · rfl
  · cases ending with
    | panicked text => rfl
    | drained connections how => simp only [finish_watched]

/-- Without the TLS that it wants, a task leaves its surroundings as the certificates left them. -/
theorem run_world_of_unsecured {halt : Halt} (h : secured m spec w = .error halt) (drainMs : Nat)
    (ending : ServingEnd) : (run m spec drainMs ending w).1 = surroundings m spec w := by
  rw [secured_eq] at h
  rw [← secure_world]
  unfold run start bind
  generalize secure m spec w = answer at h ⊢
  obtain ⟨w', acts, (failure | text) | tls⟩ := answer
  · rfl
  · rfl
  · cases h

end Task

/-- A task ends well if it had something to serve on, however its drain ended, and else with the
halt that kept it from serving; its states are those of serving or of a refusal. It asks for
certificates exactly if it is to serve TLS on a fit transport, and then once for a listener. -/
theorem task_goes_through_states (m : Means World) (spec : InterfaceSpec) (drainMs : Nat)
    (ending : ServingEnd) (w : World) :
    let run := Task.run m spec drainMs ending w
    let watched := Task.run m.watched spec drainMs ending (w, [])
    let states := statesOf run.2.1
    let bound := (Task.secured m spec w).bind fun _ => Task.listened m spec w
    run.2.2 = (bound.bind fun _ => ending.result) ∧
    (run.2.2 = .ok () → states = servedStates) ∧
    (∀ failure, run.2.2 = .error (.failure failure) →
      states = refusedStates ∧ bound = .error (.failure failure)) ∧
    (∀ text, run.2.2 = .error (.panic text) →
      states <+: servedStates ∧ .terminated ∉ states ∧
      ∀ (c : Coordinator) (task : Nat), task ∈ c.running →
        c.interface? task = some spec.interface → ∃ source, (c.join task run.2.2).1.summary =
          c.summary ++ [⟨spec.interface, .error (.serving spec.interface source)⟩]) ∧
    (watched.1.1 = run.1 ∧ watched.2 = run.2) ∧
    watched.1.2 =
      (if spec.tlsEnabled = true ∧ spec.mode ≠ .unixSocket then [.certificates spec.interface]
        else []) ++
      (match Task.secured m spec w with
        | .ok () => [.listener spec.target spec.flags]
        | .error _ => []) ∧
    (∀ halt, Task.secured m spec w = .error halt → run.1 = Task.surroundings m spec w) := by
  intro run watched states bound
  have hwatched : watched = ((run.1, Task.asked m spec w), run.2) :=
    Task.run_watched drainMs ending
  have hbind : (Task.bind m spec w).2.2.map (fun serving => serving.bound) = bound := Task.bind_eq
  have hasked : watched.1.2 = Task.asked m spec w := by rw [hwatched]
  refine ⟨?_, Task.statesOf_of_ok, ?_, ?_, by rw [hwatched]; exact ⟨rfl, rfl⟩, ?_, ?_⟩
  · have hresult : run.2.2 = (Task.bind m spec w).2.2.bind fun _ => ending.result :=
      Task.run_result drainMs ending
    rw [hresult, ← hbind]
    cases (Task.bind m spec w).2.2 <;> rfl
  · intro failure hfailure
    obtain ⟨hstates, hrefused⟩ := Task.statesOf_of_failure hfailure
    refine ⟨hstates, ?_⟩
    rw [← hbind, hrefused]
    rfl
  · intro text htext
    obtain ⟨hfront, hunended⟩ := Task.statesOf_of_panic htext
    refine ⟨hfront, hunended, fun c task hrunning hi => ?_⟩
    rw [Coordinator.join_running _ hrunning hi, htext]
    exact ⟨_, rfl⟩
  · rw [hasked, Task.asked]
    simp only [Task.wantsTls_eq_true_iff]
  · intro halt hhalt
    exact Task.run_world_of_unsecured hhalt drainMs ending

end
end DualServer.Serve
