import Mathlib.Data.List.Forall2
import Mathlib.Data.List.Induction
import Mathlib.Data.List.Nodup
import Mathlib.Data.List.Perm.Subperm
import DualServer.Proofs.Lifecycle.Setup
import DualServer.Serve.Coordinator

/-! A coordinator among tasks that end on their own. Tasks end in any order and wait to be joined in
the order of their ends, while others may set off the shutdown as well. The invariant `Joined` ties
the ended tasks to the outcomes; every run of events keeps it. -/
namespace DualServer.Serve
open DualServer.Lifecycle

theorem Joining.run_append_singleton (j : Joining) (events : List JoinEvent) (event : JoinEvent) :
    j.run (events ++ [event]) = (j.run events).step event :=
  List.foldl_concat _ _ _ _

/-- The outcome that stands for the end of a task: its interface and its own result, where a
breakdown is a failure of serving the interface. -/
inductive Records (interfaces : List Interface) : Ending → Outcome → Prop
  | completed {task : Nat} {i : Interface} (h : interfaces[task]? = some i) :
    Records interfaces (task, .ok ()) ⟨i, .ok ()⟩
  | failed {task : Nat} {i : Interface} {failure : Failure} (h : interfaces[task]? = some i) :
    Records interfaces (task, .error (.failure failure)) ⟨i, .error failure⟩
  | panicked {task : Nat} {i : Interface} {text source : String} (h : interfaces[task]? = some i) :
    Records interfaces (task, .error (.panic text)) ⟨i, .error (.serving i source)⟩

def Outcome.IsFailure (o : Outcome) : Prop := ∃ failure, o.result = .error failure

section
variable {interfaces : List Interface} {ending : Ending} {o : Outcome}

theorem Records.ok_iff (h : Records interfaces ending o) :
    o.result = .ok () ↔ ending.2 = .ok () := by
  cases h <;> simp

theorem records_report {task : Nat} {i : Interface} (h : interfaces[task]? = some i)
    (result : Except Halt Unit) :
    Records interfaces (task, result) ⟨i, Coordinator.report task i result⟩ := by
  match result with
  | .ok () => exact .completed h
  | .error (.failure _) => exact .failed h
  | .error (.panic _) => exact .panicked h

end

namespace Coordinator

theorem find?_numbered (interfaces : List Interface) (start task : Nat) :
    (((interfaces.zipIdx start).map fun (i, task) => (task, i)).find? (·.1 == task)).map (·.2) =
      if start ≤ task then interfaces[task - start]? else none := by
  induction interfaces generalizing start with
  | nil => simp
  | cons i interfaces ih =>
    rw [List.zipIdx_cons, List.map_cons, List.find?_cons]
    by_cases h : start = task
    · subst h
      simp
    · have hne : (start == task) = false := beq_eq_false_iff_ne.mpr h
      simp only [hne, ih]
      by_cases hle : start ≤ task
      · have hlt : start + 1 ≤ task := by omega
        rw [if_pos hlt, if_pos hle, show task - start = task - (start + 1) + 1 by omega,
          List.getElem?_cons_succ]
      · rw [if_neg (by omega), if_neg hle]

/-- Whose tasks a coordinator has: one for each interface of a list. -/
def Serves (c : Coordinator) (interfaces : List Interface) : Prop :=
  c.tasks = interfaces.zipIdx.map fun (i, task) => (task, i)

theorem Serves.interface? {c : Coordinator} {interfaces : List Interface}
    (h : c.Serves interfaces) (task : Nat) : c.interface? task = interfaces[task]? := by
  rw [Coordinator.interface?, h, find?_numbered]
  simp

theorem Serves.map_fst {c : Coordinator} {interfaces : List Interface} (h : c.Serves interfaces) :
    c.tasks.map (·.1) = List.range interfaces.length := by
  rw [h, List.map_map]
  exact List.zipIdx_map_snd 0 interfaces |>.trans (List.range_eq_range').symm

theorem Serves.interface?_eq_some {c : Coordinator} {interfaces : List Interface}
    (h : c.Serves interfaces) {task : Nat} (htask : task < interfaces.length) :
    c.interface? task = some interfaces[task] := by
  rw [h.interface?, List.getElem?_eq_getElem htask]

/-- A join of a task that is still running records its outcome, and sets off the shutdown if this is
a failure. -/
theorem join_running {c : Coordinator} {task : Nat} {i : Interface} (result : Except Halt Unit)
    (hrunning : task ∈ c.running) (hi : c.interface? task = some i) :
    (c.join task result).1 = { c with
      running := c.running.erase task
      shutdown := match report task i result with
        | .ok () => c.shutdown
        | .error _ => c.shutdown.trigger.1
      summary := c.summary ++ [⟨i, report task i result⟩] } := by
  have hcontains : c.running.contains task = true := List.contains_iff_mem.mpr hrunning
  unfold join
  rw [hcontains, hi]
  simp only
  cases report task i result <;> rfl

end Coordinator

/-- What holds between the tasks that ended and the outcomes. Whoever has not been joined is still
running, and each joined task has its outcome, in the order of the ends. -/
structure Joined (interfaces : List Interface) (j : Joining) : Prop where
  serves : j.coordinator.Serves interfaces
  known : ∀ task ∈ j.endings.map (·.1), task < interfaces.length
  once : (j.endings.map (·.1)).Nodup
  within : j.joined ≤ j.endings.length
  running : j.coordinator.running =
    (List.range interfaces.length).filter fun task => task ∉ j.joinedEndings.map (·.1)
  records : List.Forall₂ (Records interfaces) j.joinedEndings j.coordinator.summary

namespace Joined
variable {interfaces : List Interface} {j : Joining}

theorem start (shutdown : Shutdown) (interfaces : List Interface) :
    Joined interfaces (.start shutdown interfaces) where
  serves := rfl
  known := by simp [Joining.start]
  once := List.nodup_nil
  within := Nat.zero_le _
  running := by
    have hserves : (Joining.start shutdown interfaces).coordinator.Serves interfaces := rfl
    refine hserves.map_fst.trans ?_
    simp [Joining.joinedEndings, Joining.start]
  records := .nil

theorem step_ended (h : Joined interfaces j) (task : Nat) (result : Except Halt Unit) :
    Joined interfaces (j.step (.ended task result)) := by
  unfold Joining.step
  simp only
  split
  next hnew =>
    have htask : task < interfaces.length := by
      rw [h.serves.map_fst] at hnew
      exact List.mem_range.mp hnew.1
    have hjoined : (j.endings ++ [(task, result)]).take j.joined = j.endings.take j.joined :=
      List.take_append_of_le_length h.within
    refine ⟨h.serves, ?_, ?_, ?_, ?_, ?_⟩
    · intro other hother
      rw [List.map_append, List.mem_append] at hother
      rcases hother with hold | hsame
      · exact h.known other hold
      · rw [List.mem_singleton.mp hsame]
        exact htask
    · rw [List.map_append]
      exact List.nodup_append.mpr ⟨h.once, List.nodup_singleton _, by
        rintro a ha b hb rfl
        rw [List.mem_singleton.mp hb] at ha
        exact hnew.2 ha⟩
    · exact Nat.le_trans h.within (by simp)
    · rw [h.running, Joining.joinedEndings, Joining.joinedEndings, hjoined]
    · rw [Joining.joinedEndings, hjoined]
      exact h.records
  · exact h

theorem step_triggered (h : Joined interfaces j) : Joined interfaces (j.step .triggered) :=
  ⟨h.serves, h.known, h.once, h.within, h.running, h.records⟩

/-- The task that has waited longest is known and still running. -/
theorem next_running (h : Joined interfaces j) {task : Nat} {result : Except Halt Unit}
    (hnext : j.endings[j.joined]? = some (task, result)) :
    task < interfaces.length ∧ task ∈ j.coordinator.running := by
  obtain ⟨hlt, hget⟩ := List.getElem?_eq_some_iff.mp hnext
  have htask : task < interfaces.length :=
    h.known task (List.mem_map.mpr ⟨_, List.mem_of_getElem? hnext, rfl⟩)
  refine ⟨htask, ?_⟩
  rw [h.running, List.mem_filter]
  refine ⟨List.mem_range.mpr htask, decide_eq_true ?_⟩
  -- It cannot have been joined before, because it ended only once.
  intro hbefore
  have hsplit : j.endings = j.joinedEndings ++ j.endings.drop j.joined :=
    (List.take_append_drop _ _).symm
  have honce := h.once
  rw [hsplit, List.map_append] at honce
  refine (List.nodup_append.mp honce).2.2 task hbefore task ?_ rfl
  rw [List.drop_eq_getElem_cons hlt, hget]
  simp

theorem joinedEndings_succ {ending : Ending} (hnext : j.endings[j.joined]? = some ending) :
    j.endings.take (j.joined + 1) = j.joinedEndings ++ [ending] := by
  rw [List.take_add_one, hnext]
  rfl

theorem step_joined_eq (h : Joined interfaces j) {ending : Ending}
    (hnext : j.endings[j.joined]? = some ending) :
    Joined interfaces (j.step .joined) ∧ ∃ o, Records interfaces ending o ∧
      (j.step .joined).joined = j.joined + 1 ∧
      (j.step .joined).coordinator.summary = j.coordinator.summary ++ [o] ∧
      ((j.step .joined).isTriggered = true ↔ j.isTriggered = true ∨ o.IsFailure) := by
  obtain ⟨task, result⟩ := ending
  obtain ⟨htask, hrunning⟩ := h.next_running hnext
  have hi : interfaces[task]? = some interfaces[task] := List.getElem?_eq_getElem htask
  have hrecords := records_report hi result
  have hstep : j.step .joined =
      { j with coordinator := (j.coordinator.join task result).1, joined := j.joined + 1 } := by
    unfold Joining.step
    simp only [hnext]
  rw [Coordinator.join_running result hrunning (h.serves.interface?_eq_some htask)] at hstep
  have hjoined : (j.step .joined).joinedEndings = j.joinedEndings ++ [(task, result)] := by
    rw [hstep]
    exact joinedEndings_succ hnext
  refine ⟨⟨?_, ?_, ?_, ?_, ?_, ?_⟩, _, hrecords, ?_, ?_, ?_⟩
  · rw [hstep]
    exact h.serves
  · rw [hstep]
    exact h.known
  · rw [hstep]
    exact h.once
  · rw [hstep]
    exact (List.getElem?_eq_some_iff.mp hnext).1
  · rw [hjoined, hstep]
    have hnodup : j.coordinator.running.Nodup := by
      rw [h.running]
      exact List.nodup_range.filter _
    simp only
    rw [hnodup.erase_eq_filter, h.running, List.filter_filter]
    refine List.filter_congr fun other _ => ?_
    rw [Bool.eq_iff_iff, List.map_append]
    simp [and_comm]
  · rw [hjoined, hstep]
    exact List.rel_append (h.records) (.cons hrecords .nil)
  · rw [hstep]
  · rw [hstep]
  · rw [hstep]
    simp only [Joining.isTriggered, Outcome.IsFailure]
    cases Coordinator.report task interfaces[task] result <;> simp [Shutdown.trigger]

theorem step (h : Joined interfaces j) (event : JoinEvent) : Joined interfaces (j.step event) := by
  cases event with
  | ended task result => exact h.step_ended task result
  | joined =>
    cases hnext : j.endings[j.joined]? with
    | none =>
      unfold Joining.step
      simpa only [hnext] using h
    | some ending => exact (h.step_joined_eq hnext).1
  | triggered => exact h.step_triggered

theorem run (h : Joined interfaces j) (events : List JoinEvent) :
    Joined interfaces (j.run events) := by
  induction events generalizing j with
  | nil => exact h
  | cons event events ih => exact ih (h.step event)

theorem map_joinedEndings_sublist : (j.joinedEndings.map (·.1)).Sublist (j.endings.map (·.1)) :=
  (List.take_sublist _ _).map _

theorem length_joinedEndings (h : Joined interfaces j) : j.joinedEndings.length = j.joined := by
  rw [Joining.joinedEndings, List.length_take]
  exact Nat.min_eq_left h.within

theorem length_endings_le (h : Joined interfaces j) : j.endings.length ≤ interfaces.length := by
  have hsubset : j.endings.map (·.1) ⊆ List.range interfaces.length :=
    fun task htask => List.mem_range.mpr (h.known task htask)
  simpa using (List.subperm_of_subset h.once hsubset).length_le

theorem isDone_iff (h : Joined interfaces j) :
    j.coordinator.isDone = true ↔ ∀ task < interfaces.length, task ∈ j.joinedEndings.map (·.1) := by
  rw [Coordinator.isDone, List.isEmpty_iff, h.running, List.filter_eq_nil_iff]
  simp

theorem perm_of_isDone (h : Joined interfaces j) (hdone : j.coordinator.isDone = true) :
    (j.joinedEndings.map (·.1)).Perm (List.range interfaces.length) := by
  have honce := h.once.sublist map_joinedEndings_sublist
  refine (List.perm_ext_iff_of_nodup honce List.nodup_range).mpr fun task => ?_
  rw [List.mem_range]
  exact ⟨fun htask => h.known task (map_joinedEndings_sublist.subset htask),
    h.isDone_iff.mp hdone task⟩

theorem joined_of_isDone (h : Joined interfaces j) (hdone : j.coordinator.isDone = true) :
    j.joined = interfaces.length := by
  have hlength := (h.perm_of_isDone hdone).length_eq
  rwa [List.length_map, List.length_range, h.length_joinedEndings] at hlength

theorem isDone_of_joined (h : Joined interfaces j) (hjoined : j.joined = interfaces.length) :
    j.coordinator.isDone = true := by
  have honce := h.once.sublist map_joinedEndings_sublist
  have hsubset : j.joinedEndings.map (·.1) ⊆ List.range interfaces.length :=
    fun task htask => List.mem_range.mpr (h.known task (map_joinedEndings_sublist.subset htask))
  have hlength : (List.range interfaces.length).length ≤ (j.joinedEndings.map (·.1)).length := by
    apply Nat.le_of_eq
    rw [List.length_map, List.length_range, h.length_joinedEndings, hjoined]
  have hperm := (List.subperm_of_subset honce hsubset).perm_of_length_le hlength
  exact h.isDone_iff.mpr fun task htask => hperm.mem_iff.mpr (List.mem_range.mpr htask)

theorem joinedEndings_of_isDone (h : Joined interfaces j) (hdone : j.coordinator.isDone = true) :
    j.joinedEndings = j.endings := by
  rw [Joining.joinedEndings, h.joined_of_isDone hdone]
  exact List.take_of_length_le h.length_endings_le

end Joined

theorem isTriggered_run (interfaces : List Interface) (shutdown : Shutdown)
    (events : List JoinEvent) :
    ((Joining.start shutdown interfaces).run events).isTriggered = true ↔
      shutdown.triggered = true ∨ JoinEvent.triggered ∈ events ∨
        ∃ o ∈ ((Joining.start shutdown interfaces).run events).coordinator.summary,
          o.IsFailure := by
  induction events using List.reverseRecOn with
  | nil =>
    have hsummary : (Joining.start shutdown interfaces).coordinator.summary = [] := rfl
    have htriggered : (Joining.start shutdown interfaces).isTriggered = shutdown.triggered := rfl
    simp [Joining.run, hsummary, htriggered]
  | append_singleton events event ih =>
    rw [Joining.run_append_singleton]
    generalize hj : (Joining.start shutdown interfaces).run events = j at ih ⊢
    have h : Joined interfaces j := hj ▸ (Joined.start shutdown interfaces).run events
    cases event with
    | ended task result =>
      have hsame : (j.step (.ended task result)).coordinator = j.coordinator := by
        unfold Joining.step
        simp only
        split <;> rfl
      rw [Joining.isTriggered, hsame, ← Joining.isTriggered, ih]
      simp
    | joined =>
      cases hnext : j.endings[j.joined]? with
      | none =>
        have hsame : j.step .joined = j := by
          unfold Joining.step
          simp only [hnext]
        rw [hsame, ih]
        simp
      | some ending =>
        obtain ⟨-, o, -, -, hsummary, htriggered⟩ := h.step_joined_eq hnext
        rw [htriggered, hsummary, ih]
        simp [or_assoc]
    | triggered =>
      simp [Joining.isTriggered, Joining.step, Shutdown.trigger]

namespace Summary

theorem result_cons (o : Outcome) (s : Summary) :
    Summary.result (o :: s) = match o.result with
      | .ok () => Summary.result s
      | .error failure => .error failure := by
  unfold Summary.result
  rw [List.find?_cons]
  rcases hresult : o.result with failure | _
  · simp [hresult, Except.isOk, Except.toBool]
  · simp [Except.isOk, Except.toBool]

theorem result_eq_ok_iff {s : Summary} :
    Summary.result s = .ok () ↔ ∀ o ∈ s, o.result = .ok () := by
  induction s with
  | nil => simp [Summary.result]
  | cons o s ih =>
    rw [result_cons, List.forall_mem_cons]
    rcases hresult : o.result with failure | _
    · simp
    · simpa using ih

/-- The result of outcomes that stand for ended tasks is the failure of the first that failed. -/
theorem first_failure {interfaces : List Interface} {endings : List Ending} {s : Summary}
    (h : List.Forall₂ (Records interfaces) endings s) {failure : Failure}
    (hresult : Summary.result s = .error failure) :
    ∃ before ending after i, endings = before ++ ending :: after ∧
      (∀ earlier ∈ before, earlier.2 = .ok ()) ∧ Records interfaces ending ⟨i, .error failure⟩ := by
  induction h with
  | nil => cases hresult
  | @cons ending o endings s hrecords hrest ih =>
    rw [result_cons] at hresult
    obtain ⟨i, result⟩ := o
    rcases result with failed | _
    · cases Except.error.inj hresult
      exact ⟨[], ending, endings, i, rfl, by simp, hrecords⟩
    · obtain ⟨before, first, after, k, hsplit, hbefore, hfirst⟩ := ih hresult
      refine ⟨ending :: before, first, after, k, by rw [hsplit, List.cons_append], ?_, hfirst⟩
      exact List.forall_mem_cons.mpr ⟨hrecords.ok_iff.mp rfl, hbefore⟩

end Summary

/-- A coordinator has a summary only when every task has ended: the outcome of each, in the order of
their ends, with the failure of the first that failed as its result. The shutdown is set off exactly
if it was before, if somebody else did it, or if a failure has been joined. -/
theorem run_joins_every_task (specs : List InterfaceSpec) (shutdown : Shutdown)
    (events : List JoinEvent) :
    let interfaces := specs.map (·.interface)
    let j := (Joining.start shutdown interfaces).run events
    (j.coordinator.isDone = true ↔ j.joined = specs.length) ∧
    (∀ summary, j.coordinator.summary? = some summary →
      (j.endings.map (·.1)).Perm (List.range specs.length) ∧
      List.Forall₂ (Records interfaces) j.endings summary ∧
      (Summary.result summary = .ok () ↔ ∀ o ∈ summary, o.result = .ok ()) ∧
      ∀ failure, Summary.result summary = .error failure →
        ∃ before ending after i, j.endings = before ++ ending :: after ∧
          (∀ earlier ∈ before, earlier.2 = .ok ()) ∧
          Records interfaces ending ⟨i, .error failure⟩) ∧
    (∀ ending, j.endings[j.joined]? = some ending →
      ∃ o, Records interfaces ending o ∧
        (j.step .joined).coordinator.summary = j.coordinator.summary ++ [o] ∧
        ((j.step .joined).isTriggered = true ↔ j.isTriggered = true ∨ o.IsFailure)) ∧
    (j.isTriggered = true ↔ shutdown.triggered = true ∨ .triggered ∈ events ∨
      ∃ o ∈ j.coordinator.summary, o.IsFailure) := by
  intro interfaces j
  have h : Joined interfaces j := (Joined.start shutdown interfaces).run events
  have hlength : interfaces.length = specs.length := List.length_map _
  refine ⟨?_, ?_, ?_, isTriggered_run interfaces shutdown events⟩
  · rw [← hlength]
    exact ⟨h.joined_of_isDone, h.isDone_of_joined⟩
  · intro summary hsummary
    obtain ⟨hdone, rfl⟩ : j.coordinator.isDone = true ∧ j.coordinator.summary = summary := by
      simpa [Coordinator.summary?] using hsummary
    have hall := h.joinedEndings_of_isDone hdone
    have hrecords := h.records
    have hperm := h.perm_of_isDone hdone
    rw [hall] at hrecords hperm
    rw [hlength] at hperm
    exact ⟨hperm, hrecords, Summary.result_eq_ok_iff,
      fun failure hresult => Summary.first_failure hrecords hresult⟩
  · intro ending hnext
    obtain ⟨-, o, hrecords, -, hsummary, htriggered⟩ := h.step_joined_eq hnext
    exact ⟨o, hrecords, hsummary, htriggered⟩

/-- The task of the public interface breaks down, and that of the admin interface ends after it. -/
theorem run_joins_every_task_panicked :
    let spec := fun i => (makeSpec (.steady {}) {} [] i {}).1
    let j := (Joining.start {} ([spec .admin, spec .public].map (·.interface))).run
      [.ended 1 (.error (.panic "boom")), .joined, .ended 0 (.ok ()), .joined]
    ∃ summary, j.coordinator.summary? = some summary ∧
      summary.map (·.interface) = [.public, .admin] ∧
      List.Forall₂ (Records [.admin, .public]) j.endings summary ∧ j.isTriggered = true := by
  intro spec j
  have joins := run_joins_every_task [spec .admin, spec .public] {}
    [.ended 1 (.error (.panic "boom")), .joined, .ended 0 (.ok ()), .joined]
  have hinterfaces : [spec .admin, spec .public].map (·.interface) = [.admin, .public] := by
    simp [spec]
  simp only [j, hinterfaces] at joins ⊢
  exact ⟨[⟨.public, Coordinator.report 1 .public (.error (.panic "boom"))⟩, ⟨.admin, .ok ()⟩], rfl,
    rfl, (joins.2.1 _ rfl).2.1, rfl⟩

end DualServer.Serve
