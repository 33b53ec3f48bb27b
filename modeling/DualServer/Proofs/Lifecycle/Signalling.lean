import Mathlib.Data.List.Induction
import DualServer.Lifecycle.Shutdown

/-! What the holders of a shutdown are told. A history of actions decides every answer: who holds a
handle or a signal, whether the flag has been set, and so what a signal waits for. All of these
follow one law: something holds if it held at first, or an action made it hold, and no action ended
it since. -/
namespace DualServer.Lifecycle

theorem iff_made_and_kept {α : Type} (P : List α → Prop) (makes : List α → α → Prop)
    (keeps : α → Prop)
    (hconcat : ∀ history action, P (history ++ [action]) ↔
      P history ∧ keeps action ∨ makes history action) (history : List α) :
    P history ↔ (P [] ∧ ∀ action ∈ history, keeps action) ∨
      ∃ earlier action later, history = earlier ++ action :: later ∧ makes earlier action ∧
        ∀ kept ∈ later, keeps kept := by
  induction history using List.reverseRecOn with
  | nil => simp
  | append_singleton history last ih =>
    have hkeeps : ∀ actions : List α, (∀ action ∈ actions ++ [last], keeps action) ↔
        (∀ action ∈ actions, keeps action) ∧ keeps last := by
      simp [or_imp, forall_and]
    rw [hconcat, ih]
    constructor
    · rintro (⟨⟨hfirst, hkept⟩ | ⟨earlier, action, later, rfl, hmakes, hkept⟩, hlast⟩ | hmakes)
      · exact .inl ⟨hfirst, (hkeeps history).mpr ⟨hkept, hlast⟩⟩
      · exact .inr ⟨earlier, action, later ++ [last], by simp, hmakes,
          (hkeeps later).mpr ⟨hkept, hlast⟩⟩
      · exact .inr ⟨history, last, [], rfl, hmakes, by simp⟩
    · rintro (⟨hfirst, hkept⟩ | ⟨earlier, action, later, hsplit, hmakes, hkept⟩)
      · obtain ⟨hkept, hlast⟩ := (hkeeps history).mp hkept
        exact .inl ⟨.inl ⟨hfirst, hkept⟩, hlast⟩
      · -- The action that made it hold is the last one, or stands before the last one.
        rcases List.eq_nil_or_concat later with rfl | ⟨before, kept, rfl⟩
        · obtain ⟨rfl, hlast⟩ := List.append_inj' hsplit rfl
          cases hlast
          exact .inr hmakes
        · rw [List.concat_eq_append] at hsplit hkept
          rw [← List.cons_append, ← List.append_assoc] at hsplit
          obtain ⟨rfl, hlast⟩ := List.append_inj' hsplit rfl
          cases hlast
          obtain ⟨hkept, hlast⟩ := (hkeeps before).mp hkept
          exact .inl ⟨.inr ⟨earlier, action, before, rfl, hmakes, hkept⟩, hlast⟩

namespace Shutdown

section
variable {s : Shutdown} {action : ShutdownAction}

theorem mem_withName {names : List String} {name other : String} :
    other ∈ withName names name ↔ other ∈ names ∨ other = name := by
  unfold withName
  split
  next hcontains =>
    have hname : name ∈ names := List.contains_iff_mem.mp hcontains
    constructor
    · exact .inl
    · rintro (hother | rfl)
      · exact hother
      · exact hname
  next => simp

theorem triggered_act : (s.act action).1.triggered = true ↔
    s.triggered = true ∨ ∃ on, action = .trigger on ∧ on ∈ s.handles := by
  cases action with
  | trigger on => by_cases hon : on ∈ s.handles <;> simp [act, trigger, hon]
  | clone on name => by_cases hon : on ∈ s.handles <;> simp [act, hon]
  | subscribe on name => by_cases hon : on ∈ s.handles <;> simp [act, hon]
  | cloneSignal on name => by_cases hon : on ∈ s.signals <;> simp [act, hon]
  | isTriggered | drop | dropSignal | receive => simp [act]

theorem mem_handles_act {on : String} : on ∈ (s.act action).1.handles ↔
    on ∈ s.handles ∧ action ≠ .drop on ∨
      ∃ source, action = .clone source on ∧ source ∈ s.handles := by
  cases action with
  | trigger other => by_cases hother : other ∈ s.handles <;> simp [act, trigger, hother]
  | clone source name =>
    by_cases hsource : source ∈ s.handles <;> simp [act, mem_withName, hsource, eq_comm]
  | subscribe other name => by_cases hother : other ∈ s.handles <;> simp [act, hother]
  | cloneSignal other name => by_cases hother : other ∈ s.signals <;> simp [act, hother]
  | drop other => simp [act, @eq_comm _ other]
  | isTriggered | dropSignal | receive => simp [act]

theorem mem_signals_act {name : String} : name ∈ (s.act action).1.signals ↔
    name ∈ s.signals ∧ action ≠ .dropSignal name ∨
      (∃ on, action = .subscribe on name ∧ on ∈ s.handles) ∨
      ∃ source, action = .cloneSignal source name ∧ source ∈ s.signals := by
  cases action with
  | trigger on => by_cases hon : on ∈ s.handles <;> simp [act, trigger, hon]
  | clone on other => by_cases hon : on ∈ s.handles <;> simp [act, hon]
  | subscribe on other => by_cases hon : on ∈ s.handles <;> simp [act, mem_withName, hon, eq_comm]
  | cloneSignal source other =>
    by_cases hsource : source ∈ s.signals <;> simp [act, mem_withName, hsource, eq_comm]
  | dropSignal other => simp [act, @eq_comm _ other]
  | isTriggered | drop | receive => simp [act]

end

/-- A new shutdown after some actions. -/
def after (history : List ShutdownAction) : Shutdown := (run {} history).1

/-- What an action is answered after others. -/
def answer (history : List ShutdownAction) (action : ShutdownAction) : ShutdownReply :=
  ((after history).act action).2

def HasHandle (history : List ShutdownAction) (on : String) : Prop :=
  answer history (.isTriggered on) ≠ .noHandle

def HasSignal (history : List ShutdownAction) (name : String) : Prop :=
  answer history (.receive name) ≠ .noSignal

/-- Somebody has set the flag, through a handle that was there at the time. -/
def SetOff (history : List ShutdownAction) : Prop :=
  ∃ earlier on later, history = earlier ++ .trigger on :: later ∧ HasHandle earlier on

def AllDropped (history : List ShutdownAction) : Prop := ∀ on, ¬ HasHandle history on

section
variable {history : List ShutdownAction} {action : ShutdownAction} {on name : String}

theorem run_append (s : Shutdown) (actions later : List ShutdownAction) :
    s.run (actions ++ later) =
      (((s.run actions).1.run later).1, (s.run actions).2 ++ ((s.run actions).1.run later).2) := by
  induction actions generalizing s with
  | nil => rfl
  | cons action actions ih => simp [run, ih]

theorem after_concat (history : List ShutdownAction) (action : ShutdownAction) :
    after (history ++ [action]) = ((after history).act action).1 := by
  rw [after, run_append]
  rfl

theorem replies_concat (history : List ShutdownAction) (action : ShutdownAction) :
    (run {} (history ++ [action])).2 = (run {} history).2 ++ [answer history action] := by
  rw [run_append]
  rfl

theorem hasHandle_iff_mem : HasHandle history on ↔ on ∈ (after history).handles := by
  by_cases hon : on ∈ (after history).handles <;> simp [HasHandle, answer, act, hon]

theorem hasSignal_iff_mem : HasSignal history name ↔ name ∈ (after history).signals := by
  by_cases hname : name ∈ (after history).signals
  · by_cases hready : (after history).isReady = true <;>
      simp [HasSignal, answer, act, hname, hready]
  · simp [HasSignal, answer, act, hname]

theorem allDropped_iff : AllDropped history ↔ (after history).handles = [] := by
  simp [AllDropped, hasHandle_iff_mem, List.eq_nil_iff_forall_not_mem]

/-- A handle is there if it is the first one or a copy of another one, and has not been dropped
since. -/
theorem hasHandle_iff : HasHandle history on ↔
    (on = "main" ∧ .drop on ∉ history) ∨
      ∃ earlier source later, history = earlier ++ .clone source on :: later ∧
        HasHandle earlier source ∧ .drop on ∉ later := by
  have hlaw := iff_made_and_kept (HasHandle · on)
    (fun earlier action => ∃ source, action = .clone source on ∧ HasHandle earlier source)
    (· ≠ .drop on)
    (fun history action => by simp only [hasHandle_iff_mem, after_concat, mem_handles_act]) history
  have hfirst : HasHandle [] on ↔ on = "main" := by
    rw [hasHandle_iff_mem]
    exact List.mem_singleton
  simp only [hfirst, ne_eq, List.forall_mem_ne'] at hlaw
  rw [hlaw]
  refine or_congr_right ⟨?_, ?_⟩
  · rintro ⟨earlier, _, later, hsplit, ⟨source, rfl, hsource⟩, hlater⟩
    exact ⟨earlier, source, later, hsplit, hsource, hlater⟩
  · rintro ⟨earlier, source, later, hsplit, hsource, hlater⟩
    exact ⟨earlier, _, later, hsplit, ⟨source, rfl, hsource⟩, hlater⟩

/-- A signal is there if it comes from a handle or from a signal, and has not been dropped since. -/
theorem hasSignal_iff : HasSignal history name ↔
    ∃ earlier action later, history = earlier ++ action :: later ∧
      ((∃ on, action = .subscribe on name ∧ HasHandle earlier on) ∨
        ∃ source, action = .cloneSignal source name ∧ HasSignal earlier source) ∧
      .dropSignal name ∉ later := by
  have hlaw := iff_made_and_kept (HasSignal · name)
    (fun earlier action => (∃ on, action = .subscribe on name ∧ HasHandle earlier on) ∨
      ∃ source, action = .cloneSignal source name ∧ HasSignal earlier source)
    (· ≠ .dropSignal name)
    (fun history action => by
      simp only [hasSignal_iff_mem, hasHandle_iff_mem, after_concat, mem_signals_act]) history
  have hfirst : ¬ HasSignal [] name := by
    rw [hasSignal_iff_mem]
    exact List.not_mem_nil
  simp only [hfirst, ne_eq, List.forall_mem_ne', false_and, false_or] at hlaw
  exact hlaw

theorem triggered_iff_setOff : (after history).triggered = true ↔ SetOff history := by
  have hlaw := iff_made_and_kept (fun history => (after history).triggered = true)
    (fun earlier action => ∃ on, action = .trigger on ∧ HasHandle earlier on) (fun _ => True)
    (fun history action => by simp [hasHandle_iff_mem, after_concat, triggered_act]) history
  have hfirst : (after []).triggered = false := rfl
  simp only [hfirst, Bool.false_eq_true, false_or, implies_true, and_true] at hlaw
  rw [hlaw]
  constructor
  · rintro ⟨earlier, _, later, hsplit, on, rfl, hon⟩
    exact ⟨earlier, on, later, hsplit, hon⟩
  · rintro ⟨earlier, on, later, hsplit, hon⟩
    exact ⟨earlier, _, later, hsplit, on, rfl, hon⟩

theorem SetOff.append (h : SetOff history) (later : List ShutdownAction) :
    SetOff (history ++ later) := by
  obtain ⟨earlier, on, rest, rfl, hon⟩ := h
  exact ⟨earlier, on, rest ++ later, by simp, hon⟩

/-- Nobody who has no handle can make one. -/
theorem AllDropped.append (h : AllDropped history) (later : List ShutdownAction) :
    AllDropped (history ++ later) := by
  induction later using List.reverseRecOn with
  | nil => simpa using h
  | append_singleton later action ih =>
    rw [allDropped_iff] at ih
    rw [← List.append_assoc]
    intro on hon
    rw [hasHandle_iff_mem, after_concat, mem_handles_act, ih] at hon
    simp at hon

theorem isReady_iff : (after history).isReady = true ↔ SetOff history ∨ AllDropped history := by
  rw [isReady, Bool.or_eq_true, triggered_iff_setOff, List.isEmpty_iff, ← allDropped_iff]

theorem answer_receive (h : HasSignal history name) :
    answer history (.receive name) = if (after history).isReady then .ready else .pending := by
  rw [hasSignal_iff_mem] at h
  simp [answer, act, h]

theorem answer_isTriggered (h : HasHandle history on) :
    answer history (.isTriggered on) = .flag (after history).triggered := by
  rw [hasHandle_iff_mem] at h
  simp [answer, act, h]

theorem answer_trigger (h : HasHandle history on) :
    answer history (.trigger on) = .logged (if (after history).triggered then 0 else 1) := by
  rw [hasHandle_iff_mem] at h
  by_cases hflag : (after history).triggered = true <;> simp [answer, act, trigger, h, hflag]

/-- Only an action that sets the flag logs. -/
theorem answer_eq_logged_one_iff : answer history action = .logged 1 ↔
    (after history).triggered = false ∧ (after (history ++ [action])).triggered = true := by
  rw [after_concat, triggered_act]
  cases action with
  | trigger on =>
    by_cases hon : on ∈ (after history).handles
    · rw [answer_trigger (hasHandle_iff_mem.mpr hon)]
      by_cases hflag : (after history).triggered = true <;> simp [hflag, hon]
    · simp [answer, act, hon]
  | clone on name => by_cases hon : on ∈ (after history).handles <;> simp [answer, act, hon]
  | subscribe on name => by_cases hon : on ∈ (after history).handles <;> simp [answer, act, hon]
  | cloneSignal on name => by_cases hon : on ∈ (after history).signals <;> simp [answer, act, hon]
  | isTriggered on => by_cases hon : on ∈ (after history).handles <;> simp [answer, act, hon]
  | drop | dropSignal => simp [answer, act]
  | receive name =>
    by_cases hname : name ∈ (after history).signals <;>
      by_cases hready : (after history).isReady = true <;> simp [answer, act, hname, hready]

theorem count_logged (history : List ShutdownAction) :
    (run {} history).2.count (.logged 1) = if (after history).triggered then 1 else 0 := by
  induction history using List.reverseRecOn with
  | nil => rfl
  | append_singleton history action ih =>
    have hlogged : answer history action = .logged 1 ↔ (after history).triggered = false ∧
        (after (history ++ [action])).triggered = true := answer_eq_logged_one_iff
    have hstays : (after history).triggered = true →
        (after (history ++ [action])).triggered = true := fun h => by
      rw [triggered_iff_setOff] at h ⊢
      exact h.append _
    rw [replies_concat, List.count_append, ih, List.count_singleton]
    by_cases hbefore : (after history).triggered = true
    · have hquiet : answer history action ≠ .logged 1 := by simp [hlogged, hbefore]
      simp [hbefore, hstays hbefore, hquiet]
    · rw [Bool.not_eq_true] at hbefore
      by_cases hset : (after (history ++ [action])).triggered = true
      · simp [hbefore, hset, hlogged]
      · have hquiet : answer history action ≠ .logged 1 := by simp [hlogged, hset]
        simp [hbefore, hset, hquiet]

/-- A signal is ready exactly if the flag has been set or every handle has been dropped, whenever it
was made, and it stays ready. Every handle tells the same of the flag, which is never taken back,
and all handles together log once. -/
theorem signals_follow_first_trigger (history : List ShutdownAction) :
    (∀ name, HasSignal history name →
      (answer history (.receive name) = .ready ↔ SetOff history ∨ AllDropped history) ∧
      (answer history (.receive name) = .pending ↔ ¬ (SetOff history ∨ AllDropped history))) ∧
    (∀ on, HasHandle history on →
      (answer history (.isTriggered on) = .flag true ↔ SetOff history) ∧
      (answer history (.isTriggered on) = .flag false ↔ ¬ SetOff history) ∧
      (answer history (.trigger on) = .logged 1 ↔ ¬ SetOff history) ∧
      (answer history (.trigger on) = .logged 0 ↔ SetOff history)) ∧
    ((run {} history).2.count (.logged 1) = 1 ↔ SetOff history) ∧
    (run {} history).2.count (.logged 1) ≤ 1 ∧
    (∀ later, (SetOff history → SetOff (history ++ later)) ∧
      (AllDropped history → AllDropped (history ++ later))) ∧
    (∀ on, HasHandle history on ↔ (on = "main" ∧ .drop on ∉ history) ∨
      ∃ earlier source later, history = earlier ++ .clone source on :: later ∧
        HasHandle earlier source ∧ .drop on ∉ later) ∧
    (∀ name, HasSignal history name ↔
      ∃ earlier action later, history = earlier ++ action :: later ∧
        ((∃ on, action = .subscribe on name ∧ HasHandle earlier on) ∨
          ∃ source, action = .cloneSignal source name ∧ HasSignal earlier source) ∧
        .dropSignal name ∉ later) := by
  refine ⟨?_, ?_, ?_, ?_, fun later => ⟨(·.append later), (·.append later)⟩,
    fun _ => hasHandle_iff, fun _ => hasSignal_iff⟩
  · intro name hname
    rw [answer_receive hname, ← isReady_iff]
    by_cases hready : (after history).isReady = true <;> simp [hready]
  · intro on hon
    rw [answer_isTriggered hon, answer_trigger hon, ← triggered_iff_setOff]
    by_cases hflag : (after history).triggered = true <;> simp [hflag]
  · rw [count_logged, ← triggered_iff_setOff]
    by_cases hflag : (after history).triggered = true <;> simp [hflag]
  · rw [count_logged]
    split <;> omega

end

end Shutdown

end DualServer.Lifecycle
