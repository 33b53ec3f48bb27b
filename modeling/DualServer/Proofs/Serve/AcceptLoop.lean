import Mathlib.Data.List.Range
import DualServer.Serve.ConnectionLoop

/-! What the accept loop does with the tasks it owns. One inversion says what a step can do, and
from it every task is accounted for. -/
namespace DualServer.Serve.ConnectionLoop

section
variable (l : ConnectionLoop)

@[simp] theorem ends_join : l.join.ends = l.ends := by
  simp [ends, join]

@[simp] theorem accepted_expire : l.expire.accepted = l.accepted := by
  unfold expire
  split <;> rfl

@[simp] theorem running_expire : l.expire.running = l.running := by
  unfold expire
  split <;> rfl

@[simp] theorem finished_expire : l.expire.finished = l.finished := by
  unfold expire
  split <;> rfl

@[simp] theorem ends_expire : l.expire.ends = l.ends := by
  unfold expire
  split <;> rfl

end

/-- Everything that a poll can do. -/
inductive Polls (l : ConnectionLoop) : ConnectionLoop → Prop
  | waits (h : l.running = [] → l.stage.due = none) : Polls l l
  | joins (h : l.running ≠ []) (hdue : l.stage.due ≠ none) : Polls l l.join
  | returns (h : l.running = []) (how : Drained) (hdue : l.stage.due = some how) :
    Polls l { l.join with stage := .returned how }

theorem polls_joinAll {l : ConnectionLoop} {how : Drained} (hdue : l.stage.due = some how) :
    Polls l (l.joinAll how) := by
  unfold joinAll
  split
  case isTrue h => exact .returns h how hdue
  case isFalse h => exact .joins h (by simp [hdue])

theorem polls (l : ConnectionLoop) : Polls l l.poll := by
  unfold poll
  split
  case h_1 hstage =>
    split
    · exact polls_joinAll (by rw [hstage]; rfl)
    · rename_i hopen
      refine .waits fun hnil => absurd ?_ hopen
      simp [hnil]
  case h_2 counted hstage => exact polls_joinAll (by rw [hstage]; rfl)
  case h_3 hstage => exact .waits fun _ => by rw [hstage]; rfl
  case h_4 how hstage => exact .waits fun _ => by rw [hstage]; rfl

/-- Everything that a step can do. -/
inductive Steps (l : ConnectionLoop) : LoopEvent → ConnectionLoop → Prop
  | accepted (h : l.stage = .accepting) : Steps l .accepted
    { l.join with accepted := l.accepted + 1, running := l.running ++ [l.accepted] }
  | released (id : Nat) : Steps l (.released id) { l with released := l.released ++ [id] }
  | ended (id : Nat) (how : ConnectionEnd) (hid : id ∈ l.running)
    (habort : how = .aborted → l.stage.aborts) : Steps l (.ended id how)
    { l with running := l.running.erase id, finished := l.finished ++ [(id, how)] }
  | triggered (h : l.stage = .accepting) : Steps l .triggered { l with stage := .draining }
  | polled {d : ConnectionLoop} (h : Polls l d) : Steps l .polled d
  | elapsed {d : ConnectionLoop} (hstage : l.stage = .draining) (h : Polls l d) :
    Steps l .elapsed d.expire
  | ignored (event : LoopEvent) (haccepted : event = .accepted → l.stage ≠ .accepting)
    (hended : ∀ id how, event = .ended id how → how ≠ .aborted → id ∉ l.running)
    (htriggered : event = .triggered → l.stage ≠ .accepting)
    (hpolled : event ≠ .polled)
    (helapsed : event = .elapsed → l.stage ≠ .draining) : Steps l event l

theorem steps (l : ConnectionLoop) (event : LoopEvent) : Steps l event (l.step event) := by
  cases event with
  | accepted =>
    rw [step]
    split
    case isTrue h => exact .accepted h
    case isFalse h => exact .ignored _ (fun _ => h) nofun nofun nofun nofun
  | released id =>
    rw [step]
    split
    · exact .released id
    · exact .ignored _ nofun nofun nofun nofun nofun
  | ended id how =>
    rw [step]
    split
    case isTrue h => exact .ended id how h.1 h.2
    case isFalse h =>
      refine .ignored _ nofun (fun _ _ heq hhow hid => h ?_) nofun nofun nofun
      cases heq
      exact ⟨hid, fun habort => absurd habort hhow⟩
  | triggered =>
    rw [step]
    split
    case isTrue h => exact .triggered h
    case isFalse h => exact .ignored _ nofun nofun (fun _ => h) nofun nofun
  | polled => exact .polled l.polls
  | elapsed =>
    rw [step]
    split
    case isTrue h => exact .elapsed h l.polls
    case isFalse h => exact .ignored _ nofun nofun nofun nofun fun _ => h

namespace Polls
variable {l d : ConnectionLoop}

theorem accepted_eq (h : Polls l d) : d.accepted = l.accepted := by
  cases h <;> rfl

theorem running_eq (h : Polls l d) : d.running = l.running := by
  cases h <;> rfl

theorem finished_le (h : Polls l d) : d.finished.length ≤ l.finished.length := by
  cases h with
  | waits => exact Nat.le_refl _
  | joins | returns => exact Nat.zero_le _

theorem finished_of_accepting (h : Polls l d) (hstage : l.stage = .accepting) :
    d.finished = l.finished := by
  cases h with
  | waits => rfl
  | joins _ hdue => exact absurd (by rw [hstage]; rfl) hdue
  | returns _ how hdue => rw [hstage] at hdue; cases hdue

theorem ends_eq (h : Polls l d) : d.ends = l.ends := by
  cases h with
  | waits => rfl
  | joins | returns => exact l.ends_join

/-- A loop returns when its last task has been joined, and otherwise stays where it is. -/
theorem stage_eq (h : Polls l d) : d.stage = l.stage ∧ (l.running = [] → l.stage.due = none) ∨
    l.running = [] ∧ d.finished = [] ∧ ∃ how, l.stage.due = some how ∧ d.stage = .returned how := by
  cases h with
  | waits h => exact .inl ⟨rfl, h⟩
  | joins h => exact .inl ⟨rfl, fun hnil => absurd hnil h⟩
  | returns h how hdue => exact .inr ⟨h, rfl, how, hdue, rfl⟩

end Polls

/-- What a step does to the connections: one is accepted, one comes to its end, or they all stay. -/
inductive Moves (l : ConnectionLoop) (event : LoopEvent) (d : ConnectionLoop) : Prop
  | accepts (hevent : event = .accepted) (hstage : l.stage = .accepting)
    (haccepted : d.accepted = l.accepted + 1) (hrunning : d.running = l.running ++ [l.accepted])
    (hends : d.ends = l.ends)
  | finishes (id : Nat) (how : ConnectionEnd) (hevent : event = .ended id how)
    (hid : id ∈ l.running) (habort : how = .aborted → l.stage.aborts)
    (haccepted : d.accepted = l.accepted) (hrunning : d.running = l.running.erase id)
    (hends : d.ends = l.ends ++ [(id, how)])
  | stays (haccept : event = .accepted → l.stage ≠ .accepting)
    (hevent : ∀ id how, event = .ended id how → how ≠ .aborted → id ∉ l.running)
    (haccepted : d.accepted = l.accepted) (hrunning : d.running = l.running)
    (hends : d.ends = l.ends)

theorem Steps.moves {l d : ConnectionLoop} {event : LoopEvent} (h : Steps l event d) :
    Moves l event d := by
  cases h with
  | accepted h => exact .accepts rfl h rfl rfl l.ends_join
  | released => exact .stays nofun nofun rfl rfl rfl
  | ended id how hid habort =>
    exact .finishes id how rfl hid habort rfl rfl (List.append_assoc ..).symm
  | triggered => exact .stays nofun nofun rfl rfl rfl
  | polled h => exact .stays nofun nofun h.accepted_eq h.running_eq h.ends_eq
  | elapsed _ h =>
    refine .stays nofun nofun ?_ ?_ ?_
    · rw [accepted_expire, h.accepted_eq]
    · rw [running_expire, h.running_eq]
    · rw [ends_expire, h.ends_eq]
  | ignored _ haccepted hended => exact .stays haccepted hended rfl rfl rfl

section
variable {l d : ConnectionLoop} {event : LoopEvent}

theorem Steps.triggered_of_accepting (h : Steps l event d) (hstage : l.stage = .accepting)
    (hafter : d.stage ≠ .accepting) : event = .triggered := by
  cases h with
  | accepted | released | ended | ignored => exact absurd hstage hafter
  | triggered => rfl
  | polled h =>
    obtain ⟨hsame, -⟩ | ⟨-, -, how, hdue, -⟩ := h.stage_eq
    · exact absurd (hsame.trans hstage) hafter
    · simp [hstage, LoopStage.due] at hdue
  | elapsed hdraining => simp [hstage] at hdraining

theorem Steps.of_ne_accepting (h : Steps l event d) (hstage : l.stage ≠ .accepting) :
    d.stage ≠ .accepting ∧ d.accepted = l.accepted := by
  refine ⟨?_, ?_⟩
  · cases h with
    | accepted h | triggered h => exact absurd h hstage
    | released | ended | ignored => exact hstage
    | polled h =>
      obtain ⟨hsame, -⟩ | ⟨-, -, how, -, hreturned⟩ := h.stage_eq
      · rwa [hsame]
      · simp [hreturned]
    | elapsed hdraining h =>
      unfold expire
      split
      · nofun
      · obtain ⟨hsame, -⟩ | ⟨-, -, how, -, hreturned⟩ := h.stage_eq
        · rwa [hsame]
        · simp [hreturned]
  · cases h.moves with
    | accepts _ haccepting => exact absurd haccepting hstage
    | finishes _ _ _ _ _ haccepted | stays _ _ haccepted => exact haccepted

theorem outcome?_of_returned {how : Drained} (h : l.stage = .returned how) :
    l.outcome? = some how := by
  rw [outcome?, h]

theorem outcome?_of_aborts (h : l.stage.aborts) :
    ∃ counted, l.outcome? = some (.timedOut counted) := by
  unfold LoopStage.aborts at h
  unfold outcome?
  split at h <;> simp_all

theorem outcome?_of_due {how : Drained} (hdue : l.stage.due = some how) (h : l.running = []) :
    l.outcome? = some how := by
  unfold LoopStage.due at hdue
  unfold outcome?
  split at hdue <;> simp_all

theorem Polls.outcome?_eq (h : Polls l d) : d.outcome? = l.outcome? := by
  cases h with
  | waits | joins => rfl
  | returns h how hdue => exact (outcome?_of_due hdue h).symm

/-- The time limit decides a drain that has a task left, and changes nothing for one that has
none. -/
theorem Polls.outcome?_expire (h : Polls l d) (hstage : l.stage = .draining) :
    d.expire.outcome? =
      some (if l.running = [] then .completed
        else .timedOut (l.running.length + d.finished.length)) := by
  have hdue : l.stage.due = some .completed := by rw [hstage]; rfl
  obtain ⟨hsame, hwaits⟩ | ⟨hnil, -, how, hhow, hreturned⟩ := h.stage_eq
  · have hopen : l.running ≠ [] := fun hnil => by simp [hwaits hnil] at hdue
    simp [expire, outcome?, hsame, hstage, hopen, h.running_eq]
  · cases hdue.symm.trans hhow
    simp [expire, outcome?, hreturned, hnil]

theorem Steps.outcome?_eq_some (h : Steps l event d) {how : Drained}
    (hdecided : l.outcome? = some how) : d.outcome? = some how := by
  cases h with
  | accepted h | triggered h => simp [outcome?, h] at hdecided
  | released | ignored => exact hdecided
  | ended id _ hid =>
    -- A drain with a task left is not decided, and no other outcome asks what is running.
    have hstage : l.stage ≠ .draining := fun hdraining => by
      simp [outcome?, hdraining, List.ne_nil_of_mem hid] at hdecided
    rw [← hdecided]
    unfold outcome?
    split <;> simp_all
  | polled h => exact h.outcome?_eq.trans hdecided
  | elapsed hstage h =>
    rw [h.outcome?_expire hstage, ← hdecided]
    by_cases hnil : l.running = []
    · simp [outcome?, hstage, hnil]
    · simp [outcome?, hstage, hnil] at hdecided

end

/-- Every accepted connection is in one place, and a loop that has returned has no task left. -/
structure Owned (l : ConnectionLoop) : Prop where
  numbered : (l.running ++ l.ends.map Prod.fst).Perm (List.range l.accepted)
  returned : ∀ how, l.stage = .returned how → l.running = [] ∧ l.finished = []

namespace Owned
variable {l d : ConnectionLoop} {event : LoopEvent}

theorem nodup_running (h : l.Owned) : l.running.Nodup :=
  (List.nodup_append.mp (h.numbered.nodup_iff.mpr List.nodup_range)).1

theorem length_eq (h : l.Owned) : l.running.length + l.ends.length = l.accepted := by
  simpa using h.numbered.length_eq

theorem numbered_of_moves (h : l.Owned) (hmoves : Moves l event d) :
    (d.running ++ d.ends.map Prod.fst).Perm (List.range d.accepted) := by
  cases hmoves with
  | accepts _ _ haccepted hrunning hends =>
    rw [haccepted, hrunning, hends, List.range_succ, List.append_assoc]
    refine (List.perm_append_comm.append_left _).trans ?_
    rw [← List.append_assoc]
    exact h.numbered.append_right _
  | finishes id how _ hid _ haccepted hrunning hends =>
    rw [haccepted, hrunning, hends, List.map_append, ← List.append_assoc]
    refine List.perm_append_singleton .. |>.trans ?_
    exact ((List.perm_cons_erase hid).symm.append_right _).trans h.numbered
  | stays _ _ haccepted hrunning hends =>
    rw [haccepted, hrunning, hends]
    exact h.numbered

theorem returned_of_polls (h : l.Owned) (hpolls : Polls l d) {how : Drained}
    (hreturned : d.stage = .returned how) : d.running = [] ∧ d.finished = [] := by
  cases hpolls with
  | waits => exact h.returned how hreturned
  | joins hopen => exact absurd (h.returned how hreturned).1 hopen
  | returns hnil => exact ⟨hnil, rfl⟩

theorem returned_of_steps (h : l.Owned) (hsteps : Steps l event d) {how : Drained}
    (hreturned : d.stage = .returned how) : d.running = [] ∧ d.finished = [] := by
  cases hsteps with
  | accepted hstage => exact absurd (hstage.symm.trans hreturned) nofun
  | released | ignored => exact h.returned how hreturned
  | ended id _ hid =>
    rw [(h.returned how hreturned).1] at hid
    exact absurd hid List.not_mem_nil
  | triggered => exact absurd hreturned nofun
  | polled hpolls => exact h.returned_of_polls hpolls hreturned
  | @elapsed polled _ hpolls =>
    have hstage : polled.stage = .returned how := by
      unfold expire at hreturned
      split at hreturned
      · cases hreturned
      · exact hreturned
    rw [running_expire, finished_expire]
    exact h.returned_of_polls hpolls hstage

theorem step (h : l.Owned) (event : LoopEvent) : (l.step event).Owned :=
  ⟨h.numbered_of_moves (l.steps event).moves, fun _ => h.returned_of_steps (l.steps event)⟩

end Owned

section
variable {l : ConnectionLoop}

theorem run_cons (l : ConnectionLoop) (event : LoopEvent) (events : List LoopEvent) :
    l.run (event :: events) = (l.step event).run events := rfl

theorem run_append (l : ConnectionLoop) (events later : List LoopEvent) :
    l.run (events ++ later) = (l.run events).run later :=
  List.foldl_append

theorem run_preserves {P : ConnectionLoop → Prop} (hstep : ∀ d event, P d → P (d.step event))
    (h : P l) (events : List LoopEvent) : P (l.run events) := by
  induction events generalizing l with
  | nil => exact h
  | cons event events ih => exact ih (hstep l event h)

theorem owned_run (events : List LoopEvent) : (run {} events).Owned :=
  run_preserves (fun _ event h => h.step event) ⟨by simp [ends], nofun⟩ events

theorem run_of_ne_accepting (h : l.stage ≠ .accepting) (events : List LoopEvent) :
    (l.run events).stage ≠ .accepting ∧ (l.run events).accepted = l.accepted := by
  apply run_preserves (P := fun d => d.stage ≠ .accepting ∧ d.accepted = l.accepted) _ ⟨h, rfl⟩
  intro d event hd
  obtain ⟨hstage, haccepted⟩ := (d.steps event).of_ne_accepting hd.1
  exact ⟨hstage, haccepted.trans hd.2⟩

theorem outcome?_run {how : Drained} (h : l.outcome? = some how) (events : List LoopEvent) :
    (l.run events).outcome? = some how :=
  run_preserves (P := fun d => d.outcome? = some how)
    (fun d event hd => (d.steps event).outcome?_eq_some hd) h events

theorem exists_triggered {events : List LoopEvent} (hstage : l.stage = .accepting)
    (hafter : (l.run events).stage ≠ .accepting) :
    ∃ before after, events = before ++ .triggered :: after ∧
      (l.run before).stage = .accepting := by
  induction events generalizing l with
  | nil => exact absurd hstage hafter
  | cons event events ih =>
    by_cases hstep : (l.step event).stage = .accepting
    · obtain ⟨before, after, hsplit, hbefore⟩ := ih hstep hafter
      exact ⟨event :: before, after, by rw [hsplit, List.cons_append], hbefore⟩
    · cases (l.steps event).triggered_of_accepting hstage hstep
      exact ⟨[], events, rfl, hstage⟩

theorem mem_ends_run (h : l.stage ≠ .accepting) (events : List LoopEvent) :
    (∀ id ∈ (l.run events).running, id ∈ l.running) ∧
      ∀ entry ∈ (l.run events).ends, entry ∈ l.ends ∨ entry.1 ∈ l.running := by
  induction events generalizing l with
  | nil => exact ⟨fun _ => id, fun _ => .inl⟩
  | cons event events ih =>
    obtain ⟨hrunning, hends⟩ := ih ((l.steps event).of_ne_accepting h).1
    rw [run_cons]
    cases (l.steps event).moves with
    | accepts _ hstage => exact absurd hstage h
    | finishes other how _ hother _ _ herase happend =>
      rw [herase] at hrunning hends
      rw [happend] at hends
      refine ⟨fun id hid => List.mem_of_mem_erase (hrunning id hid), fun entry hentry => ?_⟩
      obtain hold | hopen := hends entry hentry
      · rw [List.mem_append, List.mem_singleton] at hold
        refine hold.imp_right fun heq => ?_
        rwa [heq]
      · exact .inr (List.mem_of_mem_erase hopen)
    | stays _ _ _ hsame hsame' =>
      rw [hsame] at hrunning hends
      rw [hsame'] at hends
      exact ⟨hrunning, hends⟩

/-- Only a drain that has run into its time limit aborts anything. -/
theorem outcome?_of_aborted_run (events : List LoopEvent) :
    ∀ id, (id, .aborted) ∈ (run {} events).ends →
      ∃ counted, (run {} events).outcome? = some (.timedOut counted) := by
  refine run_preserves (l := {})
    (P := fun d => ∀ id, (id, .aborted) ∈ d.ends → ∃ counted, d.outcome? = some (.timedOut counted))
    ?_ nofun events
  intro d event hd id hid
  have hbefore : ∃ counted, d.outcome? = some (.timedOut counted) := by
    cases (d.steps event).moves with
    | accepts _ _ _ _ hends | stays _ _ _ _ hends => exact hd id (hends ▸ hid)
    | finishes other how _ _ habort _ _ hends =>
      rw [hends, List.mem_append, List.mem_singleton] at hid
      obtain hid | heq := hid
      · exact hd id hid
      · exact outcome?_of_aborts (habort (congrArg Prod.snd heq).symm)
  obtain ⟨counted, hcounted⟩ := hbefore
  exact ⟨counted, (d.steps event).outcome?_eq_some hcounted⟩

end

end DualServer.Serve.ConnectionLoop
