import DualServer.Proofs.Serve.AcceptLoop
import DualServer.Proofs.Serve.Draining

/-! The accept loop task by task against `Connections`, which takes each drain in one piece. They
agree on the phase, on what is open, on the outcome and on the count at the trigger. Only the count
of a drain that ran out of time can be smaller in the loop, by the tasks it joined while it waited
for another one. -/
namespace DualServer.Serve

namespace LoopStage

/-- The stages in which connections are still counted. -/
def phase? : LoopStage → Option ConnectionPhase
  | accepting => some .accepting
  | draining => some .draining
  | aborting _ | returned _ => none

theorem accepting_iff {stage : LoopStage} {phase : ConnectionPhase}
    (h : stage.phase? = some phase) : phase = .accepting ↔ stage = .accepting := by
  cases stage <;> cases h <;> simp

theorem not_aborts {stage : LoopStage} {phase : ConnectionPhase}
    (h : stage.phase? = some phase) : ¬ stage.aborts := by
  cases stage <;> cases h <;> simp [aborts]

theorem draining_iff {stage : LoopStage} {phase : ConnectionPhase}
    (h : stage.phase? = some phase) : phase = .draining ↔ stage = .draining := by
  cases stage <;> cases h <;> simp

end LoopStage

/-- All connections, whatever became of them. -/
def Connections.ids (c : Connections) : List Nat :=
  c.opened ++ c.unreaped ++ (c.reaped ++ c.aborted)

/-- One outcome is another one, up to connections that were joined while others were waited for. -/
def Drained.Within : Drained → Drained → Prop
  | .completed, .completed => True
  | .timedOut n, .timedOut m => n ≤ m
  | _, _ => False

namespace Connections

section
variable (c : Connections)

theorem ids_settle : c.settle.ids.Perm c.ids := by
  unfold settle
  split
  · apply List.perm_iff_count.mpr
    intro id
    simp only [ids, List.count_append, List.count_nil]
    omega
  · exact .refl _

theorem ids_step_accepted (h : c.phase = .accepting) (id : Nat) :
    (c.step (.accepted id)).ids.Perm (c.ids ++ [id]) := by
  rw [step, if_pos h]
  apply List.perm_iff_count.mpr
  intro other
  simp only [ids, List.count_append, List.count_nil]
  omega

theorem ids_step (event : ConnectionEvent)
    (haccept : ∀ id, event = .accepted id → c.phase ≠ .accepting)
    (haborted : c.phase = .draining → c.aborted = []) :
    (c.step event).ids.Perm c.ids := by
  cases event with
  | accepted id => rw [step, if_neg (haccept id rfl)]
  | closed id =>
    rw [step]
    split
    case isTrue hid =>
      refine (ids_settle _).trans ?_
      have hback := (List.perm_cons_erase (List.contains_iff_mem.mp hid)).count_eq
      apply List.perm_iff_count.mpr
      intro other
      simp only [ids, List.count_append, hback, List.count_cons, List.count_nil]
      omega
    case isFalse => exact .refl _
  | shutdown =>
    rw [step]
    split
    · exact ids_settle _
    · exact .refl _
  | timeout =>
    rw [step]
    split
    case isTrue hdraining =>
      apply List.perm_iff_count.mpr
      intro other
      simp only [ids, haborted hdraining, List.count_append, List.count_nil]
      omega
    case isFalse => exact .refl _

end

end Connections

namespace ConnectionLoop

/-- What an event is to the connections, if anything. -/
def seen (l : ConnectionLoop) : LoopEvent → List ConnectionEvent
  | .accepted => [.accepted l.accepted]
  | .ended id how => if how = .aborted then [] else [.closed id]
  | .triggered => [.shutdown]
  | .elapsed => [.timeout]
  | .released _ | .polled => []

def trace (l : ConnectionLoop) : List LoopEvent → List ConnectionEvent
  | [] => []
  | event :: events => l.seen event ++ (l.step event).trace events

/-- The connections in step with the loop. They may be ahead of it, since they complete a drain as
soon as its last connection has closed. -/
inductive Follows (l : ConnectionLoop) (c : Connections) : Prop
  | going (hopen : l.outcome? = none) (hphase : l.stage.phase? = some c.phase)
    (hopened : c.opened = l.running) (hcount : l.finished.length ≤ c.unreaped.length)
    (hcounted : l.stage = .accepting → l.finished.length = c.unreaped.length)
    (haborted : c.aborted = [])
  | decided (how how' : Drained) (houtcome : l.outcome? = some how) (hphase : c.phase = .done how')
    (hwithin : how.Within how') (hopened : c.opened = []) (hunreaped : c.unreaped = [])

theorem trace_append (l : ConnectionLoop) (events later : List LoopEvent) :
    l.trace (events ++ later) = l.trace events ++ (l.run events).trace later := by
  induction events generalizing l with
  | nil => rfl
  | cons event events ih => rw [List.cons_append, trace, trace, ih, List.append_assoc, run_cons]

section
variable {l d : ConnectionLoop} {c : Connections} {event : LoopEvent}

theorem Follows.of_settle (hphase : l.stage.phase? = some c.phase) (hopened : c.opened = l.running)
    (hcount : l.finished.length ≤ c.unreaped.length)
    (hcounted : l.stage = .accepting → l.finished.length = c.unreaped.length)
    (haborted : c.aborted = []) : Follows l c.settle := by
  by_cases hlast : c.phase = .draining ∧ c.opened = []
  · have houtcome : l.outcome? = some .completed := by
      rw [outcome?, (LoopStage.draining_iff hphase).mp hlast.1, ← hopened]
      exact if_pos hlast.2
    rw [Connections.settle_of_nil hlast.1 hlast.2]
    exact .decided .completed .completed houtcome rfl trivial hlast.2 rfl
  · have hopen : c.phase = .draining → c.opened ≠ [] := fun hdraining hnil =>
      hlast ⟨hdraining, hnil⟩
    rw [Connections.settle_of_open hopen]
    refine .going ?_ hphase hopened hcount hcounted haborted
    cases hstage : l.stage with
    | accepting => rw [outcome?, hstage]
    | draining =>
      rw [outcome?, hstage]
      exact if_neg (hopened ▸ hopen ((LoopStage.draining_iff hphase).mpr hstage))
    | aborting | returned => simp [hstage, LoopStage.phase?] at hphase

/-- Once the drain is over for the connections, nothing that the loop still does is seen. -/
theorem run_seen_of_done {how : Drained} (hphase : c.phase = .done how) (hopened : c.opened = []) :
    c.run (l.seen event) = c := by
  cases event with
  | accepted | triggered | elapsed => simp [seen, Connections.run, Connections.step, hphase]
  | released | polled => rfl
  | ended id how =>
    rw [seen]
    split
    · rfl
    · simp [Connections.run, Connections.step, hopened]

theorem Polls.stage_of_outcome? (h : Polls l d) (hopen : l.outcome? = none) :
    d.stage = l.stage := by
  obtain ⟨hsame, -⟩ | ⟨hnil, -, how, hdue, -⟩ := h.stage_eq
  · exact hsame
  · simp [outcome?_of_due hdue hnil] at hopen

/-- Of an event that does nothing in the loop nothing is seen either. -/
theorem run_seen_of_going (hphase : l.stage.phase? = some c.phase) (hopened : c.opened = l.running)
    (haccepted : event = .accepted → l.stage ≠ .accepting)
    (hended : ∀ id how, event = .ended id how → how ≠ .aborted → id ∉ l.running)
    (htriggered : event = .triggered → l.stage ≠ .accepting)
    (helapsed : event = .elapsed → l.stage ≠ .draining) : c.run (l.seen event) = c := by
  cases event with
  | accepted => exact if_neg (mt (LoopStage.accepting_iff hphase).mp (haccepted rfl))
  | released | polled => rfl
  | ended id how =>
    rw [seen]
    split
    case isTrue => rfl
    case isFalse hhow =>
      refine if_neg fun hid => hended id how rfl hhow ?_
      rwa [List.contains_iff_mem, hopened] at hid
  | triggered => exact if_neg (mt (LoopStage.accepting_iff hphase).mp (htriggered rfl))
  | elapsed => exact if_neg (mt (LoopStage.draining_iff hphase).mp (helapsed rfl))

theorem Steps.follows (hsteps : Steps l event d) (h : Follows l c) :
    Follows d (c.run (l.seen event)) := by
  cases h with
  | decided how how' houtcome hphase hwithin hopened hunreaped =>
    rw [run_seen_of_done hphase hopened]
    exact .decided how how' (hsteps.outcome?_eq_some houtcome) hphase hwithin hopened hunreaped
  | going hopen hphase hopened hcount hcounted haborted =>
    cases hsteps with
    | accepted hstage =>
      have haccepting := (LoopStage.accepting_iff hphase).mpr hstage
      rw [seen, Connections.run_cons, Connections.step, if_pos haccepting]
      exact .going (by simp [outcome?, join, hstage]) hphase (by rw [hopened]; rfl) (Nat.zero_le _)
        (fun _ => rfl) haborted
    | released => exact .going hopen hphase hopened hcount hcounted haborted
    | ended id how hid habort =>
      have hhow : how ≠ .aborted := fun heq => LoopStage.not_aborts hphase (habort heq)
      have hcontains : c.opened.contains id := by rwa [List.contains_iff_mem, hopened]
      rw [seen, if_neg hhow, Connections.run_cons, Connections.step, if_pos hcontains]
      exact Follows.of_settle hphase (by rw [hopened]) (by simpa using hcount)
        (by simpa using hcounted) haborted
    | triggered hstage =>
      have haccepting := (LoopStage.accepting_iff hphase).mpr hstage
      rw [seen, Connections.run_cons, Connections.step, if_pos haccepting]
      refine Follows.of_settle rfl hopened hcount (fun haccepting' => ?_) haborted
      cases haccepting'
    | polled hpolls =>
      have hstage := hpolls.stage_of_outcome? hopen
      refine .going (hpolls.outcome?_eq.trans hopen) (by rw [hstage, hphase]; rfl)
        (hopened.trans hpolls.running_eq.symm) (hpolls.finished_le.trans hcount) ?_ haborted
      intro haccepting
      have hfinished := hpolls.finished_of_accepting (hstage.symm.trans haccepting)
      exact (congrArg List.length hfinished).trans (hcounted (hstage.symm.trans haccepting))
    | elapsed hstage hpolls =>
      have hdraining := (LoopStage.draining_iff hphase).mpr hstage
      have hexpired := hpolls.outcome?_expire hstage
      have hopen' : l.running ≠ [] := fun hnil => by simp [outcome?, hstage, hnil] at hopen
      rw [if_neg hopen'] at hexpired
      rw [seen, Connections.run_cons, Connections.step, if_pos hdraining]
      refine .decided _ _ hexpired rfl ?_ rfl rfl
      -- What the drain has joined so far is not counted by the loop any more.
      have hjoined := hpolls.finished_le
      simp only [Drained.Within, Connections.count, hopened]
      omega
    | ignored _ haccepted hended htriggered _ helapsed =>
      rw [run_seen_of_going hphase hopened haccepted hended htriggered helapsed]
      exact .going hopen hphase hopened hcount hcounted haborted

theorem ids_run_seen (h : Follows l c) (haccepted : event = .accepted → l.stage ≠ .accepting) :
    (c.run (l.seen event)).ids.Perm c.ids := by
  cases h with
  | decided how how' houtcome hphase hwithin hopened =>
    rw [run_seen_of_done hphase hopened]
  | going hopen hphase hopened _ _ haborted =>
    cases event with
    | accepted =>
      refine c.ids_step (.accepted l.accepted) (fun _ _ hstage => ?_) fun _ => haborted
      exact haccepted rfl ((LoopStage.accepting_iff hphase).mp hstage)
    | released | polled => exact .refl _
    | ended id how =>
      rw [seen]
      split
      · exact .refl _
      · exact c.ids_step (.closed id) nofun fun _ => haborted
    | triggered => exact c.ids_step .shutdown nofun fun _ => haborted
    | elapsed => exact c.ids_step .timeout nofun fun _ => haborted

theorem Steps.ids_perm (hsteps : Steps l event d) (h : Follows l c)
    (hids : c.ids.Perm (List.range l.accepted)) :
    (c.run (l.seen event)).ids.Perm (List.range d.accepted) := by
  cases hsteps.moves with
  | accepts hevent hstage haccepted =>
    subst hevent
    cases h with
    | decided _ _ houtcome => simp [outcome?, hstage] at houtcome
    | going _ hphase =>
      have haccepting := (LoopStage.accepting_iff hphase).mpr hstage
      rw [haccepted, List.range_succ]
      exact (c.ids_step_accepted haccepting _).trans (hids.append_right _)
  | finishes id how hevent _ _ haccepted =>
    rw [haccepted]
    exact (ids_run_seen h (by simp [hevent])).trans hids
  | stays haccept _ haccepted =>
    rw [haccepted]
    exact (ids_run_seen h haccept).trans hids

theorem follows_run (h : Follows l c) (hids : c.ids.Perm (List.range l.accepted))
    (events : List LoopEvent) : Follows (l.run events) (c.run (l.trace events)) ∧
      (c.run (l.trace events)).ids.Perm (List.range (l.run events).accepted) := by
  induction events generalizing l c with
  | nil => exact ⟨h, hids⟩
  | cons event events ih =>
    rw [run_cons, trace, Connections.run_append]
    exact ih ((l.steps event).follows h) ((l.steps event).ids_perm h hids)

end

/-- While it accepts, the loop counts what the connections count. -/
theorem Follows.count_of_accepting (h : Follows l c) (hstage : l.stage = .accepting) :
    c.phase = .accepting ∧ c.count = l.running.length + l.finished.length := by
  cases h with
  | going _ hphase hopened _ hcounted =>
    refine ⟨(LoopStage.accepting_iff hphase).mpr hstage, ?_⟩
    rw [Connections.count, hopened, hcounted hstage]
  | decided _ _ houtcome => simp [outcome?, hstage] at houtcome

theorem Follows.timedOut (h : Follows l c) {n : Nat} (hn : l.outcome? = some (.timedOut n)) :
    ∃ m, c.phase = .done (.timedOut m) ∧ n ≤ m := by
  cases h with
  | going hopen => simp [hn] at hopen
  | decided how how' houtcome hphase hwithin =>
    cases hn.symm.trans houtcome
    cases how' with
    | completed => exact absurd hwithin id
    | timedOut m => exact ⟨m, hphase, hwithin⟩

/-- The connections are in step with every run of the loop, and account for the same ones. -/
theorem follows (events : List LoopEvent) :
    Follows (run {} events) (Connections.run {} (trace {} events)) ∧
      (Connections.run {} (trace {} events)).ids.Perm (List.range (run {} events).accepted) :=
  follows_run (.going rfl rfl rfl (Nat.le_refl _) (fun _ => rfl) rfl) (.refl _) events

theorem Follows.of_returned {l : ConnectionLoop} {c : Connections} (h : Follows l c)
    (hids : c.ids.Perm (List.range l.accepted)) {how : Drained}
    (hreturned : l.stage = .returned how) :
    c.opened = [] ∧ (c.reaped ++ c.aborted).Perm (List.range l.accepted) := by
  have hdecided := outcome?_of_returned hreturned
  cases h with
  | going hopen => simp [hdecided] at hopen
  | decided how₁ how' houtcome hphase hwithin hopened hunreaped =>
    refine ⟨hopened, ?_⟩
    simpa [Connections.ids, hopened, hunreaped] using hids

end ConnectionLoop
end DualServer.Serve
