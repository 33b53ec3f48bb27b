import Mathlib.Data.List.Induction
import DualServer.Serve.Connections

/-! What a drain counts. A closed connection stays counted until another one is accepted, and after
the trigger none is. So the count never changes from the last accepted connection to the end of the
drain, while the open connections get fewer. -/
namespace DualServer.Serve.Connections

/-- What is left of open connections when only their ends are looked at. -/
def remaining (opened : List Nat) (events : List ConnectionEvent) : List Nat :=
  events.foldl (fun opened event => match event with
    | .closed id => opened.erase id
    | _ => opened) opened

theorem remaining_cons (opened : List Nat) (event : ConnectionEvent)
    (events : List ConnectionEvent) :
    remaining opened (event :: events) = remaining (remaining opened [event]) events := rfl

theorem remaining_append (opened : List Nat) (events later : List ConnectionEvent) :
    remaining opened (events ++ later) = remaining (remaining opened events) later :=
  List.foldl_append

theorem length_remaining_le (opened : List Nat) (events : List ConnectionEvent) :
    (remaining opened events).length ≤ opened.length := by
  induction events generalizing opened with
  | nil => exact Nat.le_refl _
  | cons event events ih =>
    refine Nat.le_trans (ih _) ?_
    cases event with
    | closed id => exact List.length_erase_le
    | accepted | shutdown | timeout => exact Nat.le_refl _

theorem length_remaining_eq_iff (opened : List Nat) (events : List ConnectionEvent) :
    (remaining opened events).length = opened.length ↔
      ∀ id ∈ opened, ConnectionEvent.closed id ∉ events := by
  induction events with
  | nil => simp [remaining]
  | cons event events ih =>
    cases event with
    | closed id =>
      by_cases hid : id ∈ opened
      · have hshorter : (remaining opened (.closed id :: events)).length < opened.length := by
          refine Nat.lt_of_le_of_lt (length_remaining_le (opened.erase id) events) ?_
          rw [List.length_erase_of_mem hid]
          exact Nat.sub_lt (List.length_pos_of_mem hid) Nat.one_pos
        constructor
        · intro hsame
          exact absurd hsame (Nat.ne_of_lt hshorter)
        · intro hnone
          exact absurd List.mem_cons_self (hnone id hid)
      · have hsame : remaining opened (.closed id :: events) = remaining opened events := by
          rw [remaining_cons]
          exact congrArg (remaining · events) (List.erase_of_not_mem hid)
        rw [hsame, ih]
        refine forall₂_congr fun other hother => not_congr ?_
        have hne : other ≠ id := fun heq => hid (heq ▸ hother)
        simp [hne]
    | accepted | shutdown | timeout =>
      rw [remaining_cons]
      simpa [remaining] using ih

theorem settle_of_open {c : Connections} (h : c.phase = .draining → c.opened ≠ []) :
    c.settle = c := by
  refine if_neg fun hboth => ?_
  rw [Bool.and_eq_true, decide_eq_true_eq, List.isEmpty_iff] at hboth
  exact h hboth.1 hboth.2

theorem settle_of_nil {c : Connections} (hphase : c.phase = .draining) (h : c.opened = []) :
    c.settle = { c with
      phase := .done .completed, unreaped := [], reaped := c.reaped ++ c.unreaped } :=
  if_pos (by simp [hphase, h])

/-- Everything that a step can do. -/
inductive Steps (c : Connections) : ConnectionEvent → Connections → Prop
  | accepted (id : Nat) (h : c.phase = .accepting) : Steps c (.accepted id)
    { c with opened := c.opened ++ [id], unreaped := [], reaped := c.reaped ++ c.unreaped }
  | closed (id : Nat) (hid : id ∈ c.opened)
    (hopen : c.phase = .draining → c.opened.erase id ≠ []) : Steps c (.closed id)
    { c with opened := c.opened.erase id, unreaped := c.unreaped ++ [id] }
  | closedLast (id : Nat) (h : c.phase = .draining) : Steps c (.closed id)
    { c with
      phase := .done .completed
      opened := c.opened.erase id
      unreaped := []
      reaped := c.reaped ++ (c.unreaped ++ [id]) }
  | shutdown (h : c.phase = .accepting) (hopen : c.opened ≠ []) : Steps c .shutdown
    { c with phase := .draining, reported := c.count, openAtDrain := c.opened }
  | shutdownIdle (h : c.phase = .accepting) : Steps c .shutdown
    { c with
      phase := .done .completed
      unreaped := []
      reaped := c.reaped ++ c.unreaped
      reported := c.count
      openAtDrain := c.opened }
  | timeout (h : c.phase = .draining) : Steps c .timeout
    { c with
      phase := .done (.timedOut c.count)
      opened := []
      unreaped := []
      reaped := c.reaped ++ c.unreaped
      aborted := c.opened }
  | ignored (event : ConnectionEvent) (hclosed : ∀ id, event = .closed id → id ∉ c.opened)
    (hshutdown : event = .shutdown → c.phase ≠ .accepting) : Steps c event c

theorem steps (c : Connections) (event : ConnectionEvent) : Steps c event (c.step event) := by
  cases event with
  | accepted id =>
    by_cases h : c.phase = .accepting
    · simpa only [step, if_pos h] using Steps.accepted id h
    · simpa only [step, if_neg h] using Steps.ignored (.accepted id) nofun nofun
  | closed id =>
    by_cases hid : id ∈ c.opened
    · have hcontains : c.opened.contains id = true := List.contains_iff_mem.mpr hid
      rw [step, if_pos hcontains]
      by_cases hlast : c.phase = .draining ∧ c.opened.erase id = []
      · rw [settle_of_nil]
        · exact .closedLast id hlast.1
        · exact hlast.1
        · exact hlast.2
      · have hopen : c.phase = .draining → c.opened.erase id ≠ [] := fun h hnil =>
          hlast ⟨h, hnil⟩
        rw [settle_of_open]
        · exact .closed id hid hopen
        · exact hopen
    · have hcontains : ¬ c.opened.contains id = true := mt List.contains_iff_mem.mp hid
      rw [step, if_neg hcontains]
      exact .ignored _ (fun _ heq => ConnectionEvent.closed.inj heq ▸ hid) nofun
  | shutdown =>
    by_cases h : c.phase = .accepting
    · rw [step, if_pos h]
      by_cases hnil : c.opened = []
      · rw [settle_of_nil]
        · exact .shutdownIdle h
        · rfl
        · exact hnil
      · rw [settle_of_open]
        · exact .shutdown h hnil
        · exact fun _ => hnil
    · simpa only [step, if_neg h] using Steps.ignored .shutdown nofun fun _ => h
  | timeout =>
    by_cases h : c.phase = .draining
    · simpa only [step, if_pos h] using Steps.timeout h
    · simpa only [step, if_neg h] using Steps.ignored .timeout nofun nofun

namespace Steps
variable {c d : Connections} {event : ConnectionEvent}

theorem shutdown_of_accepting (h : Steps c event d) (hphase : c.phase = .accepting)
    (hafter : d.phase ≠ .accepting) : event = .shutdown := by
  cases h with
  | accepted | closed | ignored => exact absurd hphase hafter
  | closedLast _ hdraining | timeout hdraining => simp [hphase] at hdraining
  | shutdown | shutdownIdle => rfl

theorem of_shutdown (h : Steps c .shutdown d) (hphase : c.phase = .accepting) :
    d.phase ≠ .accepting ∧ d.reported = c.count := by
  cases h with
  | shutdown | shutdownIdle => exact ⟨nofun, rfl⟩
  | ignored _ _ hshutdown => exact absurd hphase (hshutdown rfl)

/-- Accepting does not come back, and what was reported at its end stays. -/
theorem of_ne_accepting (h : Steps c event d) (hphase : c.phase ≠ .accepting) :
    d.phase ≠ .accepting ∧ d.reported = c.reported := by
  cases h with
  | accepted _ h | shutdown h | shutdownIdle h => exact absurd h hphase
  | closed | ignored => exact ⟨hphase, rfl⟩
  | closedLast | timeout => exact ⟨nofun, rfl⟩

theorem of_done (h : Steps c event d) {how : Drained} (hphase : c.phase = .done how) :
    d.phase = .done how ∧ d.aborted = c.aborted := by
  cases h with
  | accepted _ h | closedLast _ h | shutdown h | shutdownIdle h | timeout h => simp [hphase] at h
  | closed | ignored => exact ⟨hphase, rfl⟩

/-- Only the time limit ends a drain early, and it takes the count of that moment. -/
theorem timedOut (h : Steps c event d) {n : Nat} (hafter : d.phase = .done (.timedOut n)) :
    c.phase = .done (.timedOut n) ∨
      event = .timeout ∧ c.phase = .draining ∧ n = c.count ∧ d.aborted = c.opened := by
  cases h with
  | accepted | closed | ignored => exact .inl hafter
  | closedLast | shutdown | shutdownIdle => simp at hafter
  | timeout hdraining =>
    cases hafter
    exact .inr ⟨rfl, hdraining, rfl, rfl⟩

/-- A step that accepts nothing keeps the count, unless the drain is over after it. -/
theorem keeps (h : Steps c event d) (haccept : c.phase = .accepting → ∀ id, event ≠ .accepted id)
    (hafter : ∀ how, d.phase ≠ .done how) :
    d.count = c.count ∧ d.opened = remaining c.opened [event] := by
  cases h with
  | accepted id haccepting => exact absurd rfl (haccept haccepting id)
  | closed id hid =>
    have hpos := List.length_pos_of_mem hid
    refine ⟨?_, rfl⟩
    simp only [count, List.length_erase_of_mem hid, List.length_append, List.length_singleton]
    omega
  | closedLast | shutdownIdle | timeout => exact absurd rfl (hafter _)
  | shutdown => exact ⟨rfl, rfl⟩
  | ignored _ hclosed =>
    refine ⟨rfl, ?_⟩
    cases event with
    | closed id => exact (List.erase_of_not_mem (hclosed id rfl)).symm
    | accepted | shutdown | timeout => rfl

theorem opened_of_draining (h : Steps c event d)
    (hbefore : c.phase = .draining → c.opened ≠ []) (hafter : d.phase = .draining) :
    d.opened ≠ [] := by
  cases h with
  | accepted => simp
  | closed _ _ hopen => exact hopen hafter
  | closedLast | shutdownIdle | timeout => simp at hafter
  | shutdown _ hopen => exact hopen
  | ignored => exact hbefore hafter

end Steps

section
variable {c : Connections}

theorem run_cons (c : Connections) (event : ConnectionEvent) (events : List ConnectionEvent) :
    c.run (event :: events) = (c.step event).run events := rfl

theorem run_append (c : Connections) (events later : List ConnectionEvent) :
    c.run (events ++ later) = (c.run events).run later :=
  List.foldl_append

theorem run_preserves {P : Connections → Prop} (hstep : ∀ d event, P d → P (d.step event))
    (h : P c) (events : List ConnectionEvent) : P (c.run events) := by
  induction events generalizing c with
  | nil => exact h
  | cons event events ih => exact ih (hstep c event h)

theorem run_of_ne_accepting (h : c.phase ≠ .accepting) (events : List ConnectionEvent) :
    (c.run events).phase ≠ .accepting ∧ (c.run events).reported = c.reported := by
  refine run_preserves (P := fun d => d.phase ≠ .accepting ∧ d.reported = c.reported) ?_
    ⟨h, rfl⟩ events
  intro d event hd
  have hstep := (d.steps event).of_ne_accepting hd.1
  exact ⟨hstep.1, hstep.2.trans hd.2⟩

theorem run_of_done {how : Drained} (h : c.phase = .done how) (events : List ConnectionEvent) :
    (c.run events).phase = .done how ∧ (c.run events).aborted = c.aborted := by
  refine run_preserves (P := fun d => d.phase = .done how ∧ d.aborted = c.aborted) ?_
    ⟨h, rfl⟩ events
  intro d event hd
  have hstep := (d.steps event).of_done hd.1
  exact ⟨hstep.1, hstep.2.trans hd.2⟩

theorem opened_run_of_draining (h : c.phase = .draining → c.opened ≠ [])
    (events : List ConnectionEvent) :
    (c.run events).phase = .draining → (c.run events).opened ≠ [] :=
  run_preserves (P := fun d => d.phase = .draining → d.opened ≠ [])
    (fun d event hd => (d.steps event).opened_of_draining hd) h events

theorem run_keeps {events : List ConnectionEvent}
    (haccept : c.phase = .accepting → ∀ id, ConnectionEvent.accepted id ∉ events)
    (hafter : ∀ how, (c.run events).phase ≠ .done how) :
    (c.run events).count = c.count ∧ (c.run events).opened = remaining c.opened events := by
  induction events generalizing c with
  | nil => exact ⟨rfl, rfl⟩
  | cons event events ih =>
    have hgoing : ∀ how, (c.step event).phase ≠ .done how := fun how hdone =>
      hafter how (run_of_done hdone events).1
    have hstep := (c.steps event).keeps (fun h id heq => haccept h id (by simp [heq])) hgoing
    have hback : (c.step event).phase = .accepting → c.phase = .accepting := fun h =>
      not_imp_not.mp (fun hne => ((c.steps event).of_ne_accepting hne).1) h
    have hrun := ih (fun h id hmem => haccept (hback h) id (List.mem_cons_of_mem _ hmem)) hafter
    refine ⟨hrun.1.trans hstep.1, ?_⟩
    rw [remaining_cons, ← hstep.2]
    exact hrun.2

theorem exists_shutdown {events : List ConnectionEvent} (hphase : c.phase = .accepting)
    (hafter : (c.run events).phase ≠ .accepting) :
    ∃ early after, events = early ++ .shutdown :: after ∧ (c.run early).phase = .accepting := by
  induction events generalizing c with
  | nil => exact absurd hphase hafter
  | cons event events ih =>
    by_cases hstep : (c.step event).phase = .accepting
    · obtain ⟨early, after, hsplit, hearly⟩ := ih hstep hafter
      exact ⟨event :: early, after, by rw [hsplit, List.cons_append], hearly⟩
    · cases (c.steps event).shutdown_of_accepting hphase hstep
      exact ⟨[], events, rfl, hphase⟩

theorem accepting_run {events : List ConnectionEvent} (hphase : c.phase = .accepting)
    (hnone : ConnectionEvent.shutdown ∉ events) : (c.run events).phase = .accepting := by
  by_contra hafter
  obtain ⟨early, after, rfl, -⟩ := exists_shutdown hphase hafter
  simp at hnone

theorem exists_timeout {events : List ConnectionEvent} {n : Nat}
    (hphase : c.phase ≠ .done (.timedOut n)) (hafter : (c.run events).phase = .done (.timedOut n)) :
    ∃ drain rest, events = drain ++ .timeout :: rest ∧ (c.run drain).phase = .draining ∧
      n = (c.run drain).count ∧ (c.run events).aborted = (c.run drain).opened := by
  induction events generalizing c with
  | nil => exact absurd hafter hphase
  | cons event events ih =>
    by_cases hstep : (c.step event).phase = .done (.timedOut n)
    · rcases (c.steps event).timedOut hstep with hbefore | ⟨rfl, hdraining, hn, haborted⟩
      · exact absurd hbefore hphase
      · exact ⟨[], events, rfl, hdraining, hn, (run_of_done hstep events).2.trans haborted⟩
    · obtain ⟨drain, rest, hsplit, hdrain⟩ := ih hstep hafter
      exact ⟨event :: drain, rest, by rw [hsplit, List.cons_append], hdrain⟩

end

/-- A run up to its trigger. `before` ends with the last connection that was accepted, and nothing
was accepted in `quiet`, between there and the trigger. -/
structure Triggered (events before quiet after : List ConnectionEvent) : Prop where
  split : events = before ++ quiet ++ .shutdown :: after
  first : (run {} (before ++ quiet)).phase = .accepting
  last : before = [] ∨ ∃ earlier id, before = earlier ++ [.accepted id]
  quiet : ∀ id, ConnectionEvent.accepted id ∉ quiet

theorem exists_last_accepted (events : List ConnectionEvent) :
    ∃ before quiet, events = before ++ quiet ∧
      (before = [] ∨ ∃ earlier id, before = earlier ++ [.accepted id]) ∧
      ∀ id, ConnectionEvent.accepted id ∉ quiet := by
  induction events using List.reverseRecOn with
  | nil => exact ⟨[], [], rfl, .inl rfl, by simp⟩
  | append_singleton events event ih =>
    obtain ⟨before, quiet, rfl, hlast, hquiet⟩ := ih
    cases event with
    | accepted id =>
      exact ⟨before ++ quiet ++ [.accepted id], [], by simp, .inr ⟨_, id, rfl⟩, by simp⟩
    | closed | shutdown | timeout =>
      exact ⟨before, quiet ++ [_], by rw [List.append_assoc], hlast, by simpa using hquiet⟩

theorem exists_triggered {events : List ConnectionEvent}
    (h : (run {} events).phase ≠ .accepting) :
    ∃ before quiet after, Triggered events before quiet after := by
  obtain ⟨early, after, hsplit, hfirst⟩ := exists_shutdown rfl h
  obtain ⟨before, quiet, rfl, hlast, hquiet⟩ := exists_last_accepted early
  exact ⟨before, quiet, after, hsplit, hfirst, hlast, hquiet⟩

namespace Triggered
variable {events before quiet after : List ConnectionEvent}

theorem phase_before (h : Triggered events before quiet after) :
    (run {} before).phase = .accepting := by
  by_contra hphase
  have hquiet := (run_of_ne_accepting hphase quiet).1
  rw [← run_append] at hquiet
  exact hquiet h.first

/-- Whatever closed before the last connection was accepted has been reaped. -/
theorem count_before (h : Triggered events before quiet after) :
    (run {} before).count = (run {} before).opened.length := by
  have hphase := h.phase_before
  rcases h.last with rfl | ⟨earlier, id, rfl⟩
  · rfl
  · rw [run_append] at hphase ⊢
    have hearlier : (run {} earlier).phase = .accepting :=
      not_imp_not.mp (fun hne => (run_of_ne_accepting hne _).1) hphase
    rw [run_cons, step, if_pos hearlier]
    rfl

/-- Until the trigger the count stays the same, and only ends change what is open. -/
theorem keeps_quiet (h : Triggered events before quiet after) :
    (run {} (before ++ quiet)).count = (run {} before).opened.length ∧
      (run {} (before ++ quiet)).opened = remaining (run {} before).opened quiet := by
  have hrun := run_keeps (c := run {} before) (fun _ => h.quiet) fun how hdone => by
    rw [← run_append, h.first] at hdone
    cases hdone
  rw [run_append, ← h.count_before]
  exact hrun

/-- After the trigger neither changes, as long as the drain goes on. -/
theorem keeps_drain (h : Triggered events before quiet after) {drain : List ConnectionEvent}
    (hgoing : ∀ how, (run {} (before ++ quiet ++ .shutdown :: drain)).phase ≠ .done how) :
    (run {} (before ++ quiet ++ .shutdown :: drain)).count = (run {} before).opened.length ∧
      (run {} (before ++ quiet ++ .shutdown :: drain)).opened =
        remaining (run {} before).opened (quiet ++ drain) := by
  obtain ⟨hcount, hopened⟩ := h.keeps_quiet
  rw [run_append, run_cons] at hgoing ⊢
  have hshutdown := steps (run {} (before ++ quiet)) .shutdown
  obtain ⟨hcount', hopened'⟩ := hshutdown.keeps (fun _ _ => nofun) fun how hdone =>
    hgoing how (run_of_done hdone drain).1
  -- Nothing is accepted any more, whatever the drain asks for.
  obtain ⟨hcount'', hopened''⟩ :=
    run_keeps (fun h' => absurd h' (hshutdown.of_shutdown h.first).1) hgoing
  refine ⟨hcount''.trans (hcount'.trans hcount), ?_⟩
  rw [hopened'', hopened', hopened, remaining_append]
  rfl

theorem exists_drain (h : Triggered events before quiet after) {n : Nat}
    (hafter : (run {} events).phase = .done (.timedOut n)) :
    ∃ drain rest, after = drain ++ .timeout :: rest ∧
      (run {} (before ++ quiet ++ .shutdown :: drain)).phase = .draining ∧
      n = (run {} (before ++ quiet ++ .shutdown :: drain)).count ∧
      (run {} events).aborted = (run {} (before ++ quiet ++ .shutdown :: drain)).opened := by
  have hfirst : (run {} (before ++ quiet)).phase ≠ .done (.timedOut n) := by
    rw [h.first]
    nofun
  rw [h.split, run_append] at hafter ⊢
  obtain ⟨drain, rest, hsplit, hdrain⟩ := exists_timeout hfirst hafter
  obtain ⟨-, heq⟩ | ⟨drain, rfl, rfl⟩ := List.cons_eq_append_iff.mp hsplit
  · cases heq
  · exact ⟨drain, rest, rfl, by simpa only [run_append] using hdrain⟩

theorem reported_run (h : Triggered events before quiet after) :
    (run {} events).reported = (run {} before).opened.length := by
  have hshutdown := (steps _ _).of_shutdown h.first
  rw [h.split, run_append, run_cons, (run_of_ne_accepting hshutdown.1 after).2, hshutdown.2]
  exact h.keeps_quiet.1

end Triggered

theorem reported_of_timedOut {events : List ConnectionEvent} {n : Nat}
    (h : (run {} events).phase = .done (.timedOut n)) : (run {} events).reported = n := by
  have hleft : (run {} events).phase ≠ .accepting := by rw [h]; nofun
  obtain ⟨before, quiet, after, htriggered⟩ := exists_triggered hleft
  obtain ⟨drain, rest, rfl, hdraining, hcount, -⟩ := htriggered.exists_drain h
  have hgoing : ∀ how, (run {} (before ++ quiet ++ .shutdown :: drain)).phase ≠ .done how := by
    rw [hdraining]
    nofun
  rw [htriggered.reported_run, hcount, (htriggered.keeps_drain hgoing).1]

/-- Both counts of a drain are the number of connections that were open when the last one was
accepted, so each is right exactly if none of these has closed since. A task ends here together with
its connection; `ConnectionLoop.Drain.counts` takes off what a drain joins before its time limit. -/
theorem drain_counts_last_accepted (events : List ConnectionEvent) :
    ((run {} events).phase ≠ .accepting → ∃ before quiet after,
      Triggered events before quiet after ∧
      (run {} events).reported = (run {} before).opened.length ∧
      ((run {} events).reported = (run {} (before ++ quiet)).opened.length ↔
        ∀ id ∈ (run {} before).opened, ConnectionEvent.closed id ∉ quiet)) ∧
    (∀ aborted, (run {} events).phase = .done (.timedOut aborted) → ∃ before quiet drain rest,
      Triggered events before quiet (drain ++ .timeout :: rest) ∧
      let atTimeout := run {} (before ++ quiet ++ .shutdown :: drain)
      atTimeout.phase = .draining ∧ atTimeout.opened ≠ [] ∧
      (run {} events).aborted = atTimeout.opened ∧
      aborted = (run {} before).opened.length ∧
      (aborted = atTimeout.opened.length ↔
        ∀ id ∈ (run {} before).opened, ConnectionEvent.closed id ∉ quiet ++ drain)) := by
  refine ⟨fun hphase => ?_, fun aborted hphase => ?_⟩
  · obtain ⟨before, quiet, after, h⟩ := exists_triggered hphase
    have hreported := h.reported_run
    refine ⟨before, quiet, after, h, hreported, ?_⟩
    rw [hreported, h.keeps_quiet.2, ← length_remaining_eq_iff]
    exact eq_comm
  · have hleft : (run {} events).phase ≠ .accepting := by rw [hphase]; nofun
    obtain ⟨before, quiet, after, h⟩ := exists_triggered hleft
    obtain ⟨drain, rest, rfl, hdraining, hcount, haborted⟩ := h.exists_drain hphase
    have hopen := opened_run_of_draining (c := {}) nofun _ hdraining
    have hgoing : ∀ how, (run {} (before ++ quiet ++ .shutdown :: drain)).phase ≠ .done how := by
      rw [hdraining]
      nofun
    obtain ⟨hcount', hopened⟩ := h.keeps_drain hgoing
    have hlast := hcount.trans hcount'
    refine ⟨before, quiet, drain, rest, h, hdraining, hopen, haborted, hlast, ?_⟩
    rw [hlast, hopened, ← length_remaining_eq_iff]
    exact eq_comm

/-- One of two connections closes before the trigger, and both are counted until the end. -/
theorem drain_counts_closed :
    let before := [.accepted 0, .accepted 1, .closed 0]
    let drained := run {} (before ++ [.shutdown, .timeout])
    drained.phase = .done (.timedOut 2) ∧ drained.reported = 2 ∧
      (run {} before).opened = [1] ∧ (run {} (before ++ [.shutdown])).opened = [1] := by
  decide

end DualServer.Serve.Connections
