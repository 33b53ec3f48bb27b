import DualServer.Proofs.Serve.Following

/-! Who owns the connections of a listener. Within its time a drain loses a connection only when it
ends by itself, and nothing but what is left after that can be aborted. In both cases the loop
returns no earlier than its last task has ended. -/
namespace DualServer.Serve.ConnectionLoop

/-- A run around its drain: `before` goes up to the trigger, and `drain` from there to the time
limit, if that is reached at all. -/
structure Drain (events before drain rest : List LoopEvent) : Prop where
  split : events = before ++ .triggered :: (drain ++ rest)
  first : (run {} before).stage = .accepting
  drain : LoopEvent.elapsed ∉ drain
  rest : rest = [] ∨ ∃ later, rest = .elapsed :: later

theorem exists_drain {events : List LoopEvent} (h : (run {} events).stage ≠ .accepting) :
    ∃ before drain rest, Drain events before drain rest := by
  obtain ⟨before, after, hsplit, hfirst⟩ := exists_triggered rfl h
  by_cases helapsed : LoopEvent.elapsed ∈ after
  · obtain ⟨drain, later, rfl, hdrain⟩ := List.eq_append_cons_of_mem helapsed
    exact ⟨before, drain, _, hsplit, hfirst, hdrain, .inr ⟨later, rfl⟩⟩
  · exact ⟨before, after, [], by rw [hsplit, List.append_nil], hfirst, helapsed, .inl rfl⟩

theorem step_triggered {l : ConnectionLoop} (h : l.stage = .accepting) :
    l.step .triggered = { l with stage := .draining } :=
  if_pos h

/-- A drain within its time, under way or complete. -/
def Drains (l : ConnectionLoop) : Prop := l.stage = .draining ∨ l.stage = .returned .completed

namespace Drains
variable {l d : ConnectionLoop} {event : LoopEvent}

theorem not_aborts (h : l.Drains) : ¬ l.stage.aborts := by
  rcases h with hstage | hstage <;> simp [hstage, LoopStage.aborts]

theorem ne_accepting (h : l.Drains) : l.stage ≠ .accepting := by
  rcases h with hstage | hstage <;> simp [hstage]

theorem outcome?_of_nil (h : l.Drains) (hnil : l.running = []) : l.outcome? = some .completed := by
  rcases h with hstage | hstage <;> simp [outcome?, hstage, hnil]

theorem outcome?_ne_timedOut (h : l.Drains) (counted : Nat) :
    l.outcome? ≠ some (.timedOut counted) := by
  rcases h with hstage | hstage <;> simp [outcome?, hstage]

theorem of_steps (h : l.Drains) (hsteps : Steps l event d) (helapsed : event ≠ .elapsed) :
    d.Drains := by
  cases hsteps with
  | accepted hstage => exact absurd hstage h.ne_accepting
  | released | ended | ignored => exact h
  | triggered => exact .inl rfl
  | polled hpolls =>
    obtain ⟨hsame, -⟩ | ⟨-, -, how, hdue, hreturned⟩ := hpolls.stage_eq
    · unfold Drains
      rwa [hsame]
    · rcases h with hstage | hstage
      · rw [hstage] at hdue
        cases hdue
        exact .inr hreturned
      · simp [hstage, LoopStage.due] at hdue
  | elapsed => exact absurd rfl helapsed

/-- Within its time a drain loses the connections that end by themselves, and no other. -/
theorem mem_running_of_moves (h : l.Drains) (hmoves : Moves l event d) (hnodup : l.running.Nodup)
    (id : Nat) : id ∈ d.running ↔ id ∈ l.running ∧ ∀ how ≠ .aborted, event ≠ .ended id how := by
  cases hmoves with
  | accepts _ hstage => exact absurd hstage h.ne_accepting
  | finishes other how hevent _ habort _ hrunning =>
    have hhow : how ≠ .aborted := fun heq => h.not_aborts (habort heq)
    rw [hrunning, hnodup.mem_erase_iff, hevent, and_comm]
    refine and_congr_right fun _ => ⟨fun hne k _ heq => ?_, fun hnone heq => ?_⟩
    · cases heq
      exact hne rfl
    · exact hnone how hhow (heq ▸ rfl)
  | stays _ hended _ hrunning =>
    rw [hrunning]
    exact ⟨fun hid => ⟨hid, fun how hhow heq => hended id how heq hhow hid⟩, And.left⟩

theorem run {drain : List LoopEvent} (h : l.Drains) (howned : l.Owned)
    (hdrain : LoopEvent.elapsed ∉ drain) :
    (l.run drain).Drains ∧ ∀ id, id ∈ (l.run drain).running ↔
      id ∈ l.running ∧ ∀ how ≠ .aborted, LoopEvent.ended id how ∉ drain := by
  induction drain generalizing l with
  | nil => exact ⟨h, by simp [ConnectionLoop.run]⟩
  | cons event drain ih =>
    rw [List.mem_cons, not_or] at hdrain
    have hstep := h.of_steps (l.steps event) (Ne.symm hdrain.1)
    obtain ⟨hdrains, hrunning⟩ := ih hstep (howned.step event) hdrain.2
    refine ⟨hdrains, fun id => ?_⟩
    rw [run_cons, hrunning, h.mem_running_of_moves (l.steps event).moves howned.nodup_running,
      and_assoc, ← forall₂_and]
    simp only [List.mem_cons, not_or, ne_eq, eq_comm]

end Drains

namespace Drain
variable {events before drain rest : List LoopEvent}

theorem run_eq (h : Drain events before drain rest) :
    run {} events = (run {} (before ++ .triggered :: drain)).run rest := by
  rw [h.split, ← run_append, List.append_assoc, List.cons_append]

theorem accepted_after (h : Drain events before drain rest) (later : List LoopEvent) :
    (run {} (before ++ .triggered :: later)).accepted = (run {} before).accepted := by
  rw [run_append, run_cons, step_triggered h.first]
  exact (run_of_ne_accepting (by simp) later).2

theorem accepted_run (h : Drain events before drain rest) :
    (run {} events).accepted = (run {} before).accepted := by
  rw [h.split, h.accepted_after]

theorem drains (h : Drain events before drain rest) :
    (run {} (before ++ .triggered :: drain)).Drains ∧
      ∀ id, id ∈ (run {} (before ++ .triggered :: drain)).running ↔
        id ∈ (run {} before).running ∧ ∀ how ≠ .aborted, LoopEvent.ended id how ∉ drain := by
  have howned := (owned_run before).step .triggered
  rw [run_append, run_cons]
  rw [step_triggered h.first] at howned ⊢
  exact Drains.run (.inl rfl) howned h.drain

/-- The time limit decides a drain by what is still running then. -/
theorem outcome?_eq (h : Drain events before drain rest) (hrest : rest ≠ []) :
    let atLimit := run {} (before ++ .triggered :: drain)
    (run {} events).outcome? = some (if atLimit.running = [] then .completed
      else .timedOut (atLimit.running.length + atLimit.poll.finished.length)) := by
  intro atLimit
  have hdrains : atLimit.Drains := h.drains.1
  have howned : atLimit.Owned := owned_run _
  obtain ⟨later, rfl⟩ := h.rest.resolve_left hrest
  rw [h.run_eq]
  by_cases hnil : atLimit.running = []
  · rw [if_pos hnil]
    exact outcome?_run (hdrains.outcome?_of_nil hnil) _
  · have hstage := hdrains.resolve_right fun hdone => hnil (howned.returned _ hdone).1
    have hexpired := atLimit.polls.outcome?_expire hstage
    rw [run_cons, step, if_pos hstage]
    exact outcome?_run hexpired later

theorem completed_iff (h : Drain events before drain rest) {how : Drained}
    (hreturned : (run {} events).stage = .returned how) :
    how = .completed ↔ (run {} (before ++ .triggered :: drain)).running = [] := by
  by_cases hrest : rest = []
  · have hsame := h.run_eq
    rw [hrest] at hsame
    have hdrains := h.drains.1
    have howned := owned_run (before ++ .triggered :: drain)
    rw [hsame] at hreturned
    have hcompleted : how = .completed := by
      rcases hdrains with hstage | hstage
      · exact absurd (hstage.symm.trans hreturned) nofun
      · exact (LoopStage.returned.inj (hstage.symm.trans hreturned)).symm
    exact iff_of_true hcompleted (howned.returned _ hreturned).1
  · have houtcome := outcome?_of_returned hreturned
    rw [h.outcome?_eq hrest] at houtcome
    split at houtcome
    case isTrue hnil =>
      cases houtcome
      exact iff_of_true rfl hnil
    case isFalse hopen =>
      cases houtcome
      exact iff_of_false nofun hopen

/-- What the connections report at the trigger is what the loop counts then, and at the time limit
the loop counts less than that by the tasks it has joined in between. -/
theorem counts (h : Drain events before drain rest) :
    let counted := Connections.run {} (trace {} events)
    let atTrigger := run {} before
    let atLimit := (run {} (before ++ .triggered :: drain)).poll
    counted.reported = atTrigger.running.length + atTrigger.finished.length ∧
    ∀ n, (run {} events).outcome? = some (.timedOut n) →
      counted.phase = .done (.timedOut counted.reported) ∧ atLimit.running ≠ [] ∧
      n = atLimit.running.length + atLimit.finished.length ∧
      n + atLimit.joined.length = counted.reported + atTrigger.joined.length := by
  intro counted atTrigger atLimit
  have hreported : counted.reported = atTrigger.running.length + atTrigger.finished.length := by
    obtain ⟨haccepting, hcount⟩ := (follows before).1.count_of_accepting h.first
    have hshutdown := (Connections.steps _ .shutdown).of_shutdown haccepting
    have htrace : trace {} events = trace {} before ++ .shutdown ::
        trace ((run {} before).step .triggered) (drain ++ rest) := by
      rw [h.split, trace_append]
      rfl
    rw [← hcount, ← hshutdown.2]
    simp only [counted, htrace, Connections.run_append, Connections.run_cons]
    exact (Connections.run_of_ne_accepting hshutdown.1 _).2
  refine ⟨hreported, fun n hn => ?_⟩
  have hrest : rest ≠ [] := fun hnil => by
    have hsame := h.run_eq
    rw [hnil] at hsame
    rw [hsame] at hn
    exact h.drains.1.outcome?_ne_timedOut n hn
  obtain ⟨m, hphase, -⟩ := (follows events).1.timedOut hn
  have hm : counted.reported = m := Connections.reported_of_timedOut hphase
  have hpolls := (run {} (before ++ .triggered :: drain)).polls
  have hrunning : atLimit.running = _ := hpolls.running_eq
  rw [h.outcome?_eq hrest] at hn
  split at hn
  case isTrue => cases hn
  case isFalse hopen =>
    cases hn
    refine ⟨hm ▸ hphase, hrunning ▸ hopen, by rw [hrunning], ?_⟩
    -- Both moments account for the same connections, as running, finished or joined.
    have hthen : atTrigger.running.length + atTrigger.ends.length = _ :=
      (owned_run before).length_eq
    have hlater := (owned_run (before ++ .triggered :: drain)).length_eq
    rw [← hpolls.ends_eq, h.accepted_after, ← hthen] at hlater
    simp only [ends, List.length_append] at hlater
    simp only [atLimit]
    omega

/-- One task is joined while the drain waits for the other one, and is not counted any more. -/
example :
    let events := [.accepted, .accepted, .triggered, .ended 0 .panicked, .released 1, .polled,
      .elapsed, .ended 1 .aborted, .polled]
    (run {} events).stage = .returned (.timedOut 1) ∧
      (run {} events).joined = [(0, .panicked), (1, .aborted)] ∧
      (Connections.run {} (trace {} events)).phase = .done (.timedOut 2) := by
  decide

theorem open_of_aborted (h : Drain events before drain rest) {id : Nat}
    (hid : (id, .aborted) ∈ (run {} events).ends) :
    rest ≠ [] ∧ id ∈ (run {} (before ++ .triggered :: drain)).running := by
  have hclean : (id, .aborted) ∉ (run {} (before ++ .triggered :: drain)).ends := fun hmem =>
    have ⟨counted, hcounted⟩ := outcome?_of_aborted_run _ id hmem
    h.drains.1.outcome?_ne_timedOut counted hcounted
  rw [h.run_eq] at hid
  refine ⟨?_, ?_⟩
  · rintro rfl
    exact hclean hid
  · exact ((mem_ends_run h.drains.1.ne_accepting rest).2 _ hid).resolve_left hclean

end Drain

theorem returned_of_idle {l : ConnectionLoop} (hstage : l.stage ≠ .accepting)
    (hidle : l.running = []) : ∃ how, (l.step .polled).stage = .returned how := by
  obtain ⟨hsame, hdue⟩ | ⟨-, -, how, -, hreturned⟩ := l.polls.stage_eq
  · have hnone := hdue hidle
    rw [step, hsame]
    unfold LoopStage.due at hnone
    split at hnone
    case h_1 | h_2 => cases hnone
    case h_3 hstage' => exact absurd hstage' hstage
    case h_4 how hstage' => exact ⟨how, hstage'⟩
  · exact ⟨how, hreturned⟩

/-- Nothing is accepted after the trigger, and a loop that returns has joined the task of every
connection. The drain is complete exactly if each connection open at the trigger ended by itself
within the time limit, and nothing is aborted but what was open when that passed. -/
theorem no_connection_outlives_loop (events : List LoopEvent) :
    Follows (run {} events) (Connections.run {} (trace {} events)) ∧
    ((run {} events).stage = .accepting ∨ ∃ before drain rest, Drain events before drain rest ∧
      let now := run {} events
      let counted := Connections.run {} (trace {} events)
      let atTrigger := run {} before
      let atTimeout := run {} (before ++ .triggered :: drain)
      now.accepted = atTrigger.accepted ∧
      (now.running = [] → ∃ how, (now.step .polled).stage = .returned how) ∧
      (∀ how, now.stage = .returned how →
        (now.running = [] ∧ now.finished = [] ∧
          (now.joined.map Prod.fst).Perm (List.range now.accepted)) ∧
        (counted.opened = [] ∧
          (counted.reaped ++ counted.aborted).Perm (List.range now.accepted)) ∧
        (how = .completed ↔
          ∀ id ∈ atTrigger.running, ∃ k, k ≠ .aborted ∧ .ended id k ∈ drain)) ∧
      ∀ id, (id, .aborted) ∈ now.ends → rest ≠ [] ∧ id ∈ atTimeout.running) := by
  obtain ⟨hfollows, hids⟩ := follows events
  refine ⟨hfollows, ?_⟩
  by_cases hstage : (run {} events).stage = .accepting
  · exact .inl hstage
  · obtain ⟨before, drain, rest, h⟩ := exists_drain hstage
    refine .inr ⟨before, drain, rest, h, h.accepted_run, returned_of_idle hstage,
      fun how hreturned => ?_, fun id hid => h.open_of_aborted hid⟩
    have howned := owned_run events
    obtain ⟨hrunning, hfinished⟩ := howned.returned how hreturned
    refine ⟨⟨hrunning, hfinished, ?_⟩, hfollows.of_returned hids hreturned, ?_⟩
    · simpa [ends, hrunning, hfinished] using howned.numbered
    · rw [h.completed_iff hreturned, List.eq_nil_iff_forall_not_mem]
      refine forall_congr' fun id => ?_
      rw [h.drains.2]
      simp only [not_and, not_forall, not_not, exists_prop]

end DualServer.Serve.ConnectionLoop
