import DualServer.Proofs.Serve.Joining
import DualServer.Proofs.Serve.SessionMoves
import DualServer.Proofs.Serve.TaskStates

/-! What holds throughout a session. Each server is where its own events took it, the coordinator is
where the ends of its tasks took it, and each task has acted as far as it has come. The invariant
`Sound` says this; the start of a session brings it about and every move keeps it. -/
namespace DualServer.Serve
open DualServer.Lifecycle DualServer.Transport

/-- A coordinator has come from its start by ends of its tasks, each joined at once. -/
def Coordinator.Reached (interfaces : List Interface) (c : Coordinator) : Prop :=
  ∃ shutdown events, ((Joining.start shutdown interfaces).run events).coordinator = c ∧
    ((Joining.start shutdown interfaces).run events).joined =
      ((Joining.start shutdown interfaces).run events).endings.length

theorem Coordinator.reached_spawn (shutdown : Shutdown) (interfaces : List Interface) :
    (Coordinator.spawn shutdown interfaces).1.Reached interfaces := ⟨shutdown, [], rfl, rfl⟩

namespace Coordinator.Reached
variable {interfaces : List Interface} {c : Coordinator}

theorem serves (h : c.Reached interfaces) : c.Serves interfaces := by
  obtain ⟨shutdown, events, rfl, -⟩ := h
  exact ((Joined.start shutdown interfaces).run events).serves

theorem trigger (h : c.Reached interfaces) :
    Reached interfaces { c with shutdown := c.shutdown.trigger.1 } := by
  obtain ⟨shutdown, events, rfl, hall⟩ := h
  refine ⟨shutdown, events ++ [.triggered], ?_, ?_⟩
  · rw [Joining.run_append_singleton]
    rfl
  · rw [Joining.run_append_singleton]
    exact hall

theorem nodup_running (h : c.Reached interfaces) : c.running.Nodup := by
  obtain ⟨shutdown, events, rfl, -⟩ := h
  rw [((Joined.start shutdown interfaces).run events).running]
  exact List.nodup_range.filter _

theorem join (h : c.Reached interfaces) {task : Nat} (hrunning : task ∈ c.running)
    (result : Except Halt Unit) : Reached interfaces (c.join task result).1 := by
  obtain ⟨shutdown, events, rfl, hall⟩ := h
  have hjoined := (Joined.start shutdown interfaces).run events
  have hevents : (Joining.start shutdown interfaces).run
      (events ++ [.ended task result] ++ [.joined]) =
        (((Joining.start shutdown interfaces).run events).step
          (.ended task result)).step .joined := by
    rw [Joining.run_append_singleton, Joining.run_append_singleton]
  generalize (Joining.start shutdown interfaces).run events = j at *
  have hnew : task ∈ j.coordinator.tasks.map (·.1) ∧ task ∉ j.endings.map (·.1) := by
    have hends : j.joinedEndings = j.endings := by
      rw [Joining.joinedEndings, hall, List.take_length]
    rw [hjoined.running, List.mem_filter, hends] at hrunning
    rw [hjoined.serves.map_fst]
    exact ⟨hrunning.1, of_decide_eq_true hrunning.2⟩
  have hended : j.step (.ended task result) =
      { j with endings := j.endings ++ [(task, result)] } := if_pos hnew
  have hnext : (j.endings ++ [(task, result)])[j.joined]? = some (task, result) := by
    rw [hall, List.getElem?_concat_length]
  have hstep : ({ j with endings := j.endings ++ [(task, result)] } : Joining).step .joined =
      { j with
        coordinator := (j.coordinator.join task result).1
        endings := j.endings ++ [(task, result)]
        joined := j.joined + 1 } := by
    simp only [Joining.step, hnext]
  rw [hended, hstep] at hevents
  exact ⟨shutdown, _, by rw [hevents], by rw [hevents]; simp [hall]⟩

theorem interface?_eq (h : c.Reached interfaces) (task : Nat) :
    c.interface? task = interfaces[task]? := h.serves.interface? task

end Coordinator.Reached

theorem Coordinator.running_spawn (shutdown : Shutdown) (interfaces : List Interface) :
    (Coordinator.spawn shutdown interfaces).1.running = List.range interfaces.length :=
  (Coordinator.reached_spawn shutdown interfaces).serves.map_fst

namespace Session

/-- What a task has done since it began to serve: nothing while it accepts connections, then it has
stopped accepting them, and at last it has been joined. -/
inductive Closing (s : Session) (i : Interface) (server : Server) : List TaskAct → Prop
  | accepting (hphase : server.connections.phase = .accepting)
    (hrunning : server.task ∈ s.coordinator.running) : Closing s i server []
  | draining (hphase : server.connections.phase ≠ .accepting)
    (hrunning : server.task ∈ s.coordinator.running) :
    Closing s i server (Task.stop i server.connections.reported s.plan.drainMs)
  | joined (how : Drained) (w : Host) (hphase : server.connections.phase = .done how)
    (hrunning : server.task ∉ s.coordinator.running) : Closing s i server
      (Task.stop i server.connections.reported s.plan.drainMs ++
        (Task.finish s.plan.means i server.serving.bound how w).2)

/-- How far the task of an interface has come. It has not begun, it has begun in vain, or it has a
server. -/
inductive Acted (s : Session) (i : Interface) : Prop
  | waits (hserver : s.server? i = none) (hacts : s.actsOf i = [])
  | refused (spec : InterfaceSpec) (w : Host) (halt : Halt) (hspec : spec.interface = i)
    (hstart : (Task.start s.plan.means spec w).2.2 = .error halt) (hserver : s.server? i = none)
    (hacts : s.actsOf i = (Task.start s.plan.means spec w).2.1)
  | serves (spec : InterfaceSpec) (w : Host) (server : Server) (closing : List TaskAct)
    (hspec : spec.interface = i)
    (hstart : (Task.start s.plan.means spec w).2.2 = .ok server.serving)
    (hserver : s.server? i = some server) (hclosing : s.Closing i server closing)
    (hacts : s.actsOf i = (Task.start s.plan.means spec w).2.1 ++ closing)

/-- What holds throughout a session that serves some interfaces. -/
structure Sound (interfaces : List Interface) (s : Session) : Prop where
  coordinator : s.coordinator.Reached interfaces
  numbered : ∀ i a, s.server? i = some a → interfaces[a.task]? = some i
  servers : ∀ i a, s.server? i = some a → ∃ target,
    (Server.make i a.task target a.serving).Runs s.entries a
  acted : ∀ i, s.Acted i
  logged : (s.acts.filterMap fun act => act.2.logged act.1).Sublist s.entries

namespace Closing
variable {s t : Session} {i : Interface} {a b : Server} {closing : List TaskAct}
  {entries : List Log.Entry}

/-- A server that only goes on is as far with its task as before. -/
theorem of_stays (h : s.Closing i a closing) (hplan : t.plan = s.plan)
    (hrunning : a.task ∈ t.coordinator.running ↔ a.task ∈ s.coordinator.running)
    (hstays : a.Stays entries b) : t.Closing i b closing := by
  obtain ⟨events, hconnections⟩ := hstays.connections
  rw [← hstays.task] at hrunning
  cases h with
  | accepting hphase hin =>
    exact .accepting (hstays.accepting hphase) (hrunning.mpr (hstays.task ▸ hin))
  | draining hphase hin =>
    obtain ⟨hphase', hreported⟩ := Connections.run_of_ne_accepting hphase events
    rw [← hconnections] at hphase' hreported
    rw [← hreported, ← hplan]
    exact .draining hphase' (hrunning.mpr (hstays.task ▸ hin))
  | joined how w hphase hout =>
    have hphase' := (Connections.run_of_done hphase events).1
    have hreported := (Connections.run_of_ne_accepting (by rw [hphase]; nofun) events).2
    rw [← hconnections] at hphase' hreported
    rw [← hreported, ← hplan, ← hstays.serving]
    exact .joined how w hphase' (mt hrunning.mp (hstays.task ▸ hout))

end Closing

theorem Acted.of_stays {s t : Session} {i : Interface} (h : s.Acted i) (hplan : t.plan = s.plan)
    (hacts : t.actsOf i = s.actsOf i) (hnone : s.server? i = none → t.server? i = none)
    (hsome : ∀ a, s.server? i = some a →
      (a.task ∈ t.coordinator.running ↔ a.task ∈ s.coordinator.running) ∧
      ∃ entries b, t.server? i = some b ∧ a.Stays entries b) : t.Acted i := by
  cases h with
  | waits hserver hnothing => exact .waits (hnone hserver) (hacts.trans hnothing)
  | refused spec w halt hspec hstart hserver hdone =>
    rw [← hplan] at hstart hdone
    exact .refused spec w halt hspec hstart (hnone hserver) (hacts.trans hdone)
  | serves spec w server closing hspec hstart hserver hclosing hdone =>
    obtain ⟨hrunning, entries, b, hb, hstays⟩ := hsome server hserver
    rw [← hplan] at hstart hdone
    exact .serves spec w b closing hspec (hstays.serving ▸ hstart) hb
      (hclosing.of_stays hplan hrunning hstays) (hacts.trans hdone)

theorem actsOf_act (s : Session) (i j : Interface) (acts : List TaskAct) :
    (s.act i acts).actsOf j = if j = i then s.actsOf j ++ acts else s.actsOf j := by
  change (((s.acts ++ acts.map (i, ·)).filter (·.1 == j)).map (·.2)) = _
  rw [List.filter_append, List.map_append, List.filter_map, List.map_map]
  by_cases hj : j = i
  · subst hj
    simp [actsOf, Function.comp_def]
  · have hne : (i == j) = false := beq_eq_false_iff_ne.mpr (Ne.symm hj)
    simp [actsOf, Function.comp_def, hj, hne]

theorem Runs.exists_before {s t : Session} (h : s.Runs t) {i : Interface} {b : Server}
    (hb : t.server? i = some b) : ∃ a entries, s.server? i = some a ∧
      t.entries = s.entries ++ entries ∧ a.Stays entries b := by
  obtain ⟨entries, hentries, hnone, hsome⟩ := h.servers
  cases ha : s.server? i with
  | none => simp [hnone i ha] at hb
  | some a =>
    obtain ⟨b', hb', hstays⟩ := hsome i a ha
    cases hb'.symm.trans hb
    exact ⟨a, entries, rfl, hentries, hstays⟩

namespace Sound
variable {interfaces : List Interface} {s t : Session} {i j : Interface} {server a : Server}

theorem of_runs (h : Sound interfaces s) (hruns : s.Runs t) : Sound interfaces t where
  coordinator := hruns.coordinator ▸ h.coordinator
  numbered i b hb := by
    obtain ⟨a, entries, ha, -, hstays⟩ := hruns.exists_before hb
    rw [hstays.task]
    exact h.numbered i a ha
  servers i b hb := by
    obtain ⟨a, entries, ha, hentries, hstays⟩ := hruns.exists_before hb
    obtain ⟨target, hruns⟩ := h.servers i a ha
    rw [hstays.task, hstays.serving, hentries]
    exact ⟨target, hruns.trans hstays.toRuns⟩
  acted i := by
    obtain ⟨entries, -, hnone, hsome⟩ := hruns.servers
    refine (h.acted i).of_stays hruns.plan (by rw [actsOf, hruns.acts, actsOf]) (hnone i)
      fun a ha => ⟨by rw [hruns.coordinator], entries, hsome i a ha⟩
  logged := by
    obtain ⟨entries, hentries, -⟩ := hruns.servers
    rw [hruns.acts, hentries]
    exact h.logged.trans (List.sublist_append_left _ _)

theorem of_setOff (h : Sound interfaces s) : Sound interfaces s.setOff where
  coordinator := h.coordinator.trigger
  numbered := h.numbered
  servers i a ha := (h.servers i a ha).imp fun _ hruns =>
    hruns.mono (List.sublist_append_left _ _)
  acted i := (h.acted i).of_stays (t := s.setOff) rfl rfl id
    fun a ha => ⟨Iff.rfl, [], a, ha, .refl a⟩
  logged := h.logged.trans (List.sublist_append_left _ _)

/-- Something becomes of one interface, and the others stay as they are. -/
theorem of_change (h : Sound interfaces s) (i : Interface) {acts : List TaskAct}
    {entries : List Log.Entry} (hplan : t.plan = s.plan)
    (hcoordinator : t.coordinator.Reached interfaces)
    (hrunning : ∀ task, interfaces[task]? ≠ some i →
      (task ∈ t.coordinator.running ↔ task ∈ s.coordinator.running))
    (hacts : t.acts = s.acts ++ acts.map (i, ·)) (hentries : t.entries = s.entries ++ entries)
    (hlogged : (acts.filterMap (·.logged i)).Sublist entries)
    (hother : ∀ j, j ≠ i → t.server? j = s.server? j)
    (hserver : ∀ b, t.server? i = some b → interfaces[b.task]? = some i ∧
      ∃ target, (Server.make i b.task target b.serving).Runs t.entries b)
    (hacted : t.Acted i) : Sound interfaces t where
  coordinator := hcoordinator
  numbered j b hb := by
    by_cases hj : j = i
    · subst hj
      exact (hserver b hb).1
    · exact h.numbered j b (hother j hj ▸ hb)
  servers j b hb := by
    by_cases hj : j = i
    · subst hj
      exact (hserver b hb).2
    · obtain ⟨target, hruns⟩ := h.servers j b (hother j hj ▸ hb)
      exact ⟨target, hruns.mono (hentries ▸ List.sublist_append_left _ _)⟩
  acted j := by
    by_cases hj : j = i
    · subst hj
      exact hacted
    · have hsame : t.actsOf j = s.actsOf j := by
        have hact := actsOf_act s i j acts
        rw [if_neg hj] at hact
        rw [← hact, actsOf, hacts]
        rfl
      refine (h.acted j).of_stays hplan hsame
        (fun hnone => (hother j hj).trans hnone) fun a ha => ?_
      refine ⟨hrunning a.task ?_, [], a, (hother j hj).trans ha, .refl a⟩
      rw [h.numbered j a ha]
      exact fun heq => hj (Option.some.inj heq)
  logged := by
    rw [hacts, hentries, List.filterMap_append, List.filterMap_map]
    exact h.logged.append hlogged

theorem runs_stopped (a : Server) (deadline : Nat) : a.Runs [] (a.stopped deadline) := by
  refine ⟨rfl, rfl, rfl, ⟨[.shutdown], rfl⟩, ⟨[], rfl, List.nil_sublist _⟩,
    ⟨[.acceptCancelled], rfl, ?_⟩⟩
  unfold Server.tunnelled
  cases a.tunnel <;> exact List.nil_sublist _

theorem of_stopAccepting (h : Sound interfaces s) (hserver : s.server? i = some server)
    (hphase : server.connections.phase = .accepting) :
    Sound interfaces (s.stopAccepting i server) := by
  have hservers : ∀ j, (s.stopAccepting i server).server? j = _ := fun j =>
    server?_changeServer _ (f := (·.stopped (s.now + s.plan.drainMs))) (fun _ => rfl) i j
  have hstopped := (hservers i).trans ((if_pos rfl).trans (congrArg (Option.map _) hserver))
  refine h.of_change i rfl h.coordinator (fun _ _ => Iff.rfl) rfl rfl (.refl _)
    (fun j hj => (hservers j).trans (if_neg hj)) (fun b hb => ?_) ?_
  · cases hstopped.symm.trans hb
    obtain ⟨target, hruns⟩ := h.servers i server hserver
    refine ⟨h.numbered i server hserver, target, (hruns.trans (runs_stopped server _)).mono ?_⟩
    rw [List.append_nil]
    exact List.sublist_append_left _ _
  · have hdraining := (Connections.steps _ .shutdown).of_shutdown hphase
    cases h.acted i with
    | waits hnone | refused _ _ _ _ _ hnone => simp [hserver] at hnone
    | serves spec w server' closing hspec hstart hserver' hclosing hdone =>
      cases hserver.symm.trans hserver'
      cases hclosing with
      | draining hnot | joined _ _ hdone => simp [hphase] at *
      | accepting _ hrunning =>
        refine .serves spec w (server.stopped _) _ hspec hstart hstopped
          (.draining hdraining.1 hrunning) ?_
        rw [List.append_nil] at hdone
        exact (actsOf_act _ i i _).trans
          ((if_pos rfl).trans (congrArg (· ++ Task.stop i _ _) hdone))

theorem running_join_iff (h : Sound interfaces s) {task : Nat} (hi : interfaces[task]? = some i)
    (hrunning : task ∈ s.coordinator.running) (result : Except Halt Unit) (task' : Nat) :
    task' ∈ (s.coordinator.join task result).1.running ↔
      task' ≠ task ∧ task' ∈ s.coordinator.running := by
  rw [← h.coordinator.interface?_eq] at hi
  rw [Coordinator.join_running result hrunning hi]
  exact h.coordinator.nodup_running.mem_erase_iff

/-- A join leaves the tasks of other interfaces running. -/
theorem running_join_of_ne (h : Sound interfaces s) {task : Nat}
    (hi : interfaces[task]? = some i) (hrunning : task ∈ s.coordinator.running)
    (result : Except Halt Unit) (task' : Nat) (htask : interfaces[task']? ≠ some i) :
    task' ∈ (s.coordinator.join task result).1.running ↔ task' ∈ s.coordinator.running := by
  rw [h.running_join_iff hi hrunning]
  exact ⟨And.right, fun hin => ⟨fun heq => htask (heq ▸ hi), hin⟩⟩

theorem of_joinTask (h : Sound interfaces s) {how : Drained} (hserver : s.server? i = some server)
    (hphase : server.connections.phase = .done how)
    (hrunning : server.task ∈ s.coordinator.running) :
    Sound interfaces (s.joinTask i server how) := by
  have hi := h.numbered i server hserver
  refine h.of_change i rfl (h.coordinator.join hrunning (.ok ()))
    (h.running_join_of_ne hi hrunning (.ok ())) rfl (List.append_assoc ..)
    (List.sublist_append_left _ _) (fun _ _ => rfl) (fun b hb => ?_) ?_
  · cases hserver.symm.trans hb
    obtain ⟨target, hruns⟩ := h.servers i server hserver
    refine ⟨hi, target, hruns.mono ?_⟩
    exact (List.sublist_append_left _ _).trans (List.sublist_append_left _ _)
  · cases h.acted i with
    | waits hnone | refused _ _ _ _ _ hnone => simp [hserver] at hnone
    | serves spec w server' closing hspec hstart hserver' hclosing hdone =>
      cases hserver.symm.trans hserver'
      cases hclosing with
      | accepting haccepting => simp [hphase] at haccepting
      | joined _ _ _ hout => exact absurd hrunning hout
      | draining =>
        have hout : server.task ∉ (s.coordinator.join server.task (.ok ())).1.running := fun hin =>
          ((h.running_join_iff hi hrunning _ _).mp hin).1 rfl
        refine .serves spec w server _ hspec hstart hserver (.joined how s.host hphase hout) ?_
        refine (actsOf_act _ i i _).trans ((if_pos rfl).trans ?_)
        exact (congrArg (· ++ (Task.finish _ i _ how s.host).2) hdone).trans (List.append_assoc ..)

theorem of_moves (h : Sound interfaces s) (hmoves : s.Moves t) : Sound interfaces t := by
  cases hmoves with
  | runs hruns => exact h.of_runs hruns
  | setsOff => exact h.of_setOff
  | stops hserver hphase => exact h.of_stopAccepting hserver hphase
  | joins hserver hphase hrunning => exact h.of_joinTask hserver hphase hrunning

theorem of_steps (h : Sound interfaces s) (hsteps : s.Steps t) : Sound interfaces t := by
  induction hsteps with
  | refl => exact h
  | tail _ hmoves ih => exact ih.of_moves hmoves

end Sound

/-- A task has not begun yet. -/
structure Pending (interfaces : List Interface) (s : Session) (i : Interface)
    (task : Nat) : Prop where
  server : s.server? i = none
  acts : s.actsOf i = []
  running : task ∈ s.coordinator.running
  numbered : interfaces[task]? = some i

section
variable {interfaces : List Interface} {s : Session} {i : Interface} {task : Nat}

theorem server?_addServer (s : Session) (server : Server) (i : Interface) :
    (s.addServer server).server? i =
      (s.server? i).or (if server.interface = i then some server else none) := by
  unfold server? addServer
  rw [List.find?_append]
  congr 1
  by_cases h : server.interface = i <;> simp [h]

theorem server?_addServer_self (s : Session) (server : Server)
    (h : s.server? server.interface = none) :
    (s.addServer server).server? server.interface = some server := by
  rw [server?_addServer, h, if_pos rfl, Option.none_or]

theorem server?_addServer_of_ne (s : Session) {server : Server} (h : server.interface ≠ i) :
    (s.addServer server).server? i = s.server? i := by
  rw [server?_addServer, if_neg h, Option.or_none]

theorem runs_listening (a : Server) : a.Runs [] a.listening := by
  refine ⟨rfl, rfl, rfl, ⟨[], rfl⟩, ⟨[], rfl, List.nil_sublist _⟩, ⟨[.acceptStarted], rfl, ?_⟩⟩
  unfold Server.tunnelled
  cases a.tunnel with
  | none => exact List.nil_sublist _
  | some t =>
    simp only [TunnelListener.run, TunnelListener.step, List.append_nil]
    split <;> exact List.nil_sublist _

theorem actsOf_begun (hacts : s.actsOf i = []) (host : Host) (acts : List TaskAct) :
    (({ s with host } : Session).act i acts).actsOf i = acts := by
  refine (actsOf_act _ i i acts).trans ((if_pos rfl).trans ?_)
  exact congrArg (· ++ acts) hacts

theorem Sound.of_served (h : Sound interfaces s) {spec : InterfaceSpec}
    (hpending : s.Pending interfaces spec.interface task) {host : Host} {acts : List TaskAct}
    {serving : Serving}
    (hstarted : Task.start s.plan.means spec s.host = (host, acts, .ok serving)) :
    Sound interfaces ((({ s with host } : Session).act spec.interface acts).addServer
      (Server.make spec.interface task spec.target serving).listening) := by
  have hserver := server?_addServer_self (({ s with host } : Session).act spec.interface acts)
    (Server.make spec.interface task spec.target serving).listening hpending.server
  refine h.of_change spec.interface rfl h.coordinator (fun _ _ => Iff.rfl) rfl rfl (.refl _)
    (fun j hj => server?_addServer_of_ne _ (Ne.symm hj)) (fun b hb => ?_) ?_
  · cases hserver.symm.trans hb
    exact ⟨hpending.numbered, spec.target, (runs_listening _).mono (List.nil_sublist _)⟩
  · refine .serves spec s.host _ [] rfl (congrArg (·.2.2) hstarted) hserver
      (.accepting rfl hpending.running) ?_
    refine (actsOf_begun hpending.acts host acts).trans ?_
    rw [List.append_nil]
    exact (congrArg (·.2.1) hstarted).symm

theorem Sound.of_refused (h : Sound interfaces s) {spec : InterfaceSpec}
    (hpending : s.Pending interfaces spec.interface task) {host : Host} {acts : List TaskAct}
    {halt : Halt} (hstarted : Task.start s.plan.means spec s.host = (host, acts, .error halt)) :
    Sound interfaces ((({ s with host } : Session).act spec.interface acts).refuse task halt) := by
  refine h.of_change spec.interface rfl (h.coordinator.join hpending.running (.error halt))
    (h.running_join_of_ne hpending.numbered hpending.running (.error halt)) rfl
    (List.append_assoc ..) (List.sublist_append_left _ _) (fun _ _ => rfl) (fun b hb => ?_) ?_
  · cases hpending.server.symm.trans hb
  · refine .refused spec s.host halt rfl (congrArg (·.2.2) hstarted) hpending.server ?_
    exact (actsOf_begun hpending.acts host acts).trans (congrArg (·.2.1) hstarted).symm

theorem Sound.of_startTask (h : Sound interfaces s) {spec : InterfaceSpec}
    (hpending : s.Pending interfaces spec.interface task) :
    Sound interfaces (s.startTask task spec) := by
  unfold startTask
  generalize hstarted : Task.start s.plan.means spec s.host = started
  obtain ⟨host, acts, halt | serving⟩ := started
  · exact h.of_refused hpending hstarted
  · exact h.of_served hpending hstarted

/-- The tasks of other interfaces can still begin. -/
theorem Pending.of_startTask (h : Sound interfaces s) {spec : InterfaceSpec} {task' : Nat}
    (hpending : s.Pending interfaces spec.interface task) (hi : i ≠ spec.interface)
    (hpending' : s.Pending interfaces i task') :
    (s.startTask task spec).Pending interfaces i task' := by
  unfold startTask
  generalize Task.start s.plan.means spec s.host = started
  obtain ⟨host, acts, halt | serving⟩ := started
  · refine ⟨hpending'.server, ?_, ?_, hpending'.numbered⟩
    · exact (actsOf_act _ _ i acts).trans ((if_neg hi).trans hpending'.acts)
    · refine (h.running_join_of_ne hpending.numbered hpending.running _ task' ?_).mpr
        hpending'.running
      rw [hpending'.numbered]
      exact fun heq => hi (Option.some.inj heq)
  · refine ⟨?_, ?_, hpending'.running, hpending'.numbered⟩
    · exact (server?_addServer_of_ne _ (Ne.symm hi)).trans hpending'.server
    · exact (actsOf_act _ _ i acts).trans ((if_neg hi).trans hpending'.acts)

theorem Sound.of_startTasks (h : Sound interfaces s) {specs : List (InterfaceSpec × Nat)}
    (hnodup : (specs.map (·.1.interface)).Nodup)
    (hpending : ∀ p ∈ specs, s.Pending interfaces p.1.interface p.2) :
    Sound interfaces (specs.foldl (fun s (spec, task) => s.startTask task spec) s) := by
  induction specs generalizing s with
  | nil => exact h
  | cons p specs ih =>
    rw [List.map_cons, List.nodup_cons] at hnodup
    have hfirst := hpending p List.mem_cons_self
    refine ih (h.of_startTask hfirst) hnodup.2 fun q hq => ?_
    have hne : q.1.interface ≠ p.1.interface := fun heq =>
      hnodup.1 (heq ▸ List.mem_map_of_mem hq)
    exact .of_startTask h hfirst hne (hpending q (List.mem_cons_of_mem _ hq))

end

end Session

/-- What is prepared for an interface is for that interface. -/
def Plan.Names (plan : Plan) : Prop :=
  ∀ text prepared, plan.prepare text = .ok prepared →
    ∀ i, (prepared.artifacts.spec i).interface = i

theorem Plan.names_of_setup {plan : Plan} {app : Application} {build : Build}
    {registry : Metrics.Registry} {command : Command} {reads : Reads}
    (h : ∀ text, plan.prepare text = setup app build text registry command reads) :
    plan.Names := by
  intro text prepared hprepared i
  rw [h] at hprepared
  obtain ⟨routes, hspec⟩ := spec_of_setup hprepared i
  rw [hspec, makeSpec_interface]

namespace Session
variable {plan : Plan} {settings : Config.Settings} {host : Host} {early : Bool} {s : Session}

theorem map_interface_select {artifacts : Artifacts} (h : ∀ i, (artifacts.spec i).interface = i)
    (mode : ServeMode) : (artifacts.select mode).map (·.interface) = mode.interfaces := by
  rw [Artifacts.select, List.map_map]
  exact (List.map_congr_left fun i _ => h i).trans (List.map_id _)

theorem sound_idle (plan : Plan) (settings : Config.Settings) (host : Host) (early : Bool)
    (prepared : Prepared) :
    Sound ((prepared.artifacts.select plan.mode).map (·.interface))
      (idle plan settings host early prepared) where
  coordinator := Coordinator.reached_spawn _ _
  numbered _ _ h := nomatch h
  servers _ _ h := nomatch h
  acted _ := .waits rfl rfl
  logged := List.nil_sublist _

/-- The start of a session brings the invariant about. -/
theorem sound_start (hplan : plan.Names) (h : start plan settings host early = .ok s) :
    Sound plan.mode.interfaces s := by
  unfold start at h
  cases hprepared : plan.prepare "" with
  | error fault => simp [hprepared, Except.map] at h
  | ok prepared =>
    rw [hprepared] at h
    cases h
    have hinterfaces := map_interface_select (hplan "" prepared hprepared) plan.mode
    have hidle := sound_idle plan settings host early prepared
    rw [← hinterfaces]
    refine (hidle.of_startTasks ?_ fun p hp => ?_).of_steps (steps_settle _)
    · have hnodup : plan.mode.interfaces.Nodup := by
        cases plan.mode with
        | all => decide
        | only i => exact List.nodup_singleton i
      have hnames := congrArg (List.map (·.interface))
        (List.zipIdx_map_fst 0 (prepared.artifacts.select plan.mode))
      rw [List.map_map, hinterfaces] at hnames
      exact hnames ▸ hnodup
    · obtain ⟨spec, task⟩ := p
      have hspec := List.mem_zipIdx_iff_getElem?.mp hp
      have hnumbered : ((prepared.artifacts.select plan.mode).map (·.interface))[task]? =
          some spec.interface := by
        rw [List.getElem?_map, hspec, Option.map_some]
      refine ⟨rfl, rfl, ?_, hnumbered⟩
      refine (Coordinator.running_spawn _ _).symm ▸ List.mem_range.mpr ?_
      exact (List.getElem?_eq_some_iff.mp hnumbered).1

/-- Whatever comes to a session, its servers, its coordinator and its tasks are where the events of
their own have taken them. -/
theorem sound_run (hplan : plan.Names) (h : start plan settings host early = .ok s)
    (events : List SessionEvent) : Sound plan.mode.interfaces (s.run events) :=
  (sound_start hplan h).of_steps (steps_run s events)

namespace Sound
variable {interfaces : List Interface} {i : Interface} {a : Server}

/-- A server never has more streams of its tunnel than that may give out at a time. -/
theorem streams_le (h : Sound interfaces s) (ha : s.server? i = some a) {t : TunnelListener}
    (ht : a.tunnel = some t) : t.streams.length ≤ max ({} : ListenOptions).maxConnections 1 := by
  obtain ⟨target, hruns⟩ := h.servers i a ha
  obtain ⟨events, htunnel, -⟩ := hruns.tunnel
  rw [ht] at htunnel
  unfold Server.tunnelled Server.make at htunnel
  cases hbound : a.serving.bound with
  | unix path id => simp [hbound] at htunnel
  | tcp address => simp [hbound] at htunnel
  | tunnel service =>
    simp only [hbound, Option.some.injEq] at htunnel
    have hholds :=
      (TunnelListener.holds_make service ({} : ListenOptions).maxConnections).run events
    rw [← htunnel] at hholds
    have htotal := hholds.total
    omega

/-- What a drain of a session reports is the number of connections that were open when the last one
was accepted. -/
theorem reported_eq (h : Sound interfaces s) (ha : s.server? i = some a)
    (hphase : a.connections.phase ≠ .accepting) :
    ∃ events before quiet after, a.connections = Connections.run {} events ∧
      Connections.Triggered events before quiet after ∧
      a.connections.reported = (Connections.run {} before).opened.length ∧
      Task.stop i a.connections.reported s.plan.drainMs <:+: s.actsOf i := by
  obtain ⟨target, hruns⟩ := h.servers i a ha
  obtain ⟨events, hconnections⟩ := hruns.connections
  have hconnections : a.connections = Connections.run {} events := hconnections
  rw [hconnections] at hphase
  obtain ⟨before, quiet, after, htriggered⟩ := Connections.exists_triggered hphase
  refine ⟨events, before, quiet, after, hconnections, htriggered, ?_, ?_⟩
  · rw [hconnections, htriggered.reported_run]
  · cases h.acted i with
    | waits hnone | refused _ _ _ _ _ hnone => simp [ha] at hnone
    | serves spec w server closing _ _ hserver hclosing hacts =>
      cases ha.symm.trans hserver
      rw [hacts]
      cases hclosing with
      | accepting haccepting => exact absurd (hconnections ▸ haccepting) hphase
      | draining => exact (List.suffix_append _ _).isInfix
      | joined =>
        rw [← List.append_assoc]
        exact ⟨_, _, rfl⟩

/-- The states of an interface are those of a task on its way, or of one that got nothing to serve
on. -/
theorem states_eq (h : Sound interfaces s) (i : Interface) :
    s.states i <+: servedStates ∨ s.states i = refusedStates := by
  unfold states
  cases h.acted i with
  | waits _ hacts =>
    rw [hacts]
    exact .inl List.nil_prefix
  | refused spec w halt _ hstart _ hacts =>
    rw [Task.start_result] at hstart
    rw [hacts, Task.statesOf_start, hstart]
    cases halt with
    | failure => exact .inr rfl
    | panic => exact .inl ⟨[.serving, .shuttingDown, .terminated], rfl⟩
  | serves spec w server closing _ hstart _ hclosing hacts =>
    rw [Task.start_result] at hstart
    rw [hacts, Task.statesOf_append, Task.statesOf_start, hstart]
    cases hclosing with
    | accepting => exact .inl ⟨[.shuttingDown, .terminated], rfl⟩
    | draining => exact .inl ⟨[.terminated], rfl⟩
    | joined =>
      rw [Task.statesOf_append, Task.statesOf_finish]
      exact .inl ⟨[], rfl⟩

/-- A session that is finished has drained every server that it had. -/
theorem states_of_finished (h : Sound interfaces s) (hdone : s.isFinished = true)
    (ha : s.server? i = some a) :
    s.states i = servedStates ∧ ∃ how, a.connections.phase = .done how := by
  have hnone : s.coordinator.running = [] := List.isEmpty_iff.mp hdone
  cases h.acted i with
  | waits hserver | refused _ _ _ _ _ hserver => simp [ha] at hserver
  | serves spec w server closing _ hstart hserver hclosing hacts =>
    cases ha.symm.trans hserver
    rw [Task.start_result] at hstart
    rw [states, hacts, Task.statesOf_append, Task.statesOf_start, hstart]
    cases hclosing with
    | accepting _ hrunning | draining _ hrunning => simp [hnone] at hrunning
    | joined how w' hphase =>
      rw [Task.statesOf_append, Task.statesOf_finish]
      exact ⟨rfl, how, hphase⟩

end Sound

end Session
end DualServer.Serve
