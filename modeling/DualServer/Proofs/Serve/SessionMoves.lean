import Mathlib.Logic.Relation
import DualServer.Proofs.Serve.Draining
import DualServer.Proofs.Tls.Handshaking
import DualServer.Proofs.Transport.Permits
import DualServer.Serve.Session

/-! What happens in a session comes down to four kinds of moves. Three of them concern the tasks:
the shutdown is set off, a listener stops accepting, a task is joined. In all the rest the servers
only go on, their connections, handshakes and tunnels each by events of their own. -/
namespace DualServer.Serve
open DualServer.Lifecycle DualServer.Transport

namespace Server

theorem tunnelled_nil (a : Server) : a.tunnelled [] = (a.tunnel, []) := by
  unfold tunnelled
  cases a.tunnel <;> rfl

theorem tunnelled_append {a b : Server} {events : List TunnelEvent}
    (h : b.tunnel = (a.tunnelled events).1) (later : List TunnelEvent) :
    a.tunnelled (events ++ later) =
      ((b.tunnelled later).1, (a.tunnelled events).2 ++ (b.tunnelled later).2) := by
  unfold tunnelled at h ⊢
  cases htunnel : a.tunnel with
  | none =>
    rw [htunnel] at h
    simp only [h, List.append_nil]
  | some t =>
    rw [htunnel] at h
    simp only [h, TunnelListener.run_append]

/-- The parts of a server go on by events of their own, and what is logged of that is among some
entries. -/
structure Runs (entries : List Log.Entry) (a b : Server) : Prop where
  interface : b.interface = a.interface
  task : b.task = a.task
  serving : b.serving = a.serving
  connections : ∃ events, b.connections = a.connections.run events
  handshakes : ∃ events, b.handshakes = (a.handshakes.run events).1 ∧
    (a.handshakes.run events).2.Sublist entries
  tunnel : ∃ events, b.tunnel = (a.tunnelled events).1 ∧ (a.tunnelled events).2.Sublist entries

theorem tunnelled_dropped (a : Server) (id : Nat) : (a.tunnelled [.streamDropped id]).2 = [] := by
  unfold tunnelled
  cases a.tunnel with
  | none => rfl
  | some t =>
    simp only [TunnelListener.run, TunnelListener.step, List.append_nil]
    split
    · split <;> rfl
    · rfl

theorem tunnelled_failed (a : Server) (text : String) :
    (a.tunnelled [.acceptFailed text]).1 = a.tunnel := by
  unfold tunnelled
  cases a.tunnel <;> rfl

namespace Runs
variable {entries later : List Log.Entry} {a b c : Server}

theorem trans (h : Runs entries a b) (h' : Runs later b c) : Runs (entries ++ later) a c where
  interface := h'.interface.trans h.interface
  task := h'.task.trans h.task
  serving := h'.serving.trans h.serving
  connections := by
    obtain ⟨events, hb⟩ := h.connections
    obtain ⟨events', hc⟩ := h'.connections
    exact ⟨events ++ events', by rw [Connections.run_append, ← hb, hc]⟩
  handshakes := by
    obtain ⟨events, hb, hlog⟩ := h.handshakes
    obtain ⟨events', hc, hlog'⟩ := h'.handshakes
    rw [hb] at hc hlog'
    refine ⟨events ++ events', ?_, ?_⟩
    · rw [Tls.Handshakes.run_append, hc]
    · rw [Tls.Handshakes.run_append]
      exact hlog.append hlog'
  tunnel := by
    obtain ⟨events, hb, hlog⟩ := h.tunnel
    obtain ⟨events', hc, hlog'⟩ := h'.tunnel
    refine ⟨events ++ events', ?_, ?_⟩
    · rw [tunnelled_append hb, hc]
    · rw [tunnelled_append hb]
      exact hlog.append hlog'

theorem mono (h : Runs entries a b) (hsub : entries.Sublist later) : Runs later a b :=
  ⟨h.interface, h.task, h.serving, h.connections,
    h.handshakes.imp fun _ hb => ⟨hb.1, hb.2.trans hsub⟩,
    h.tunnel.imp fun _ hb => ⟨hb.1, hb.2.trans hsub⟩⟩

end Runs

/-- A server goes on without a word to stop accepting. -/
structure Stays (entries : List Log.Entry) (a b : Server) : Prop extends Runs entries a b where
  accepting : a.connections.phase = .accepting → b.connections.phase = .accepting

namespace Stays
variable {entries later : List Log.Entry} {a b c : Server}

theorem of_connections (events : List ConnectionEvent)
    (hevents : ConnectionEvent.shutdown ∉ events) (hserver : b.interface = a.interface)
    (htask : b.task = a.task) (hserving : b.serving = a.serving)
    (hconnections : b.connections = a.connections.run events)
    (hhandshakes : b.handshakes = a.handshakes)
    (htunnel : ∃ events, b.tunnel = (a.tunnelled events).1 ∧ (a.tunnelled events).2 = []) :
    Stays entries a b where
  interface := hserver
  task := htask
  serving := hserving
  connections := ⟨events, hconnections⟩
  handshakes := ⟨[], hhandshakes, List.nil_sublist _⟩
  tunnel := by
    obtain ⟨events, hb, hlog⟩ := htunnel
    exact ⟨events, hb, hlog ▸ List.nil_sublist _⟩
  accepting h := hconnections ▸ Connections.accepting_run h hevents

/-- Neither the connections nor the handshakes nor the tunnel have changed. -/
theorem of_same (hserver : b.interface = a.interface) (htask : b.task = a.task)
    (hserving : b.serving = a.serving) (hconnections : b.connections = a.connections)
    (hhandshakes : b.handshakes = a.handshakes) (htunnel : b.tunnel = a.tunnel) :
    Stays entries a b :=
  .of_connections [] List.not_mem_nil hserver htask hserving hconnections hhandshakes
    ⟨[], by rw [tunnelled_nil, htunnel], by rw [tunnelled_nil]⟩

theorem refl (a : Server) : Stays entries a a := of_same rfl rfl rfl rfl rfl rfl

theorem trans (h : Stays entries a b) (h' : Stays later b c) : Stays (entries ++ later) a c :=
  ⟨h.toRuns.trans h'.toRuns, fun haccepting => h'.accepting (h.accepting haccepting)⟩

end Stays

end Server

namespace Session

section
variable (s : Session) {f : Server → Server}
  (hf : ∀ server, (f server).interface = server.interface)
include hf

theorem server?_changeServers (i : Interface) :
    (s.changeServers f).server? i = (s.server? i).map f := by
  unfold server? changeServers
  rw [List.find?_map]
  congr 2
  funext server
  rw [Function.comp_apply, hf]

theorem server?_changeServer (i j : Interface) :
    (s.changeServer i f).server? j = if j = i then (s.server? j).map f else s.server? j := by
  unfold changeServer
  rw [server?_changeServers _ fun server => by split; exacts [hf server, rfl]]
  cases h : s.server? j with
  | none => simp
  | some server =>
    have hj : server.interface = j := by simpa using List.find?_some h
    rw [Option.map_some, hj]
    split <;> simp

end

/-- In a stretch of time no task begins, ends or stops accepting. The servers go on, and all that
they log is logged. -/
structure Runs (s t : Session) : Prop where
  plan : t.plan = s.plan
  coordinator : t.coordinator = s.coordinator
  acts : t.acts = s.acts
  servers : ∃ entries, t.entries = s.entries ++ entries ∧
    (∀ i, s.server? i = none → t.server? i = none) ∧
    ∀ i a, s.server? i = some a → ∃ b, t.server? i = some b ∧ a.Stays entries b

/-- Everything that can happen in a session at once. -/
inductive Moves (s : Session) : Session → Prop
  | runs {t : Session} (h : s.Runs t) : Moves s t
  | setsOff : Moves s s.setOff
  | stops {i : Interface} {server : Server} (h : s.server? i = some server)
    (hphase : server.connections.phase = .accepting) : Moves s (s.stopAccepting i server)
  | joins {i : Interface} {server : Server} {how : Drained} (h : s.server? i = some server)
    (hphase : server.connections.phase = .done how)
    (hrunning : server.task ∈ s.coordinator.running) : Moves s (s.joinTask i server how)

abbrev Steps : Session → Session → Prop := Relation.ReflTransGen Moves

namespace Runs
variable {s t u : Session}

/-- What has no server in it changes none. -/
theorem of_same (hplan : t.plan = s.plan) (hcoordinator : t.coordinator = s.coordinator)
    (hacts : t.acts = s.acts) (hservers : t.servers = s.servers)
    (hentries : t.entries = s.entries) : s.Runs t := by
  have hsame : ∀ i, t.server? i = s.server? i := fun i => by rw [server?, hservers, server?]
  refine ⟨hplan, hcoordinator, hacts, [], by rw [hentries, List.append_nil], ?_, ?_⟩
  · exact fun i hnone => (hsame i).trans hnone
  · exact fun i a ha => ⟨a, (hsame i).trans ha, .refl a⟩

theorem refl (s : Session) : s.Runs s := of_same rfl rfl rfl rfl rfl

theorem trans (h : s.Runs t) (h' : t.Runs u) : s.Runs u := by
  obtain ⟨entries, hentries, hnone, hsome⟩ := h.servers
  obtain ⟨later, hlater, hnone', hsome'⟩ := h'.servers
  refine ⟨h'.plan.trans h.plan, h'.coordinator.trans h.coordinator, h'.acts.trans h.acts,
    entries ++ later, ?_, ?_, ?_⟩
  · rw [hlater, hentries, List.append_assoc]
  · exact fun i hi => hnone' i (hnone i hi)
  · intro i a ha
    obtain ⟨b, hb, hruns⟩ := hsome i a ha
    obtain ⟨c, hc, hruns'⟩ := hsome' i b hb
    exact ⟨c, hc, hruns.trans hruns'⟩

theorem steps (h : s.Runs t) : s.Steps t := .single (.runs h)

theorem foldl {α : Type} {f : Session → α → Session} (hf : ∀ s x, Runs s (f s x)) (s : Session)
    (xs : List α) : s.Runs (xs.foldl f s) := by
  induction xs generalizing s with
  | nil => exact refl s
  | cons x xs ih => exact (hf s x).trans (ih (f s x))

end Runs

theorem Steps.foldl {α : Type} {f : Session → α → Session} (hf : ∀ s x, Steps s (f s x))
    (s : Session) (xs : List α) : s.Steps (xs.foldl f s) := by
  induction xs generalizing s with
  | nil => exact .refl
  | cons x xs ih => exact (hf s x).trans (ih (f s x))

section
variable (s : Session)

theorem runs_changeClient (id : Nat) (f : Client → Client) : s.Runs (s.changeClient id f) :=
  .of_same rfl rfl rfl rfl rfl

theorem runs_log (entries : List Log.Entry) : s.Runs (s.log entries) :=
  ⟨rfl, rfl, rfl, entries, rfl, fun _ h => h, fun _ a h => ⟨a, h, .refl a⟩⟩

/-- A server changes, and its changes are logged. -/
theorem runs_changeServer_log {i : Interface} {f : Server → Server} {entries : List Log.Entry}
    (hf : ∀ server, (f server).interface = server.interface)
    (h : ∀ a, s.server? i = some a → a.Stays entries (f a)) :
    s.Runs ((s.changeServer i f).log entries) := by
  refine ⟨rfl, rfl, rfl, entries, rfl, fun j hj => ?_, fun j a ha => ?_⟩
  · change (s.changeServer i f).server? j = none
    rw [server?_changeServer s hf, hj]
    simp
  · change ∃ b, (s.changeServer i f).server? j = some b ∧ _
    rw [server?_changeServer s hf, ha]
    by_cases hj : j = i
    · exact ⟨f a, if_pos hj, h a (hj ▸ ha)⟩
    · exact ⟨a, if_neg hj, .refl a⟩

theorem runs_changeServer {i : Interface} {f : Server → Server}
    (h : ∀ a : Server, a.Stays [] (f a)) : s.Runs (s.changeServer i f) := by
  have hlog := s.runs_changeServer_log (i := i) (f := f) (fun a => (h a).interface) fun a _ => h a
  simpa only [log, List.append_nil] using hlog

theorem runs_changeServers {f : Server → Server} (h : ∀ a : Server, a.Stays [] (f a)) :
    s.Runs (s.changeServers f) := by
  have hf : ∀ server, (f server).interface = server.interface := fun a => (h a).interface
  refine ⟨rfl, rfl, rfl, [], (List.append_nil _).symm, fun i hi => ?_,
    fun i a ha => ?_⟩
  · rw [server?_changeServers s hf, hi, Option.map_none]
  · exact ⟨f a, by rw [server?_changeServers s hf, ha, Option.map_some], h a⟩

/-- A connection ends, and so does the stream that it may have come by. -/
theorem runs_endConnection (id : Nat) : s.Runs (s.endConnection id) := by
  unfold endConnection
  split
  · exact .refl s
  · refine Runs.trans ?_ (runs_changeServer _ fun a =>
      .of_connections [.closed id] (by simp) rfl rfl rfl rfl rfl ⟨_, rfl, a.tunnelled_dropped id⟩)
    exact .of_same rfl rfl rfl rfl rfl

theorem runs_answer (x : Exchange) : s.Runs (s.answer x) := by
  unfold answer
  split
  · dsimp only
    split
    · exact (runs_changeClient ..).trans (runs_endConnection ..)
    · exact runs_changeClient ..
  · exact s.runs_endConnection _

theorem runs_carryOn (x : Exchange) (effects : List Pipeline.Effect) :
    s.Runs (s.carryOn x effects) := by
  induction effects generalizing s with
  | nil => exact s.runs_answer x
  | cons effect effects ih =>
    cases effect with
    | log entry => exact (s.runs_log _).trans (ih _)
    | measure sample =>
      refine Runs.trans ?_ (ih { s with series := s.series.record sample })
      exact .of_same rfl rfl rfl rfl rfl
    | pause ms => exact .of_same rfl rfl rfl rfl rfl

theorem runs_handle (client : Client) (request : Http.Request) :
    s.Runs (s.handle client request) := by
  unfold handle
  split
  · exact .refl s
  · exact (runs_changeClient ..).trans (runs_carryOn ..)

theorem runs_accept (i : Interface) (id : Nat) : s.Runs (s.accept i id) :=
  runs_changeServer s fun a => .of_connections [.accepted id] (by simp) rfl rfl rfl rfl rfl
    ⟨[], by rw [a.tunnelled_nil], by rw [a.tunnelled_nil]⟩

theorem runs_welcome (i : Interface) (id : Nat) : s.Runs (s.welcome i id) := by
  unfold welcome
  split
  · split
    · exact runs_endConnection ..
    · split
      · dsimp only
        split
        · exact runs_handle ..
        · exact (runs_handle ..).trans (runs_endConnection ..)
      · split
        · exact runs_changeClient ..
        · exact runs_endConnection ..
  · exact .refl s

theorem runs_serve (i : Interface) (id : Nat) : s.Runs (s.serve i id) :=
  (s.runs_accept i id).trans (runs_welcome ..)

theorem runs_handshake (i : Interface) (events : List Tls.HandshakeEvent) :
    s.Runs (s.handshake i events) := by
  unfold handshake
  split
  · exact .refl s
  next server hserver =>
    refine runs_changeServer_log s (fun _ => rfl) fun a ha => ?_
    cases hserver.symm.trans ha
    refine ⟨⟨rfl, rfl, rfl, ⟨[], rfl⟩, ⟨events, rfl, List.Sublist.refl _⟩, ⟨[], ?_, ?_⟩⟩, id⟩
    · rw [server.tunnelled_nil]
    · rw [server.tunnelled_nil]
      exact List.nil_sublist _

theorem runs_failHandshake (i : Interface) (id : Nat) (text : String) :
    s.Runs (s.failHandshake i id text) :=
  ((runs_handshake ..).trans (runs_endConnection ..)).trans
    (runs_changeServer _ fun _ => .of_same rfl rfl rfl rfl rfl rfl)

theorem runs_shakeHands (i : Interface) (client : Client) : s.Runs (s.shakeHands i client) := by
  unfold shakeHands
  dsimp only
  split
  · exact runs_failHandshake ..
  · split
    · exact (runs_handshake ..).trans (runs_serve ..)
    · split
      · exact runs_failHandshake ..
      · exact runs_changeClient ..

theorem runs_takeIn (i : Interface) (id : Nat) : s.Runs (s.takeIn i id) := by
  unfold takeIn
  split
  · split
    · exact (runs_handshake ..).trans (runs_shakeHands ..)
    · exact runs_serve ..
  · exact .refl s

theorem runs_take {i : Interface} {server : Server} (h : s.server? i = some server)
    (rest : List Arrival) (arrival : Arrival) : s.Runs (s.take i server rest arrival) := by
  cases arrival with
  | failure text =>
    refine runs_changeServer_log s (fun _ => rfl) fun a ha => ?_
    cases h.symm.trans ha
    exact ⟨⟨rfl, rfl, rfl, ⟨[], rfl⟩, ⟨[], rfl, List.nil_sublist _⟩,
      ⟨[.acceptFailed text], (server.tunnelled_failed text).symm, List.Sublist.refl _⟩⟩, id⟩
  | stream id peer =>
    refine Runs.trans ?_ (runs_takeIn _ i id)
    refine runs_changeServer_log s (fun _ => rfl) fun a ha => ?_
    cases h.symm.trans ha
    exact ⟨⟨rfl, rfl, rfl, ⟨[], rfl⟩, ⟨[], rfl, List.nil_sublist _⟩,
      ⟨[.streamYielded id peer, .acceptStarted], rfl, List.Sublist.refl _⟩⟩, fun h => h⟩

theorem runs_takeAll (i : Interface) (n : Nat) : s.Runs (s.takeAll i n) := by
  induction n generalizing s with
  | zero => exact .refl s
  | succ n ih =>
    unfold takeAll
    split
    · exact .refl s
    next server hserver =>
      split
      · split
        · exact .refl s
        · exact (s.runs_take hserver _ _).trans (ih _)
      · exact .refl s

theorem runs_takeEach : s.Runs s.takeEach :=
  .foldl (fun _ (server : Server) => runs_takeAll _ server.interface _) _ _

theorem runs_giveUp (i : Interface) : s.Runs (s.giveUp i) := by
  unfold giveUp
  split
  · exact .refl s
  · refine Runs.trans ?_ (.foldl runs_endConnection _ _)
    exact runs_changeServer s fun a => .of_connections [.timeout] (by simp) rfl rfl rfl rfl rfl
      ⟨[], by rw [a.tunnelled_nil], by rw [a.tunnelled_nil]⟩

theorem runs_closeIdle (i : Interface) (phase : ConnectionPhase) :
    s.Runs (s.closeIdle i phase) := by
  have hrefused : s.Runs ((s.idsAt i [.queued, .handshaking]).foldl endConnection s) :=
    .foldl runs_endConnection _ _
  unfold closeIdle
  dsimp only
  split
  · exact hrefused.trans (runs_giveUp ..)
  · exact hrefused.trans (.foldl runs_endConnection _ _)

theorem steps_beginDrain (i : Interface) : s.Steps (s.beginDrain i) := by
  unfold beginDrain
  split
  · exact .refl
  next server hserver =>
    split
    next hphase => exact .tail (.single (.stops hserver hphase)) (.runs (runs_closeIdle ..))
    · exact .refl

theorem steps_conclude (i : Interface) : s.Steps (s.conclude i) := by
  unfold conclude
  split
  · exact .refl
  next server hserver =>
    split
    next how hphase =>
      split
      next hrunning => exact .single (.joins hserver hphase (List.contains_iff_mem.mp hrunning))
      · exact .refl
    · exact .refl

theorem steps_settle : s.Steps s.settle := by
  have hdrains : s.Steps s.beginDrains := by
    unfold beginDrains
    split
    · exact .foldl steps_beginDrain _ _
    · exact .refl
  exact (hdrains.tail (.runs (runs_takeEach _))).trans (Steps.foldl steps_conclude _ _)

theorem steps_settle_of_runs {s t : Session} (h : s.Runs t) : s.Steps t.settle :=
  h.steps.trans t.steps_settle

theorem steps_trigger : s.Steps s.trigger := .head .setsOff (steps_settle _)

theorem steps_hangUp (id : Nat) : s.Steps (s.hangUp id) := by
  unfold hangUp
  split
  · exact .refl
  · dsimp only
    have hgone := s.runs_changeClient id ({ · with present := false })
    split
    · exact hgone.steps
    · exact hgone.steps
    · exact steps_settle_of_runs (hgone.trans (runs_failHandshake ..))
    · exact steps_settle_of_runs (hgone.trans (runs_endConnection ..))

theorem steps_send (id : Nat) (request : Http.Request) (waitMs : Nat) (single : Bool) :
    s.Steps (s.send id request waitMs single) := by
  unfold send
  split
  · exact .refl
  · dsimp only
    split
    · exact steps_settle_of_runs ((runs_changeClient ..).trans (runs_handle ..))
    · exact steps_settle_of_runs ((runs_changeClient ..).trans (runs_failHandshake ..))
    · exact ((runs_changeClient ..).trans (runs_changeClient ..)).steps
    · exact (runs_changeClient ..).steps

theorem steps_expire (id : Nat) : s.Steps (s.expire id) :=
  .head (.runs (runs_changeClient ..)) (steps_hangUp ..)

theorem steps_expireAll : s.Steps s.expireAll := Steps.foldl steps_expire _ _

theorem runs_wake : s.Runs s.wake := by
  unfold wake
  refine Runs.trans ?_ (.foldl (fun s x => runs_carryOn s x _) _ _)
  exact .of_same rfl rfl rfl rfl rfl

theorem runs_retry : s.Runs s.retry := by
  refine runs_changeServers s fun a => ?_
  split
  · exact .of_same rfl rfl rfl rfl rfl rfl
  · exact .refl a

theorem runs_dropSlow : s.Runs s.dropSlow :=
  .foldl (fun _ (c : Client) => runs_failHandshake _ c.interface c.id _) _ _

theorem runs_giveUpLate : s.Runs s.giveUpLate := .foldl runs_giveUp _ _

theorem steps_moveTo (t : Nat) : s.Steps (s.moveTo t) := by
  have hmoved : s.Runs { s with now := t } := .of_same rfl rfl rfl rfl rfl
  have hwoken := fun s => (steps_expireAll s).trans (steps_settle_of_runs (runs_wake _))
  have hretried := fun s => steps_settle_of_runs ((runs_dropSlow s).trans (runs_retry _))
  have hlate := fun s => steps_settle_of_runs (runs_giveUpLate s)
  exact ((hmoved.steps.trans (hwoken _)).trans (hretried _)).trans (hlate _)

theorem steps_runTo (limit : Nat) (stop : Session → Bool) (fuel : Nat) :
    s.Steps (runTo limit stop fuel s) := by
  induction fuel generalizing s with
  | zero => exact .refl
  | succ fuel ih =>
    unfold runTo
    split
    · exact .refl
    · split
      · exact .single (.runs (.of_same rfl rfl rfl rfl rfl))
      · exact (s.steps_moveTo _).trans (ih _)

theorem steps_advance (ms : Nat) (stop : Session → Bool) : s.Steps (s.advance ms stop) :=
  s.steps_runTo _ stop _

theorem steps_sleep (ms : Nat) : s.Steps (s.sleep ms) := by
  unfold sleep
  split
  · exact .refl
  · exact (s.steps_advance _ _).tail (.runs (.of_same rfl rfl rfl rfl rfl))

theorem runs_collect (id : Nat) : s.Runs (s.collect id).1 := by
  unfold collect
  split
  · exact .refl s
  · exact runs_changeClient ..

theorem steps_await (id : Nat) : s.Steps (s.await id).1 := by
  unfold await
  split
  · exact (s.runs_collect id).steps
  · exact (s.steps_advance _ _).tail (.runs (runs_collect ..))

theorem steps_arrive (i : Interface) (encrypted : Bool) (address : Option Net.SocketAddress) :
    s.Steps (s.arrive i encrypted address).1 := by
  refine steps_settle_of_runs ?_
  refine Runs.trans ?_ (runs_changeServer _ fun _ => .of_same rfl rfl rfl rfl rfl rfl)
  exact .of_same rfl rfl rfl rfl rfl

theorem steps_connected (id : Nat) : s.Steps (s.connected id).1 := by
  unfold connected
  split
  · exact .refl
  · split
    · exact .refl
    · dsimp only
      have hwaited :=
        s.steps_advance handshakeWaitMs fun s => (s.client? id).all (·.stage ≠ .queued)
      split
      · exact hwaited
      · exact hwaited.trans (steps_hangUp ..)
      · exact hwaited

theorem steps_connect (place : Option Interface) (encrypted : Bool) :
    s.Steps (s.connect place encrypted).1 := by
  unfold connect
  split
  · split
    · exact .refl
    · split
      · exact (s.steps_arrive _ _ _).trans (steps_connected ..)
      · refine .head (.runs ?_) (steps_connected ..)
        exact .of_same rfl rfl rfl rfl rfl
  · split
    · exact .refl
    · split
      · exact (s.steps_arrive _ _ _).trans (steps_connected ..)
      · exact .refl

theorem steps_failAccept (text : String) : s.Steps (s.failAccept text) := by
  refine steps_settle_of_runs (runs_changeServers s fun a => ?_)
  split
  · exact .of_same rfl rfl rfl rfl rfl rfl
  · exact .refl a

/-- Whatever comes to a session, it goes on by moves. -/
theorem steps_step (event : SessionEvent) : s.Steps (s.step event) := by
  cases event with
  | connects place encrypted => exact s.steps_connect place encrypted
  | sends client request waitMs single => exact s.steps_send client request waitMs single
  | awaits client => exact s.steps_await client
  | hangsUp client => exact s.steps_hangUp client
  | acceptFails text => exact s.steps_failAccept text
  | stores settings => exact .single (.runs (.of_same rfl rfl rfl rfl rfl))
  | triggered => exact s.steps_trigger
  | passes ms => exact s.steps_sleep ms

theorem steps_run (events : List SessionEvent) : s.Steps (s.run events) :=
  .foldl steps_step s events

theorem steps_finish : s.Steps s.finish.1 :=
  s.steps_trigger.trans (steps_advance ..)

end

end Session
end DualServer.Serve
