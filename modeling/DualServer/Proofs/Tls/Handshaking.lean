import Mathlib.Data.List.Nodup
import DualServer.Tls.Handshakes

/-! Where the connections of a TLS listener are. `Past` is what an onlooker has seen of them: those
the inner listener gave, the handshakes that have ended, and the ended ones that an accept has
looked at. What a step can do is said once, in `Moves`; from it every connection is accounted for,
whatever becomes of its handshake and of the accepts. -/
namespace DualServer.Tls

/-- The connections that an accept was given, the handshakes that have ended, and those of them that
an accept has joined, each in the order of time. -/
structure Past where
  taken : List Inner := []
  ends : List (Inner × HandshakeEnd) := []
  joins : List (Inner × HandshakeEnd) := []

/-- Nothing is taken or joined unless an accept is under way, and only a handshake that runs can
end. -/
def Past.note (past : Past) (h : Handshakes) : HandshakeEvent → Past
  | .arrived connection =>
    if h.accepting then { past with taken := past.taken ++ [connection] } else past
  | .handshakeEnded id how =>
    match h.running.find? (·.id == id) with
    | some connection => { past with ends := past.ends ++ [(connection, how)] }
    | none => past
  | .looked =>
    if h.accepting then { past with joins := past.joins ++ h.ended.head?.toList } else past
  | .acceptStarted | .acceptCancelled => past

def succeeded (ends : List (Inner × HandshakeEnd)) : List Inner :=
  (ends.filter (·.2 = .done)).map (·.1)

def unsuccessful (ends : List (Inner × HandshakeEnd)) : List Inner :=
  (ends.filter (·.2 ≠ .done)).map (·.1)

theorem succeeded_append (ends ends' : List (Inner × HandshakeEnd)) :
    succeeded (ends ++ ends') = succeeded ends ++ succeeded ends' := by
  simp [succeeded]

theorem unsuccessful_append (ends ends' : List (Inner × HandshakeEnd)) :
    unsuccessful (ends ++ ends') = unsuccessful ends ++ unsuccessful ends' := by
  simp [unsuccessful]

theorem perm_succeeded_append_unsuccessful (ends : List (Inner × HandshakeEnd)) :
    (succeeded ends ++ unsuccessful ends).Perm (ends.map (·.1)) := by
  have hsplit := List.filter_append_perm (fun e : Inner × HandshakeEnd => decide (e.2 = .done)) ends
  simpa [succeeded, unsuccessful] using hsplit.map (·.1)

namespace Handshakes

/-- The past after a run that began in the given state with the given past. -/
def pastOf (h : Handshakes) (past : Past) : List HandshakeEvent → Past
  | [] => past
  | event :: rest => (h.step event).1.pastOf (past.note h event) rest

def failures (joins : List (Inner × HandshakeEnd)) : List Log.Entry :=
  joins.flatMap fun (connection, how) => failureEntry connection how

variable {past past' : Past} {h d : Handshakes} {event : HandshakeEvent} {log : List Log.Entry}

/-- Everything that a step can do, to the listener and to what has been seen of it. -/
inductive Moves (past : Past) (h : Handshakes) :
    HandshakeEvent → Past → Handshakes → List Log.Entry → Prop
  | began : Moves past h .acceptStarted past { h with accepting := true } []
  | cancelled : Moves past h .acceptCancelled past { h with accepting := false } []
  | took (connection : Inner) (haccepting : h.accepting = true) :
    Moves past h (.arrived connection) { past with taken := past.taken ++ [connection] }
      { h with running := h.running ++ [connection] } []
  | ended (connection : Inner) (how : HandshakeEnd) (hrunning : connection ∈ h.running) :
    Moves past h (.handshakeEnded connection.id how)
      { past with ends := past.ends ++ [(connection, how)] }
      { h with
        running := h.running.erase connection
        ended := h.ended ++ [(connection, how)] } []
  | gave (connection : Inner) (rest : List (Inner × HandshakeEnd)) (haccepting : h.accepting = true)
    (hended : h.ended = (connection, .done) :: rest) :
    Moves past h .looked { past with joins := past.joins ++ [(connection, .done)] }
      { h with ended := rest, returned := h.returned ++ [connection], accepting := false } []
  | dropped (connection : Inner) (how : HandshakeEnd) (rest : List (Inner × HandshakeEnd))
    (haccepting : h.accepting = true) (hhow : how ≠ .done)
    (hended : h.ended = (connection, how) :: rest) :
    Moves past h .looked { past with joins := past.joins ++ [(connection, how)] }
      { h with ended := rest, discarded := h.discarded ++ [connection], accepting := true }
      (failureEntry connection how)
  | ignored (event : HandshakeEvent) : Moves past h event past h []

theorem moves (past : Past) (h : Handshakes) (event : HandshakeEvent) :
    Moves past h event (past.note h event) (h.step event).1 (h.step event).2 := by
  cases event with
  | acceptStarted => exact .began
  | acceptCancelled => exact .cancelled
  | arrived connection =>
    unfold step Past.note
    simp only
    split
    next haccepting => exact .took connection haccepting
    next => exact .ignored _
  | handshakeEnded id how =>
    cases hfind : h.running.find? (·.id == id) with
    | none =>
      simp only [step, Past.note, hfind]
      exact .ignored _
    | some connection =>
      simp only [step, Past.note, hfind]
      obtain rfl : connection.id = id := by simpa using List.find?_some hfind
      exact .ended connection how (List.mem_of_find?_eq_some hfind)
  | looked =>
    cases haccepting : h.accepting with
    | false =>
      simp only [step, Past.note, haccepting, Bool.false_eq_true, if_false]
      exact .ignored _
    | true =>
      match hended : h.ended with
      | [] =>
        simp only [step, Past.note, haccepting, hended, if_true, List.head?_nil,
          Option.toList_none, List.append_nil]
        exact .ignored _
      | (connection, how) :: rest =>
        simp only [Past.note, haccepting, hended, if_true, List.head?_cons, Option.toList_some]
        cases how with
        | done =>
          simp only [step, haccepting, hended]
          exact .gave connection rest haccepting hended
        | failed text =>
          simp only [step, haccepting, hended]
          exact .dropped connection (.failed text) rest haccepting nofun hended
        | panicked text =>
          simp only [step, haccepting, hended]
          exact .dropped connection (.panicked text) rest haccepting nofun hended

/-- An accept ends by giving a connection, or because it is given up. -/
theorem Moves.accepting_eq (hmove : Moves past h event past' d log)
    (haccepting : h.accepting = true) :
    d.accepting = true ∨ event = .acceptCancelled ∨
      ∃ connection, event = .looked ∧ past'.joins = past.joins ++ [(connection, .done)] ∧
        d.returned = h.returned ++ [connection] := by
  cases hmove with
  | began => exact .inl rfl
  | cancelled => exact .inr (.inl rfl)
  | gave connection => exact .inr (.inr ⟨connection, rfl, rfl, rfl⟩)
  | dropped => exact .inl rfl
  | took | ended | ignored => exact .inl haccepting

/-- Every connection is where its past says it is. -/
structure Accounts (past : Past) (h : Handshakes) : Prop where
  running : (h.running ++ past.ends.map (·.1)).Perm past.taken
  ended : past.ends = past.joins ++ h.ended
  returned : h.returned = succeeded past.joins
  discarded : h.discarded = unsuccessful past.joins

theorem Moves.accounts (hmove : Moves past h event past' d log) (haccounts : Accounts past h) :
    Accounts past' d := by
  obtain ⟨hrunning, hended, hreturned, hdiscarded⟩ := haccounts
  cases hmove with
  | began | cancelled | ignored => exact ⟨hrunning, hended, hreturned, hdiscarded⟩
  | took connection =>
    refine ⟨?_, hended, hreturned, hdiscarded⟩
    rw [List.append_assoc]
    refine (List.perm_append_comm.append_left _).trans ?_
    rw [← List.append_assoc]
    exact hrunning.append_right _
  | ended connection how hmem =>
    refine ⟨?_, ?_, hreturned, hdiscarded⟩
    · rw [List.map_append, ← List.append_assoc]
      refine (List.perm_append_singleton ..).trans (.trans ?_ hrunning)
      exact (List.perm_cons_erase hmem).symm.append_right _
    · rw [hended, List.append_assoc]
  | gave connection rest _ hhead =>
    refine ⟨hrunning, ?_, ?_, ?_⟩
    · rw [hended, hhead, List.append_assoc, List.singleton_append]
    · rw [succeeded_append, hreturned]
      rfl
    · rw [unsuccessful_append, hdiscarded]
      exact (List.append_nil _).symm
  | dropped connection how rest _ hhow hhead =>
    refine ⟨hrunning, ?_, ?_, ?_⟩
    · rw [hended, hhead, List.append_assoc, List.singleton_append]
    · rw [succeeded_append, hreturned]
      simp [succeeded, hhow]
    · rw [unsuccessful_append, hdiscarded]
      simp [unsuccessful, hhow]

theorem Moves.failures_eq (hmove : Moves past h event past' d log) :
    failures past'.joins = failures past.joins ++ log := by
  cases hmove with
  | gave | dropped => simp [failures, failureEntry]
  | began | cancelled | took | ended | ignored => exact (List.append_nil _).symm

theorem run_cons (h : Handshakes) (event : HandshakeEvent) (events : List HandshakeEvent) :
    h.run (event :: events) =
      (((h.step event).1.run events).1, (h.step event).2 ++ ((h.step event).1.run events).2) := rfl

theorem run_append (h : Handshakes) (events later : List HandshakeEvent) :
    h.run (events ++ later) =
      (((h.run events).1.run later).1, (h.run events).2 ++ ((h.run events).1.run later).2) := by
  induction events generalizing h with
  | nil => rfl
  | cons event events ih => simp only [List.cons_append, run_cons, ih, List.append_assoc]

theorem Accounts.run (haccounts : Accounts past h) (events : List HandshakeEvent) :
    Accounts (h.pastOf past events) (h.run events).1 := by
  induction events generalizing past h with
  | nil => exact haccounts
  | cons event events ih => exact ih ((moves past h event).accounts haccounts)

theorem failures_run (past : Past) (h : Handshakes) (events : List HandshakeEvent) :
    failures (h.pastOf past events).joins = failures past.joins ++ (h.run events).2 := by
  induction events generalizing past h with
  | nil => exact (List.append_nil _).symm
  | cons event events ih =>
    rw [pastOf, ih, (moves past h event).failures_eq, run_cons, List.append_assoc]

/-- Pending, returned or discarded: each connection that was taken, and in one of these places. -/
theorem Accounts.perm_taken (haccounts : Accounts past h) :
    (h.pending ++ h.returned ++ h.discarded).Perm past.taken := by
  refine .trans ?_ haccounts.running
  rw [haccounts.ended, haccounts.returned, haccounts.discarded, pending, List.map_append]
  rw [List.append_assoc, List.append_assoc]
  refine List.Perm.append_left _ ?_
  refine List.perm_append_comm.trans ?_
  exact (perm_succeeded_append_unsuccessful past.joins).append_right _

/-- So many accepts, each with time for one look; the last one is given up. -/
def visits : Nat → List HandshakeEvent
  | 0 => [.acceptCancelled]
  | n + 1 => .acceptStarted :: .looked :: visits n

theorem run_visits (h : Handshakes) {n : Nat} (hn : h.ended.length ≤ n) :
    (h.run (visits n)).1 = { h with
      ended := []
      returned := h.returned ++ succeeded h.ended
      discarded := h.discarded ++ unsuccessful h.ended
      accepting := false } := by
  induction n generalizing h with
  | zero =>
    have hnil : h.ended = [] := List.length_eq_zero_iff.mp (Nat.le_zero.mp hn)
    simp [visits, run, step, hnil, succeeded, unsuccessful]
  | succ n ih =>
    obtain ⟨running, ended, returned, discarded, accepting⟩ := h
    cases ended with
    | nil => exact ih ⟨running, [], returned, discarded, true⟩ (Nat.zero_le n)
    | cons e rest =>
      obtain ⟨connection, how⟩ := e
      have hrest : rest.length ≤ n := Nat.le_of_succ_le_succ hn
      cases how with
      | done =>
        refine (ih ⟨running, rest, returned ++ [connection], discarded, false⟩ hrest).trans ?_
        simp [succeeded, unsuccessful]
      | failed text | panicked text =>
        refine (ih ⟨running, rest, returned, discarded ++ [connection], true⟩ hrest).trans ?_
        simp [succeeded, unsuccessful]

theorem find?_running {connection : Inner} (hnodup : (h.running.map (·.id)).Nodup)
    (hmem : connection ∈ h.running) :
    h.running.find? (·.id == connection.id) = some connection := by
  cases hfind : h.running.find? (·.id == connection.id) with
  | none => exact absurd (List.find?_eq_none.mp hfind connection hmem) (by simp)
  | some other =>
    have hid : other.id = connection.id := by simpa using List.find?_some hfind
    rw [List.inj_on_of_nodup_map hnodup (List.mem_of_find?_eq_some hfind) hmem hid]

/-- A connection whose handshake succeeds is returned, whatever the other handshakes do. -/
theorem mem_returned_of_done {connection : Inner} (hnodup : (h.running.map (·.id)).Nodup)
    (hmem : connection ∈ h.running) :
    connection ∈
      (h.run (.handshakeEnded connection.id .done :: visits (h.ended.length + 1))).1.returned := by
  have hstep : (h.step (.handshakeEnded connection.id .done)).1 = { h with
      running := h.running.erase connection
      ended := h.ended ++ [(connection, .done)] } := by
    simp only [step, find?_running hnodup hmem]
  rw [run_cons, hstep, run_visits _ (by simp)]
  simp [succeeded]

/-- Every connection taken is pending, returned or discarded. The returned ones are those whose
handshake succeeded and was joined, each once and with its own peer; all others joined are discarded
and logged. No handshake that fails or hangs, and no accept that is given up, costs another one. -/
theorem connections_accounted_for (events : List HandshakeEvent) :
    let h := (({} : Handshakes).run events).1
    let past := ({} : Handshakes).pastOf {} events
    (h.pending ++ h.returned ++ h.discarded).Perm past.taken ∧
    past.ends = past.joins ++ h.ended ∧
    h.returned = succeeded past.joins ∧
    h.discarded = unsuccessful past.joins ∧
    (({} : Handshakes).run events).2 = failures past.joins ∧
    ((past.taken.map (·.id)).Nodup →
      ((h.pending ++ h.returned ++ h.discarded).map (·.id)).Nodup ∧
      (∀ c ∈ h.returned, ∀ c' ∈ past.taken, c'.id = c.id → c'.peer = c.peer) ∧
      ∀ c ∈ h.running, c ∈
        (h.run (.handshakeEnded c.id .done :: visits (h.ended.length + 1))).1.returned) ∧
    (h.step .acceptCancelled).1 = { h with accepting := false } ∧
    (h.accepting = true → ∀ event,
      (h.step event).1.accepting = true ∨ event = .acceptCancelled ∨
      ∃ c, event = .looked ∧ (past.note h event).joins = past.joins ++ [(c, .done)] ∧
        (h.step event).1.returned = h.returned ++ [c]) ∧
    (∀ c, (h.run [.acceptStarted, .arrived c]).1 =
      { h with running := h.running ++ [c], accepting := true }) ∧
    ∀ n, h.ended.length ≤ n → (h.run (visits n)).1 = { h with
      ended := []
      returned := h.returned ++ succeeded h.ended
      discarded := h.discarded ++ unsuccessful h.ended
      accepting := false } := by
  intro h past
  have hstart : Accounts {} {} := ⟨.refl [], rfl, rfl, rfl⟩
  have haccounts : Accounts past h := hstart.run events
  have hperm := haccounts.perm_taken
  refine ⟨hperm, haccounts.ended, haccounts.returned, haccounts.discarded, ?_, ?_, rfl, ?_,
    fun _ => rfl, fun _ => run_visits h⟩
  · exact (failures_run {} {} events).symm
  · intro hnodup
    have hids : ((h.pending ++ h.returned ++ h.discarded).map (·.id)).Nodup :=
      (hperm.map (·.id)).nodup_iff.mpr hnodup
    refine ⟨hids, fun c hc c' hc' hid => ?_, fun c hc => mem_returned_of_done ?_ hc⟩
    · have htaken : c ∈ past.taken := hperm.subset (by simp [hc])
      rw [List.inj_on_of_nodup_map hnodup hc' htaken hid]
    · refine hids.sublist (List.Sublist.map _ ?_)
      rw [pending, List.append_assoc, List.append_assoc]
      exact List.sublist_append_left ..
  · intro haccepting event
    exact (moves past h event).accepting_eq haccepting

end Handshakes

end DualServer.Tls
