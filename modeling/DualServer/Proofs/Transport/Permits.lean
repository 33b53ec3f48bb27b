import DualServer.Transport.Tunnel

/-! The permits of a tunnel listener. Each of them is free, with the accept under way, or with an
open stream, so there are always as many as at first and never more streams than that. Which streams
are open is read off the history, by `Seen`; `Holds` ties the listener to it, and is kept by each of
the `Moves` that a step can make. -/
namespace DualServer.Transport.TunnelListener

variable {t u : TunnelListener} {event : TunnelEvent} {limit : Nat}

theorem asks_eq_true_iff : t.asks = true ↔ t.accepting = .holding := by
  simp [asks]

theorem held_of_holding (h : t.accepting = .holding) : t.held = 1 :=
  if_pos (asks_eq_true_iff.mpr h)

theorem held_of_not_holding (h : t.accepting ≠ .holding) : t.held = 0 :=
  if_neg (mt asks_eq_true_iff.mp h)

theorem asks_eq_true_iff_held : t.asks = true ↔ t.held = 1 := by
  simp [held]

/-- Everything that a step can do with the permits. -/
inductive Moves (t : TunnelListener) : TunnelEvent → TunnelListener → Prop
  | granted {n : Nat} (hidle : t.accepting = .idle) (hfree : t.available = n + 1) :
    Moves t .acceptStarted { t with available := n, accepting := .holding }
  | queued (hidle : t.accepting = .idle) (hnone : t.available = 0) :
    Moves t .acceptStarted { t with accepting := .waiting }
  | busy (h : t.accepting ≠ .idle) : Moves t .acceptStarted t
  | taken (id : Nat) (peer : String) (h : t.accepting = .holding) :
    Moves t (.streamYielded id peer) { t with accepting := .idle, streams := t.streams ++ [id] }
  | unasked (id : Nat) (peer : String) (h : t.accepting ≠ .holding) :
    Moves t (.streamYielded id peer) t
  | failed (text : String) : Moves t (.acceptFailed text) t
  | cancelled :
    Moves t .acceptCancelled { t with accepting := .idle, available := t.available + t.held }
  | handedOn {id : Nat} (hid : id ∈ t.streams) (h : t.accepting = .waiting) :
    Moves t (.streamDropped id) { t with streams := t.streams.erase id, accepting := .holding }
  | freed {id : Nat} (hid : id ∈ t.streams) (h : t.accepting ≠ .waiting) :
    Moves t (.streamDropped id)
      { t with streams := t.streams.erase id, available := t.available + 1 }
  | unknown {id : Nat} (hid : id ∉ t.streams) : Moves t (.streamDropped id) t

theorem step_dropped_of_not_mem {id : Nat} (hid : id ∉ t.streams) :
    t.step (.streamDropped id) = (t, []) := by
  have hcontains : ¬ t.streams.contains id = true := mt List.contains_iff_mem.mp hid
  simp only [step, if_neg hcontains]

theorem moves (t : TunnelListener) (event : TunnelEvent) : Moves t event (t.step event).1 := by
  cases event with
  | acceptStarted =>
    unfold step
    simp only
    split
    next hidle hfree => exact .granted hidle hfree
    next hidle hnone => exact .queued hidle hnone
    next hgranted hqueued =>
      refine .busy fun hidle => ?_
      cases havailable : t.available with
      | zero => exact hqueued hidle havailable
      | succ n => exact hgranted n hidle havailable
  | streamYielded id peer =>
    by_cases h : t.asks = true
    · simp only [step, if_pos h]
      exact .taken id peer (asks_eq_true_iff.mp h)
    · simp only [step, if_neg h]
      exact .unasked id peer (mt asks_eq_true_iff.mpr h)
  | acceptFailed text => exact .failed text
  | acceptCancelled => exact .cancelled
  | streamDropped id =>
    by_cases hid : id ∈ t.streams
    · have hcontains : t.streams.contains id = true := List.contains_iff_mem.mpr hid
      by_cases h : t.accepting = .waiting
      · simp only [step, if_pos hcontains, if_pos h]
        exact .handedOn hid h
      · simp only [step, if_pos hcontains, if_neg h]
        exact .freed hid h
    · rw [step_dropped_of_not_mem hid]
      exact .unknown hid

/-- What the history of a listener says by itself: whether an accept is pending, and which streams
have come out and have not been dropped since. -/
structure Seen where
  pending : Bool := false
  opened : List Nat := []

namespace Seen

/-- A pending accept asks the backend while there is room for one more stream. -/
def Asks (limit : Nat) (s : Seen) : Prop := s.pending = true ∧ s.opened.length < limit

instance (limit : Nat) (s : Seen) : Decidable (s.Asks limit) :=
  inferInstanceAs (Decidable (_ ∧ _))

/-- One more event. The backend answers only while it is asked. -/
def step (limit : Nat) (s : Seen) : TunnelEvent → Seen
  | .acceptStarted => { s with pending := true }
  | .streamYielded id _ => if s.Asks limit then ⟨false, s.opened ++ [id]⟩ else s
  | .acceptFailed _ => s
  | .acceptCancelled => { s with pending := false }
  | .streamDropped id => { s with opened := s.opened.erase id }

def run (limit : Nat) (s : Seen) (events : List TunnelEvent) : Seen := events.foldl (step limit) s

end Seen

/-- The permits of a listener, wherever they are, after what has been seen of it. An accept waits
only while none is free. -/
structure Holds (limit : Nat) (s : Seen) (t : TunnelListener) : Prop where
  total : t.streams.length + t.held + t.available = limit
  waiting : t.accepting = .waiting → t.available = 0
  streams : t.streams = s.opened
  pending : s.pending = true ↔ t.accepting ≠ .idle

section
variable {s : Seen} (h : Holds limit s t)
include h

/-- Whoever holds a permit without a stream is the pending accept, and it waits for one only when
every permit is with a stream. -/
theorem Holds.holding_iff : t.accepting = .holding ↔ s.Asks limit := by
  have htotal := h.total
  rw [Seen.Asks, ← h.streams, h.pending]
  cases haccepting : t.accepting with
  | idle => simp
  | waiting =>
    rw [held_of_not_holding (by simp [haccepting]), h.waiting haccepting] at htotal
    simp only [reduceCtorEq, ne_eq, not_false_eq_true, true_and, false_iff]
    omega
  | holding =>
    rw [held_of_holding haccepting] at htotal
    simp only [ne_eq, reduceCtorEq, not_false_eq_true, true_and, true_iff]
    omega

theorem Holds.waiting_iff :
    t.accepting = .waiting ↔ s.pending = true ∧ s.opened.length = limit := by
  have htotal := h.total
  rw [← h.streams, h.pending]
  cases haccepting : t.accepting with
  | idle => simp
  | waiting =>
    rw [held_of_not_holding (by simp [haccepting]), h.waiting haccepting] at htotal
    simp only [ne_eq, reduceCtorEq, not_false_eq_true, true_and, true_iff]
    omega
  | holding =>
    rw [held_of_holding haccepting] at htotal
    simp only [reduceCtorEq, ne_eq, not_false_eq_true, true_and, false_iff]
    omega

theorem Holds.asks_iff : t.asks = true ↔ s.Asks limit := asks_eq_true_iff.trans h.holding_iff

theorem Holds.held_eq : t.held = if s.Asks limit then 1 else 0 := by
  unfold held
  simp only [h.asks_iff]

theorem Holds.move (hmove : Moves t event u) : Holds limit (s.step limit event) u := by
  have htotal := h.total
  have hasks := h.holding_iff
  obtain ⟨-, hwaiting, hstreams, hpending⟩ := h
  cases hmove with
  | @granted n hidle hfree =>
    refine ⟨?_, nofun, hstreams, by simp [Seen.step]⟩
    rw [held_of_not_holding (by simp [hidle]), hfree] at htotal
    change t.streams.length + 1 + n = limit
    omega
  | queued hidle hnone =>
    refine ⟨?_, fun _ => hnone, hstreams, by simp [Seen.step]⟩
    rw [held_of_not_holding (by simp [hidle])] at htotal
    exact htotal
  | busy hbusy => exact ⟨htotal, hwaiting, hstreams, by simp [Seen.step, hbusy]⟩
  | taken id peer hholding =>
    rw [Seen.step, if_pos (hasks.mp hholding)]
    refine ⟨?_, nofun, by rw [hstreams], by simp⟩
    rw [held_of_holding hholding] at htotal
    change (t.streams ++ [id]).length + 0 + t.available = limit
    rw [List.length_append, List.length_singleton]
    exact htotal
  | unasked id peer hnot =>
    rw [Seen.step, if_neg (mt hasks.mpr hnot)]
    exact ⟨htotal, hwaiting, hstreams, hpending⟩
  | failed text => exact ⟨htotal, hwaiting, hstreams, hpending⟩
  | cancelled =>
    refine ⟨?_, nofun, hstreams, by simp [Seen.step]⟩
    change t.streams.length + 0 + (t.available + t.held) = limit
    omega
  | @handedOn id hid hqueued =>
    have hpos := List.length_pos_of_mem hid
    refine ⟨?_, nofun, by rw [Seen.step, hstreams], by simp [Seen.step, hpending, hqueued]⟩
    rw [held_of_not_holding (by simp [hqueued])] at htotal
    change (t.streams.erase id).length + 1 + t.available = limit
    rw [List.length_erase_of_mem hid]
    omega
  | @freed id hid hnot =>
    have hpos := List.length_pos_of_mem hid
    refine ⟨?_, fun hqueued => absurd hqueued hnot, by rw [Seen.step, hstreams], hpending⟩
    change (t.streams.erase id).length + t.held + (t.available + 1) = limit
    rw [List.length_erase_of_mem hid]
    omega
  | @unknown id hid =>
    have hsame : s.opened.erase id = s.opened := List.erase_of_not_mem (hstreams ▸ hid)
    exact ⟨htotal, hwaiting, by rw [Seen.step, hsame, hstreams], hpending⟩

end

theorem run_cons (t : TunnelListener) (event : TunnelEvent) (events : List TunnelEvent) :
    (t.run (event :: events)).1 = ((t.step event).1.run events).1 := rfl

theorem run_append (t : TunnelListener) (events later : List TunnelEvent) :
    t.run (events ++ later) =
      (((t.run events).1.run later).1, (t.run events).2 ++ ((t.run events).1.run later).2) := by
  induction events generalizing t with
  | nil => rfl
  | cons event events ih => simp only [List.cons_append, run, ih, List.append_assoc]

theorem holds_make (service : String) (n : Nat) : Holds (max n 1) {} (make service n) where
  total := (Nat.add_zero 0).symm ▸ Nat.zero_add _
  waiting := nofun
  streams := rfl
  pending := by simp [make]

theorem Holds.run {s : Seen} (h : Holds limit s t) (events : List TunnelEvent) :
    Holds limit (s.run limit events) (t.run events).1 := by
  induction events generalizing s t with
  | nil => exact h
  | cons event events ih =>
    rw [run_cons]
    exact ih (h.move (moves t event))

/-- A stream that is dropped leaves its permit to the accept that waits for one, or free. -/
theorem step_dropped {id : Nat} (hid : id ∈ t.streams) :
    let u := (t.step (.streamDropped id)).1
    u.streams = t.streams.erase id ∧
    (t.accepting = .waiting → u.held = 1 ∧ u.available = t.available) ∧
    (t.accepting ≠ .waiting → u.held = t.held ∧ u.available = t.available + 1) := by
  have hmove := moves t (.streamDropped id)
  generalize (t.step (.streamDropped id)).1 = u at hmove
  cases hmove with
  | handedOn _ hwaiting => exact ⟨rfl, fun _ => ⟨rfl, rfl⟩, fun hnot => absurd hwaiting hnot⟩
  | freed _ hnot => exact ⟨rfl, fun hwaiting => absurd hwaiting hnot, fun _ => ⟨rfl, rfl⟩⟩
  | unknown hnone => exact absurd hid hnone

/-- An accept that begins gets its permit at once exactly if there is room for its stream. -/
theorem Holds.asks_of_started {s : Seen} (h : Holds limit s t) (hidle : t.accepting = .idle) :
    (t.step .acceptStarted).1.asks = true ↔ t.streams.length < limit := by
  have htotal := h.total
  rw [held_of_not_holding (by simp [hidle])] at htotal
  cases havailable : t.available with
  | zero =>
    have hasks : (t.step .acceptStarted).1.asks = false := by simp [step, hidle, havailable, asks]
    rw [hasks]
    simp only [Bool.false_eq_true, false_iff]
    omega
  | succ n =>
    have hasks : (t.step .acceptStarted).1.asks = true := by simp [step, hidle, havailable, asks]
    rw [hasks]
    simp only [true_iff]
    omega

/-- An accept that is given up and begun anew is where it was. -/
theorem Holds.run_again {s : Seen} (h : Holds limit s t) (hbusy : t.accepting ≠ .idle) :
    (t.run [.acceptCancelled, .acceptStarted]).1 = t := by
  obtain ⟨service, available, accepting, streams⟩ := t
  cases accepting with
  | idle => exact absurd rfl hbusy
  | waiting =>
    have hnone : available = 0 := h.waiting rfl
    subst hnone
    rfl
  | holding => rfl

/-- Whatever fails on the way, an accept ends as if it had been given up at once or had got its
stream at once. -/
theorem acceptFrom_listener (t : TunnelListener) (limit elapsed : Nat) (backlog : List Arrival) :
    let attempt := t.acceptFrom limit elapsed backlog
    (attempt.accepted = none ∧ attempt.listener = (t.step .acceptCancelled).1) ∨
    ∃ id peer time, attempt.accepted = some (id, peer, time) ∧ t.asks = true ∧
      attempt.listener = (t.step (.streamYielded id peer)).1 := by
  induction backlog generalizing elapsed with
  | nil => exact .inl ⟨rfl, rfl⟩
  | cons arrival rest ih =>
    cases arrival with
    | stream id peer =>
      by_cases h : (t.asks && decide (elapsed ≤ limit)) = true
      · simp only [acceptFrom, if_pos h]
        exact .inr ⟨id, peer, elapsed, rfl, (Bool.and_eq_true_iff.mp h).1, rfl⟩
      · simp only [acceptFrom, if_neg h]
        exact .inl ⟨trivial, trivial⟩
    | failure text =>
      by_cases h : (t.asks && decide (elapsed ≤ limit)) = true
      · simp only [acceptFrom, if_pos h]
        exact ih (elapsed + acceptRetryMs)
      · simp only [acceptFrom, if_neg h]
        exact .inl ⟨trivial, trivial⟩

/-- An accept that gets no stream leaves the listener as it was before, and one that gets a stream
leaves it with this stream and one free permit less. -/
theorem acceptWithin_listener (hidle : t.accepting = .idle) (limit : Nat) (backlog : List Arrival) :
    let attempt := t.acceptWithin limit backlog
    (attempt.accepted = none ∧ attempt.listener = t) ∨
    ∃ id peer time, attempt.accepted = some (id, peer, time) ∧ 0 < t.available ∧
      attempt.listener =
        { t with available := t.available - 1, streams := t.streams ++ [id] } := by
  obtain ⟨service, available, accepting, streams⟩ := t
  cases hidle
  have hattempt := acceptFrom_listener
    ((⟨service, available, .idle, streams⟩ : TunnelListener).step .acceptStarted).1 limit 0 backlog
  cases available with
  | zero =>
    rcases hattempt with hnone | ⟨_, _, _, _, hasks, _⟩
    · exact .inl hnone
    · cases hasks
  | succ n =>
    rcases hattempt with hnone | ⟨id, peer, time, hsome, _, hlistener⟩
    · exact .inl hnone
    · exact .inr ⟨id, peer, time, hsome, Nat.succ_pos n, hlistener⟩

/-- The streams of a listener are those that its history opened and has not dropped. They, the
permit of the pending accept and the free ones add up to the limit, or to one if that was none.
The backend is asked just while an accept is pending with room for it; a drop makes room. -/
theorem permits_add_up (service : String) (n : Nat) (events : List TunnelEvent) :
    let limit := max n 1
    let seen := Seen.run limit {} events
    let t := ((make service n).run events).1
    t.streams = seen.opened ∧
    seen.opened.length + t.held + t.available = limit ∧
    seen.opened.length ≤ limit ∧
    (t.asks = true ↔ seen.pending = true ∧ seen.opened.length < limit) ∧
    (t.held = if seen.pending = true ∧ seen.opened.length < limit then 1 else 0) ∧
    (t.accepting = .waiting ↔ seen.pending = true ∧ seen.opened.length = limit) ∧
    (∀ id ∈ seen.opened,
      let u := (t.step (.streamDropped id)).1
      u.streams = seen.opened.erase id ∧
      (t.accepting = .waiting → u.held = 1 ∧ u.available = t.available) ∧
      (t.accepting ≠ .waiting → u.held = t.held ∧ u.available = t.available + 1)) ∧
    (∀ id ∉ seen.opened, t.step (.streamDropped id) = (t, [])) ∧
    (t.accepting = .idle →
      ((t.step .acceptStarted).1.asks = true ↔ seen.opened.length < limit)) ∧
    (t.held ≠ 1 → ∀ id peer text,
      t.step (.streamYielded id peer) = (t, []) ∧ t.step (.acceptFailed text) = (t, [])) ∧
    (∀ text, (t.step (.acceptFailed text)).1 = t) ∧
    (t.step .acceptCancelled).1 =
      { t with accepting := .idle, available := t.available + t.held } ∧
    (t.accepting ≠ .idle → (t.run [.acceptCancelled, .acceptStarted]).1 = t) ∧
    (t.accepting = .idle → ∀ patience backlog,
      let attempt := t.acceptWithin patience backlog
      (attempt.accepted = none ∧ attempt.listener = t) ∨
      ∃ id peer time, attempt.accepted = some (id, peer, time) ∧ 0 < t.available ∧
        attempt.listener =
          { t with available := t.available - 1, streams := t.streams ++ [id] }) := by
  intro limit seen t
  have h : Holds limit seen t := (holds_make service n).run events
  have htotal := h.total
  rw [h.streams] at htotal
  refine ⟨h.streams, htotal, by omega, h.asks_iff, h.held_eq, h.waiting_iff, ?_, ?_, ?_, ?_,
    fun _ => rfl, rfl, h.run_again, acceptWithin_listener⟩
  · rw [← h.streams]
    exact fun id hid => step_dropped hid
  · rw [← h.streams]
    exact fun id hid => step_dropped_of_not_mem hid
  · rw [← h.streams]
    exact h.asks_of_started
  · intro hheld id peer text
    have hasks : ¬ t.asks = true := mt asks_eq_true_iff_held.mp hheld
    constructor
    · simp only [step, if_neg hasks]
    · simp only [step, if_neg hasks]

end DualServer.Transport.TunnelListener
