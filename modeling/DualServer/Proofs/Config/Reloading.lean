import Mathlib.Data.List.Basic
import DualServer.Config.Handles

/-! Which settings are in effect. A file counts when it is text of a document of valid settings;
events that find no such file change nothing. `latest` is what the last store or reload of a history
brought in, and every handle sees it, however many clones there are. -/
namespace DualServer.Config
open DualServer.Text

section
variable [UrlReader] {content : FileContent} {s : Settings}

theorem check_eq_ok_iff {decoded : Settings} : check decoded = .ok s ↔ decoded = s ∧ s.Valid := by
  unfold check Settings.Valid
  constructor
  · intro h
    split at h
    next hvalid => cases h; exact ⟨rfl, hvalid⟩
    next => cases h
  · rintro ⟨rfl, hvalid⟩
    rw [hvalid]

theorem parse_eq_ok_iff {text : String} :
    parse text = .ok s ↔ ∃ document, Toml.parse? text = some document ∧
      Settings.decode document = some s ∧ s.Valid := by
  unfold parse
  cases hread : (Toml.parse? text).bind Settings.decode with
  | none =>
    rw [Option.bind_eq_none_iff] at hread
    refine iff_of_false (by simp) ?_
    rintro ⟨document, hdocument, hdecoded, _⟩
    rw [hread document hdocument] at hdecoded
    cases hdecoded
  | some decoded =>
    obtain ⟨document, hdocument, hdecoded⟩ := Option.bind_eq_some_iff.mp hread
    simp only [check_eq_ok_iff, hdocument, Option.some.injEq, exists_eq_left', hdecoded]

theorem load_eq_ok_iff :
    load content = .ok s ↔ ∃ bytes text document, content = .ok bytes ∧ decode? bytes = some text ∧
      Toml.parse? text = some document ∧ Settings.decode document = some s ∧ s.Valid := by
  unfold load
  cases content with
  | error fault => simp
  | ok bytes => cases htext : decode? bytes <;> simp [htext, parse_eq_ok_iff]

/-- Settings without an issuer are valid whatever is taken for a URL, if they are at all. -/
theorem Settings.valid_of_no_issuer (hissuer : s.urls.selfIssuer = "")
    (h : @Settings.Valid .none s) : s.Valid := by
  have hnone : ∀ reader : UrlReader, @issuerViolations reader "" = [] := fun _ => rfl
  unfold Settings.Valid violations at h ⊢
  rw [hissuer, hnone] at h
  rw [hissuer, hnone]
  exact h

theorem load_of_no_issuer (hissuer : s.urls.selfIssuer = "")
    (h : @load .none content = .ok s) : load content = .ok s := by
  obtain ⟨bytes, text, document, hcontent, htext, hdocument, hdecoded, hvalid⟩ :=
    (@load_eq_ok_iff .none ..).mp h
  exact load_eq_ok_iff.mpr ⟨bytes, text, document, hcontent, htext, hdocument, hdecoded,
    s.valid_of_no_issuer hissuer hvalid⟩

theorem valid_of_load (h : load content = .ok s) : s.Valid := by
  obtain ⟨_, _, _, _, _, _, _, hvalid⟩ := load_eq_ok_iff.mp h
  exact hvalid

end

/-- The settings that an event on the watched file brings into effect, where it does. -/
def reloaded? [UrlReader] (event : WatchEvent) (content : FileContent) : Option Settings :=
  match event with
  | .modified | .created => (load content).toOption
  | .otherKind | .failed _ => none

section
variable [UrlReader] {event : WatchEvent} {content : FileContent} {s : Settings}

theorem reloaded?_eq_some_iff :
    reloaded? event content = some s ↔
      (event = .modified ∨ event = .created) ∧ load content = .ok s := by
  cases event with
  | modified | created => cases hload : load content <;> simp [reloaded?, hload, Except.toOption]
  | otherKind | failed => simp [reloaded?]

theorem Live.watch_live (live : Live) (event : WatchEvent) (content : FileContent) :
    (live.watch event content).1 = ⟨(reloaded? event content).getD live.current⟩ := by
  unfold watch reloaded?
  cases event with
  | failed text => rfl
  | otherKind => rfl
  | modified | created => cases Config.load content <;> rfl

end

section
variable [UrlReader]

/-- The settings that an action brings into effect, where it does. -/
def HandleAction.update? : HandleAction → Option Settings
  | .store _ s => some s
  | .watch _ event content => reloaded? event content
  | _ => none

/-- What the last update of a history brought into effect, or what was there before. -/
def latest (s : Settings) (history : List HandleAction) : Settings :=
  (history.filterMap HandleAction.update?).getLast?.getD s

theorem latest_cons (s : Settings) (action : HandleAction) (history : List HandleAction) :
    latest s (action :: history) = latest (action.update?.getD s) history := by
  unfold latest
  cases hupdate : action.update? <;> simp [hupdate, List.getLast?_cons]

end

namespace Handles

@[simp] theorem put_live (h : Handles) (name : String) : h.put name (h.live name) = h := by
  have hmemory : (fun cell => if cell = h.cell name then h.live name else h.memory cell) =
      h.memory := by
    funext cell
    split
    next hcell => rw [hcell]; rfl
    next => rfl
  unfold put
  rw [hmemory]

/-- All handles look at the cell of the first one, and that cell holds these settings. -/
structure Shared (h : Handles) (s : Settings) : Prop where
  cell : ∀ name, h.cell name = h.first
  current : h.memory h.first = ⟨s⟩

section
variable {h : Handles} {s : Settings}

theorem Shared.load (hshared : h.Shared s) (name : String) : h.load name = s := by
  unfold Handles.load live
  rw [hshared.cell, hshared.current]
  rfl

theorem Shared.live (hshared : h.Shared s) (name : String) : h.live name = ⟨s⟩ := by
  unfold Handles.live
  rw [hshared.cell, hshared.current]

theorem Shared.put (hshared : h.Shared s) (name : String) (s' : Settings) :
    (h.put name ⟨s'⟩).Shared s' where
  cell := hshared.cell
  current := if_pos (hshared.cell name).symm

theorem shared_make (s : Settings) : (make s).Shared s where
  cell _ := rfl
  current := rfl

variable [UrlReader]

theorem Shared.clone (hshared : h.Shared s) (on name : String) :
    (h.act (.clone on name)).1.Shared s where
  cell other := by
    have hother : h.cell other = h.first := hshared.cell other
    unfold Handles.cell at hother
    unfold Handles.cell act
    by_cases hname : other = name
    · rw [hname, Named.get?_put_self]
      exact hshared.cell on
    · rw [Named.get?_put_of_ne hname]
      exact hother
  current := hshared.current

theorem Shared.step (hshared : h.Shared s) (action : HandleAction) :
    (h.act action).1.Shared (action.update?.getD s) := by
  cases action with
  | clone on name => exact hshared.clone on name
  | store on s' => exact hshared.put on s'
  | load on => exact hshared
  | snapshot on name => exact ⟨hshared.cell, hshared.current⟩
  | read name => exact hshared
  | watch on event content =>
    have hwatch : (h.act (.watch on event content)).1 =
        h.put on ⟨(reloaded? event content).getD s⟩ := by
      unfold act
      simp only [Live.watch_live, hshared.live]
    rw [hwatch]
    exact hshared.put on _

theorem Shared.run (hshared : h.Shared s) (history : List HandleAction) :
    (h.run history).Shared (latest s history) := by
  induction history generalizing h s with
  | nil => exact hshared
  | cons action history ih =>
    rw [latest_cons]
    exact ih (hshared.step action)

/-- Only taking it again changes a snapshot. -/
theorem snapshot_step {h : Handles} {name : String} {action : HandleAction}
    (haction : ∀ on, action ≠ .snapshot on name) :
    (h.act action).1.snapshots.get? name = h.snapshots.get? name := by
  cases action with
  | snapshot on other =>
    have hname : name ≠ other := by
      rintro rfl
      exact haction on rfl
    exact Named.get?_put_of_ne hname
  | _ => rfl

theorem snapshot_run {h : Handles} {name : String} {history : List HandleAction}
    (hhistory : ∀ on, .snapshot on name ∉ history) :
    (h.run history).snapshots.get? name = h.snapshots.get? name := by
  induction history generalizing h with
  | nil => rfl
  | cons action history ih =>
    have haction : ∀ on, action ≠ .snapshot on name := by
      rintro on rfl
      exact hhistory on List.mem_cons_self
    have hrest : ∀ on, .snapshot on name ∉ history :=
      fun on hmem => hhistory on (List.mem_cons_of_mem _ hmem)
    exact (ih hrest).trans (snapshot_step haction)

end

/-- Nothing can be seen through a handle or in a snapshot but valid settings. -/
structure AllValid [UrlReader] (h : Handles) : Prop where
  memory : ∀ cell, (h.memory cell).current.Valid
  snapshots : ∀ entry ∈ h.snapshots, entry.2.Valid

section
variable [UrlReader] {h : Handles}

theorem AllValid.put (hvalid : h.AllValid) {live : Live} (hlive : live.current.Valid)
    (name : String) : (h.put name live).AllValid where
  memory cell := by
    unfold Handles.put
    simp only
    split
    · exact hlive
    · exact hvalid.memory cell
  snapshots := hvalid.snapshots

theorem AllValid.step (hvalid : h.AllValid) {action : HandleAction}
    (hstore : ∀ on s, action = .store on s → s.Valid) : (h.act action).1.AllValid := by
  cases action with
  | clone on name => exact ⟨hvalid.memory, hvalid.snapshots⟩
  | store on s => exact hvalid.put (hstore on s rfl) on
  | load on => exact hvalid
  | snapshot on name =>
    refine ⟨hvalid.memory, fun entry hentry => ?_⟩
    rcases List.mem_cons.mp hentry with rfl | hold
    · exact hvalid.memory _
    · exact hvalid.snapshots entry (List.mem_filter.mp hold).1
  | read name => exact hvalid
  | watch on event content =>
    have hlive : ((h.live on).watch event content).1.current.Valid := by
      rw [Live.watch_live]
      cases hreloaded : reloaded? event content with
      | none => exact hvalid.memory _
      | some s => exact valid_of_load (reloaded?_eq_some_iff.mp hreloaded).2
    exact hvalid.put hlive on

theorem AllValid.run (hvalid : h.AllValid) {history : List HandleAction}
    (hstore : ∀ on s, .store on s ∈ history → s.Valid) : (h.run history).AllValid := by
  induction history generalizing h with
  | nil => exact hvalid
  | cons action history ih =>
    have hstep : (h.act action).1.AllValid :=
      hvalid.step fun on s haction => hstore on s (haction ▸ List.mem_cons_self)
    exact ih hstep fun on s hmem => hstore on s (List.mem_cons_of_mem _ hmem)

theorem AllValid.seen (hvalid : h.AllValid) {action : HandleAction} {s : Settings}
    (hseen : (h.act action).2 = .seen s) : s.Valid := by
  cases action with
  | load on | snapshot on name =>
    cases hseen
    exact hvalid.memory _
  | read name =>
    cases hget : h.snapshots.get? name with
    | none => simp [act, hget] at hseen
    | some s' =>
      simp only [act, hget, Option.map_some, Option.getD_some, HandleReply.seen.injEq] at hseen
      obtain ⟨entry, hfind, hentry⟩ := Option.map_eq_some_iff.mp hget
      rw [← hseen, ← hentry]
      exact hvalid.snapshots entry (List.mem_of_find?_eq_some hfind)
  | clone on name | store on s' | watch on event content => cases hseen

end

end Handles

/-- After any history every handle sees the settings of the last update: a store, or a change that
found a file of valid settings. Other events change nothing, a snapshot stays what it was, and where
all settings that are stored are valid no others can ever be seen. -/
theorem handles_see_latest_update [UrlReader] (s₀ : Settings) (history : List HandleAction) :
    let h := (Handles.make s₀).run history
    (∀ name, h.load name = latest s₀ history) ∧
    (∀ on event content, (event = .modified ∨ event = .created) → ∀ s, load content = .ok s →
      ∀ name, (h.act (.watch on event content)).1.load name = s) ∧
    (∀ on event content, ¬ (event = .modified ∨ event = .created) ∨
        (∃ e, load content = .error e) →
      (h.act (.watch on event content)).1 = h) ∧
    (∀ on name later, (∀ on', .snapshot on' name ∉ later) →
      ((h.act (.snapshot on name)).1.run later).snapshots.get? name = some (latest s₀ history)) ∧
    (s₀.Valid → (∀ on s, .store on s ∈ history → s.Valid) →
      ∀ action s, (h.act action).2 = .seen s → s.Valid) := by
  intro h
  have hshared : h.Shared (latest s₀ history) := (Handles.shared_make s₀).run history
  refine ⟨hshared.load, ?_, ?_, ?_, ?_⟩
  · intro on event content hchange s hload name
    have hreloaded : reloaded? event content = some s :=
      reloaded?_eq_some_iff.mpr ⟨hchange, hload⟩
    rw [(hshared.step (.watch on event content)).load name, HandleAction.update?, hreloaded,
      Option.getD_some]
  · intro on event content hrefused
    have hnone : reloaded? event content = none := by
      refine Option.eq_none_iff_forall_ne_some.mpr fun s hsome => ?_
      obtain ⟨hchange, hload⟩ := reloaded?_eq_some_iff.mp hsome
      rcases hrefused with hkind | ⟨e, hfailed⟩
      · exact hkind hchange
      · rw [hload] at hfailed
        cases hfailed
    have hwatch : (h.act (.watch on event content)).1 = h.put on (h.live on) := by
      unfold Handles.act
      simp only [Live.watch_live, hnone, Option.getD_none]
    rw [hwatch, Handles.put_live]
  · intro on name later hlater
    rw [Handles.snapshot_run hlater]
    unfold Handles.act
    rw [Named.get?_put_self, hshared.load]
  · intro hfirst hstored action s hseen
    have hmake : (Handles.make s₀).AllValid := ⟨fun _ => hfirst, fun _ h => by cases h⟩
    exact (hmake.run hstored).seen hseen

end DualServer.Config
