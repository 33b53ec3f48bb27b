import Mathlib.Data.List.Infix
import DualServer.Proofs.Config.Reloading

/-! A watched file while it is overwritten: it is emptied, then the new bytes come in by chunks, and
the watcher may look at it after any of these steps. What it finds is then the front of the new
bytes, and such a front may well be a file of valid settings; the empty file always is one. -/
namespace DualServer.Config
open DualServer.Text

section
variable {file bytes : Bytes} {steps moment : List FileStep} {chunks : List Bytes}

theorem findings_append (file : Bytes) (steps later : List FileStep) :
    findings file (steps ++ later) =
      findings file steps ++ findings (steps.foldl FileStep.after file) later := by
  induction steps generalizing file with
  | nil => rfl
  | cons step steps ih =>
    cases step with
    | noticed event => exact congrArg ((event, .ok file) :: ·) (ih file)
    | emptied => exact ih []
    | appended chunk => exact ih (file ++ chunk)

theorem file_after_filter (file : Bytes) (steps : List FileStep) :
    steps.foldl FileStep.after file =
      (steps.filter FileStep.isWrite).foldl FileStep.after file := by
  induction steps generalizing file with
  | nil => rfl
  | cons step steps ih =>
    cases step with
    | noticed event => exact ih file
    | emptied => exact ih []
    | appended chunk => exact ih (file ++ chunk)

theorem file_after_appended (file : Bytes) (chunks : List Bytes) :
    (chunks.map FileStep.appended).foldl FileStep.after file = file ++ chunks.flatten := by
  induction chunks generalizing file with
  | nil => simp
  | cons chunk chunks ih =>
    rw [List.map_cons, List.foldl_cons, ih, List.flatten_cons, ← List.append_assoc]
    rfl

theorem Overwrites.file_after (h : Overwrites bytes steps) (file : Bytes) :
    steps.foldl FileStep.after file = bytes := by
  obtain ⟨chunks, rfl, hwrites⟩ := h
  rw [file_after_filter, hwrites, List.foldl_cons, file_after_appended]
  rfl

/-- While chunks come in, the file is what it was and a front of them all. -/
theorem content_of_mem_findings_appended
    (hwrites : moment.filter FileStep.isWrite <+: chunks.map .appended)
    {finding : WatchEvent × FileContent} (hfinding : finding ∈ findings file moment) :
    ∃ part, part <+: chunks.flatten ∧ finding.2 = .ok (file ++ part) := by
  induction moment generalizing file chunks with
  | nil => cases hfinding
  | cons step moment ih =>
    cases step with
    | noticed event =>
      rcases List.mem_cons.mp hfinding with rfl | hlater
      · exact ⟨[], List.nil_prefix, by rw [List.append_nil]⟩
      · exact ih hwrites hlater
    | emptied =>
      have hmem : FileStep.emptied ∈ chunks.map .appended := hwrites.subset List.mem_cons_self
      simp at hmem
    | appended chunk =>
      cases chunks with
      | nil => exact absurd hwrites (by simp [FileStep.isWrite])
      | cons first chunks =>
        obtain ⟨hchunk, hrest⟩ := List.cons_prefix_cons.mp hwrites
        cases hchunk
        obtain ⟨part, hpart, hcontent⟩ := ih hrest hfinding
        refine ⟨chunk ++ part, ?_, hcontent.trans (by rw [FileStep.after, List.append_assoc])⟩
        rw [List.flatten_cons]
        exact (List.prefix_append_right_inj chunk).mpr hpart

/-- The steps that have a front of the new bytes noticed. -/
def haltingAt (part rest : Bytes) : List FileStep :=
  [.emptied, .appended part, .noticed .modified, .appended rest]

theorem overwrites_haltingAt (part rest : Bytes) :
    Overwrites (part ++ rest) (haltingAt part rest) :=
  ⟨[part, rest], by simp, rfl⟩

/-- Before the file is emptied it is the old one, and from then on a front of the new one. -/
theorem content_of_mem_findings
    (hwrites : moment.filter FileStep.isWrite <+: .emptied :: chunks.map .appended)
    {finding : WatchEvent × FileContent} (hfinding : finding ∈ findings file moment) :
    finding.2 = .ok file ∨ ∃ part, part <+: chunks.flatten ∧ finding.2 = .ok part := by
  induction moment with
  | nil => cases hfinding
  | cons step moment ih =>
    cases step with
    | noticed event =>
      rcases List.mem_cons.mp hfinding with rfl | hlater
      · exact .inl rfl
      · exact ih hwrites hlater
    | emptied =>
      have hrest := (List.cons_prefix_cons.mp hwrites).2
      exact .inr (content_of_mem_findings_appended hrest hfinding)
    | appended chunk => cases (List.cons_prefix_cons.mp hwrites).1

theorem Overwrites.content_of_mem_findings (h : Overwrites bytes steps) (hmoment : moment <+: steps)
    {finding : WatchEvent × FileContent} (hfinding : finding ∈ findings file moment) :
    finding.2 = .ok file ∨ ∃ part, part <+: bytes ∧ finding.2 = .ok part := by
  obtain ⟨chunks, rfl, hwrites⟩ := h
  have hfront : moment.filter FileStep.isWrite <+: .emptied :: chunks.map .appended := by
    rw [← hwrites]
    exact hmoment.filter _
  exact Config.content_of_mem_findings hfront hfinding

end

theorem Live.watchAll_current [UrlReader] (live : Live)
    (history : List (WatchEvent × FileContent)) :
    (live.watchAll history).current = live.current ∨
      ∃ entry ∈ history, Config.load entry.2 = .ok (live.watchAll history).current := by
  induction history generalizing live with
  | nil => exact .inl rfl
  | cons entry history ih =>
    have hcons : live.watchAll (entry :: history) =
        (live.watch entry.1 entry.2).1.watchAll history := rfl
    rw [hcons]
    rcases ih (live.watch entry.1 entry.2).1 with hsame | ⟨later, hlater, hload⟩
    · rw [hsame, Live.watch_live]
      cases hreloaded : reloaded? entry.1 entry.2 with
      | none => exact .inl rfl
      | some s =>
        exact .inr ⟨entry, List.mem_cons_self, (reloaded?_eq_some_iff.mp hreloaded).2⟩
    · exact .inr ⟨later, List.mem_cons_of_mem _ hlater, hload⟩

section
variable [UrlReader] {file bytes : Bytes} {old new s : Settings} {steps moment : List FileStep}

theorem Overwrites.seenAfter (h : Overwrites bytes steps) (hmoment : moment <+: steps)
    (hold : load (.ok file) = .ok old) :
    seenAfter file old moment = old ∨
      ∃ part, part <+: bytes ∧ load (.ok part) = .ok (seenAfter file old moment) := by
  rcases Live.watchAll_current ⟨old⟩ (findings file moment) with hsame | ⟨entry, hentry, hload⟩
  · exact .inl hsame
  · rcases h.content_of_mem_findings hmoment hentry with hfile | ⟨part, hpart, hcontent⟩
    · rw [hfile, hold] at hload
      exact .inl (Except.ok.inj hload).symm
    · rw [hcontent] at hload
      exact .inr ⟨part, hpart, hload⟩

theorem seenAfter_noticed (file : Bytes) (s : Settings) (steps : List FileStep)
    (event : WatchEvent) :
    Config.seenAfter file s (steps ++ [.noticed event]) =
      (reloaded? event (.ok (steps.foldl FileStep.after file))).getD
        (Config.seenAfter file s steps) := by
  unfold Config.seenAfter
  rw [findings_append]
  unfold Live.watchAll
  rw [List.foldl_append]
  exact congrArg Live.load (Live.watch_live _ event _)

theorem seenAfter_haltingAt {part : Bytes} (rest : Bytes) (hpart : load (.ok part) = .ok s) :
    Config.seenAfter file old ((haltingAt part rest).take 3) = s := by
  have hreloaded : reloaded? .modified (.ok part) = some s :=
    reloaded?_eq_some_iff.mpr ⟨.inl rfl, hpart⟩
  have htake : (haltingAt part rest).take 3 =
      [.emptied, .appended part] ++ [.noticed .modified] := rfl
  rw [htake, seenAfter_noticed]
  simp [FileStep.after, hreloaded]

end

/-- Whatever the steps of the overwriting and the moment, the settings in effect are those of the
old file or those of the new one. -/
def SeenWhole [UrlReader] (file bytes : Bytes) (old new : Settings) : Prop :=
  ∀ steps, Overwrites bytes steps → ∀ moment, moment <+: steps →
    seenAfter file old moment = old ∨ seenAfter file old moment = new

theorem load_eq_ok_of_toOption [UrlReader] {content : FileContent} {s : Settings}
    (h : (load content).toOption = some s) : load content = .ok s := by
  cases hload : load content with
  | error fault => rw [hload] at h; cases h
  | ok loaded => rw [hload] at h; exact congrArg _ (Option.some.inj h)

theorem load_empty [UrlReader] : load (.ok []) = .ok {} :=
  load_of_no_issuer rfl (@load_eq_ok_of_toOption .none _ _ (by decide +kernel))

/-- A file that is overwritten is seen as a whole exactly if no front of the new bytes is itself a
file of other valid settings; the empty front always has the standard ones. In every case the
settings in effect are the old ones or those of some front. -/
theorem overwriting_seen_whole_iff [UrlReader] {file bytes : Bytes} {old new : Settings}
    (hold : load (.ok file) = .ok old) (hnew : load (.ok bytes) = .ok new) :
    (SeenWhole file bytes old new ↔
      ∀ part, part <+: bytes → ∀ s, load (.ok part) = .ok s → s = old ∨ s = new) ∧
    (SeenWhole file bytes old new → old = {} ∨ new = {}) ∧
    ∀ steps, Overwrites bytes steps →
      (∀ moment, moment <+: steps → seenAfter file old moment = old ∨
        ∃ part, part <+: bytes ∧ load (.ok part) = .ok (seenAfter file old moment)) ∧
      ∀ event, event = .modified ∨ event = .created →
        seenAfter file old (steps ++ [.noticed event]) = new := by
  have hfronts : SeenWhole file bytes old new →
      ∀ part, part <+: bytes → ∀ s, load (.ok part) = .ok s → s = old ∨ s = new := by
    rintro hwhole part ⟨rest, rfl⟩ s hpart
    have hseen := hwhole _ (overwrites_haltingAt part rest) _ (List.take_prefix 3 _)
    rwa [seenAfter_haltingAt rest hpart] at hseen
  refine ⟨⟨hfronts, ?_⟩, ?_, ?_⟩
  · intro hpart steps hsteps moment hmoment
    rcases hsteps.seenAfter hmoment hold with hsame | ⟨part, hfront, hload⟩
    · exact .inl hsame
    · exact hpart part hfront _ hload
  · intro hwhole
    have hstandard := hfronts hwhole [] List.nil_prefix {} load_empty
    exact hstandard.imp Eq.symm Eq.symm
  · intro steps hsteps
    refine ⟨fun moment hmoment => hsteps.seenAfter hmoment hold, fun event hevent => ?_⟩
    have hreloaded : reloaded? event (.ok bytes) = some new :=
      reloaded?_eq_some_iff.mpr ⟨hevent, hnew⟩
    rw [seenAfter_noticed, hsteps.file_after, hreloaded]
    rfl

/-- The old file is the empty one, and no front of the new one is a document before its end. -/
theorem overwriting_seen_whole_from_standard :
    letI : UrlReader := .none
    let bytes := utf8 "dsn='b'"
    load (.ok []) = .ok {} ∧ load (.ok bytes) = .ok { dsn := "b" } ∧
      SeenWhole [] bytes {} { dsn := "b" } := by
  intro bytes
  let _ : UrlReader := .none
  have hnew : load (.ok bytes) = .ok { dsn := "b" } := load_eq_ok_of_toOption (by decide +kernel)
  have hfronts : ∀ part ∈ bytes.inits,
      (load (.ok part)).toOption ∈ [none, some {}, some { dsn := "b" }] := by
    decide +kernel
  refine ⟨load_empty, hnew, (overwriting_seen_whole_iff load_empty hnew).1.mpr ?_⟩
  intro part hpart s hload
  have hfront := hfronts part ((List.mem_inits part bytes).mpr hpart)
  rw [hload] at hfront
  simpa [Except.toOption] using hfront

/-- The settings in effect are first those of the emptied file and then those of its first line. -/
theorem overwriting_seen_in_part :
    letI : UrlReader := .none
    let file := utf8 "dsn = 'a'\n"
    let front := utf8 "dsn = 'b'\n"
    let rest := utf8 "serve.public.port = 8080\n"
    let old : Settings := { dsn := "a" }
    let new : Settings := { dsn := "b", serve := { «public» := { port := 8080 } } }
    let steps : List FileStep := [.emptied, .noticed .modified, .appended front,
      .noticed .modified, .appended rest, .noticed .modified]
    load (.ok file) = .ok old ∧ load (.ok (front ++ rest)) = .ok new ∧
      Overwrites (front ++ rest) steps ∧
      seenAfter file old (steps.take 2) = {} ∧ seenAfter file old (steps.take 4) = { dsn := "b" } ∧
      ¬ SeenWhole file (front ++ rest) old new := by
  intro file front rest old new steps
  let _ : UrlReader := .none
  have hold : load (.ok file) = .ok old := load_eq_ok_of_toOption (by decide +kernel)
  have hnew : load (.ok (front ++ rest)) = .ok new := load_eq_ok_of_toOption (by decide +kernel)
  have hsteps : Overwrites (front ++ rest) steps := ⟨[front, rest], by simp, rfl⟩
  have hemptied : seenAfter file old (steps.take 2) = {} := by decide +kernel
  have hfront : seenAfter file old (steps.take 4) = { dsn := "b" } := by decide +kernel
  refine ⟨hold, hnew, hsteps, hemptied, hfront, fun hwhole => ?_⟩
  have hseen := hwhole steps hsteps _ (List.take_prefix 2 steps)
  rw [hemptied] at hseen
  exact absurd hseen (by decide)

end DualServer.Config
