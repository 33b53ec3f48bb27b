import DualServer.Transport.FileSystem

/-! What a change at one place leaves at the others, and when a path leads anywhere. The way to a
path goes over directories only, so it is not lost by a change at a place that is none. -/
namespace DualServer.Transport

namespace FileSystem
variable {fs other : FileSystem} {place elsewhere : Place} {entry before : FileEntry}
  {path : String}

theorem get?_of_isGiven (h : place.isGiven = true) : fs.get? place = some .directory := if_pos h

theorem isGiven_eq_false (h : fs.get? place ≠ some .directory) : place.isGiven = false :=
  Bool.eq_false_iff.mpr (mt get?_of_isGiven h)

theorem lookup_erase_self (fs : FileSystem) (place : Place) :
    (fs.erase place).entries.lookup place = none := by
  rw [List.lookup_eq_none_iff]
  intro e he
  have hne : e.1 ≠ place := by simpa using (List.mem_filter.mp he).2
  simpa using hne.symm

theorem lookup_erase_of_ne (h : elsewhere ≠ place) :
    (fs.erase place).entries.lookup elsewhere = fs.entries.lookup elsewhere := by
  unfold erase
  induction fs.entries with
  | nil => rfl
  | cons e entries ih =>
    obtain ⟨there, found⟩ := e
    dsimp only at ih
    by_cases hthere : there = place
    · have hskipped : (elsewhere == place) = false := by simpa using h
      simp [List.lookup_cons, hthere, hskipped, ih]
    · by_cases hfound : elsewhere = there <;> simp [List.lookup_cons, hthere, hfound, ih]

theorem get?_erase_self (h : place.isGiven = false) : (fs.erase place).get? place = none := by
  unfold get?
  rw [h, lookup_erase_self]
  rfl

theorem get?_erase_of_ne (h : elsewhere ≠ place) :
    (fs.erase place).get? elsewhere = fs.get? elsewhere := by
  unfold get?
  rw [lookup_erase_of_ne h]

theorem get?_put_self (h : place.isGiven = false) :
    (fs.put place entry).get? place = some entry := by
  simp [get?, put, h]

theorem get?_put_of_ne (h : elsewhere ≠ place) :
    (fs.put place entry).get? elsewhere = fs.get? elsewhere := by
  have hskipped : (elsewhere == place) = false := by simpa using h
  unfold get? put
  simp only [List.lookup_cons, hskipped, lookup_erase_of_ne h]

theorem get?_of_get?_erase (h : (fs.erase place).get? elsewhere = some entry) :
    fs.get? elsewhere = some entry := by
  by_cases hne : elsewhere = place
  · subst hne
    cases hgiven : elsewhere.isGiven with
    | true =>
      rw [get?_of_isGiven hgiven] at h ⊢
      exact h
    | false =>
      rw [get?_erase_self hgiven] at h
      cases h
  · rwa [get?_erase_of_ne hne] at h

theorem get?_of_get?_put (h : (fs.put place before).get? elsewhere = some entry) :
    entry = before ∨ fs.get? elsewhere = some entry := by
  by_cases hne : elsewhere = place
  · subst hne
    cases hgiven : elsewhere.isGiven with
    | true =>
      rw [get?_of_isGiven hgiven] at h ⊢
      exact .inr h
    | false =>
      rw [get?_put_self hgiven] at h
      exact .inl (Option.some.inj h).symm
  · rw [get?_put_of_ne hne] at h
    exact .inr h

theorem put_erase (fs : FileSystem) (place : Place) (entry : FileEntry) :
    (fs.erase place).put place entry = fs.put place entry := by
  simp [put, erase]

theorem put_put (fs : FileSystem) (place : Place) (before entry : FileEntry) :
    (fs.put place before).put place entry = fs.put place entry := by
  simp [put, erase]

theorem refused?_eq_none_iff :
    refused? path = none ↔ path ≠ "" ∧ '\x00' ∉ path.toList ∧ path.utf8ByteSize ≤ maxPath := by
  unfold refused?
  by_cases hempty : path = ""
  · simp [hempty]
  · by_cases hnul : '\x00' ∈ path.toList
    · simp [hempty, hnul]
    · by_cases hlong : maxPath < path.utf8ByteSize
      · simp [hempty, hnul, hlong, Nat.not_le.mpr hlong]
      · simp [hempty, hnul, hlong, Nat.not_lt.mp hlong]

theorem find_of_refused? {fault : Fault} (h : refused? path = some fault) :
    fs.find path = .error fault := by
  unfold find
  rw [h]

theorem reach_eq_ok_iff :
    fs.reach path = .ok () ↔ ∀ place ∈ Place.passed path, fs.get? place = some .directory := by
  unfold reach
  split
  next hnone =>
    rw [List.find?_eq_none] at hnone
    simpa using hnone
  next place hsome =>
    have hnot : fs.get? place ≠ some .directory := by simpa using List.find?_some hsome
    constructor
    · nofun
    · intro h
      exact absurd (h place (List.mem_of_find?_eq_some hsome)) hnot

/-- The way to a path is kept by a change at a place that is no directory. -/
theorem reach_of_agree (hplace : fs.get? place ≠ some .directory)
    (hframe : ∀ elsewhere, elsewhere ≠ place → other.get? elsewhere = fs.get? elsewhere)
    (h : fs.reach path = .ok ()) : other.reach path = .ok () := by
  rw [reach_eq_ok_iff] at h ⊢
  intro p hp
  have hne : p ≠ place := by
    rintro rfl
    exact hplace (h p hp)
  rw [hframe p hne, h p hp]

theorem find_eq_ok_iff :
    fs.find path = .ok entry ↔ refused? path = none ∧ fs.reach path = .ok () ∧
      fs.get? (.ofPath path) = some entry ∧ (entry ≠ .directory → endsInSlash path = false) := by
  unfold find
  cases refused? path with
  | some fault => simp
  | none =>
    cases fs.reach path with
    | error fault => simp
    | ok =>
      cases fs.get? (.ofPath path) with
      | none => simp
      | some found => cases found <;> cases endsInSlash path <;> simp +contextual [eq_comm]

theorem exists?_eq_true_iff : fs.exists? path = true ↔ ∃ entry, fs.find path = .ok entry := by
  unfold exists?
  cases fs.find path <;> simp [Except.isOk, Except.toBool]

/-- A path to a file or socket that the system lets go. -/
def Removable (fs : FileSystem) (path : String) : Prop :=
  ∃ entry, fs.find path = .ok entry ∧ entry ≠ .directory ∧ fs.held.lookup (.ofPath path) = none

theorem Removable.not_directory (h : fs.Removable path) :
    fs.get? (.ofPath path) ≠ some .directory := by
  obtain ⟨entry, hfind, hentry, -⟩ := h
  obtain ⟨-, -, hget, -⟩ := find_eq_ok_iff.mp hfind
  rw [hget]
  simpa using hentry

theorem removeFile_of_removable (h : fs.Removable path) :
    fs.removeFile path = .ok (fs.erase (.ofPath path)) := by
  obtain ⟨entry, hfind, hentry, hheld⟩ := h
  unfold removeFile
  rw [hfind, hheld]
  cases entry with
  | directory => exact absurd rfl hentry
  | file content => rfl
  | socket id rights => rfl

theorem removeFile_of_not_removable (h : ¬ fs.Removable path) :
    ∃ fault, fs.removeFile path = .error fault := by
  unfold removeFile
  split
  next fault hfind => exact ⟨fault, rfl⟩
  next hfind => exact ⟨.isDirectory, rfl⟩
  next entry hentry hfind =>
    split
    next fault hheld => exact ⟨fault, rfl⟩
    next hheld => exact absurd ⟨entry, hfind, hentry, hheld⟩ h

end FileSystem
end DualServer.Transport
