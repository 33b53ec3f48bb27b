import Mathlib.Data.List.Infix
import DualServer.Pipeline.Collector

/-! Under which path a request is counted. All entries that cover a path begin it, so they are
fronts of one another and no two of them are of the same size: the longest one is the same whatever
the order of the list, and it goes on covering what lies below the path. -/
namespace DualServer.Pipeline
open DualServer.Text

/-- An entry covers a path that goes on from it at the border of a segment. -/
def Covers (entry path : String) : Prop :=
  ∃ rest, path = entry ++ rest ∧
    (rest = "" ∨ entry.toList.getLast? = some '/' ∨ rest.toList.head? = some '/')

theorem covers_eq_true_iff {entry path : String} :
    covers entry path = true ↔ Covers entry path := by
  unfold covers Covers
  constructor
  · intro h
    split at h
    · cases h
    next rest hrest =>
      refine ⟨String.ofList rest, ?_, ?_⟩
      · rw [← String.toList_inj, dropFront?_eq_some.mp hrest]
        simp
      · simpa [or_assoc] using h
  · rintro ⟨rest, rfl, hborder⟩
    rw [dropFront?_eq_some.mpr String.toList_append]
    simpa [or_assoc] using hborder

namespace Covers

variable {entry other path : String}

theorem refl (path : String) : Covers path path := ⟨"", by simp, .inl rfl⟩

theorem size_le (h : Covers entry path) : entry.utf8ByteSize ≤ path.utf8ByteSize := by
  obtain ⟨rest, rfl, -⟩ := h
  rw [String.utf8ByteSize_append]
  omega

theorem eq_of_size_le (h : Covers entry path) (hsize : path.utf8ByteSize ≤ entry.utf8ByteSize) :
    entry = path := by
  obtain ⟨rest, rfl, -⟩ := h
  rw [String.utf8ByteSize_append] at hsize
  have hrest : rest = "" := String.utf8ByteSize_eq_zero_iff.mp (by omega)
  simp [hrest]

/-- Of two entries that cover the same path, the one that is no longer covers the other. -/
theorem of_size_le (h : Covers entry path) (hother : Covers other path)
    (hsize : entry.utf8ByteSize ≤ other.utf8ByteSize) : Covers entry other := by
  obtain ⟨rest, rfl, hborder⟩ := h
  obtain ⟨rest', heq, -⟩ := hother
  rw [← String.toList_inj, String.toList_append, String.toList_append] at heq
  rcases List.append_eq_append_iff.mp heq with ⟨gap, hgap, hrest⟩ | ⟨gap, hgap, -⟩
  · refine ⟨String.ofList gap, ?_, ?_⟩
    · rw [← String.toList_inj, hgap]
      simp
    · rcases hborder with rfl | hslash | hslash
      · simp_all
      · exact .inr (.inl hslash)
      · -- The gap is a front of the rest, so it begins with the same slash.
        cases gap with
        | nil => simp
        | cons c gap => simp_all
  · obtain rfl : entry = other ++ String.ofList gap := by
      rw [← String.toList_inj, hgap]
      simp
    rw [String.utf8ByteSize_append] at hsize
    have hempty : String.ofList gap = "" := String.utf8ByteSize_eq_zero_iff.mp (by omega)
    rw [hempty, String.append_empty]
    exact refl other

/-- What covers a path covers all that lies below it. -/
theorem below (h : Covers entry path) (suffix : String) : Covers entry (path ++ "/" ++ suffix) := by
  obtain ⟨rest, rfl, hborder⟩ := h
  refine ⟨rest ++ "/" ++ suffix, by simp [String.append_assoc], .inr ?_⟩
  rcases hborder with rfl | hslash | hslash
  · exact .inr (by simp)
  · exact .inl hslash
  · exact .inr (by simp [hslash])

theorem root (path : String) : Covers "/" ("/" ++ path) := ⟨path, rfl, .inr (.inl rfl)⟩

end Covers

def longest? (entries : List String) : Option String :=
  entries.foldl (fun best entry =>
    match best with
    | none => some entry
    | some b => if b.utf8ByteSize ≤ entry.utf8ByteSize then some entry else some b) none

theorem anonymize_eq (listed : List String) (path : String) :
    anonymize listed path = (longest? (listed.filter (covers · path))).getD "/" := rfl

theorem longest?_of_ne_nil {entries : List String} (h : entries ≠ []) :
    ∃ longest, longest? entries = some longest ∧ longest ∈ entries ∧
      ∀ entry ∈ entries, entry.utf8ByteSize ≤ longest.utf8ByteSize := by
  induction entries using List.reverseRecOn with
  | nil => contradiction
  | append_singleton entries last ih =>
    have hstep : longest? (entries ++ [last]) = match longest? entries with
        | none => some last
        | some b => if b.utf8ByteSize ≤ last.utf8ByteSize then some last else some b := by
      simp [longest?]
    rw [hstep]
    by_cases hentries : entries = []
    · subst hentries
      exact ⟨last, rfl, by simp, by simp⟩
    obtain ⟨longest, hlongest, hmem, hmax⟩ := ih hentries
    simp only [hlongest, List.mem_append, List.mem_singleton]
    split
    next hle =>
      refine ⟨last, rfl, .inr rfl, ?_⟩
      rintro entry (hentry | rfl)
      · exact (hmax entry hentry).trans hle
      · exact Nat.le_refl _
    next hlt =>
      refine ⟨longest, rfl, .inl hmem, ?_⟩
      rintro entry (hentry | rfl)
      · exact hmax entry hentry
      · omega

/-- The listed path that covers a path and is at least as long as any other that does. -/
structure Longest (listed : List String) (path label : String) : Prop where
  mem : label ∈ listed
  covers : Covers label path
  size_le : ∀ entry ∈ listed, Covers entry path → entry.utf8ByteSize ≤ label.utf8ByteSize

section
variable {listed listed' : List String} {path label label' : String}

theorem Longest.eq (h : Longest listed path label) (h' : Longest listed path label') :
    label = label' := by
  have hle : label.utf8ByteSize ≤ label'.utf8ByteSize := h'.size_le label h.mem h.covers
  have hge : label'.utf8ByteSize ≤ label.utf8ByteSize := h.size_le label' h'.mem h'.covers
  exact (h.covers.of_size_le h'.covers hle).eq_of_size_le hge

theorem Longest.congr (hlisted : ∀ entry, entry ∈ listed' ↔ entry ∈ listed)
    (h : Longest listed path label) : Longest listed' path label where
  mem := (hlisted label).mpr h.mem
  covers := h.covers
  size_le entry hentry := h.size_le entry ((hlisted entry).mp hentry)

/-- A listed path is the longest one that covers itself. -/
theorem longest_self (h : path ∈ listed) : Longest listed path path where
  mem := h
  covers := .refl path
  size_le _ _ hcovers := hcovers.size_le

theorem longest_anonymize (h : ∃ entry ∈ listed, Covers entry path) :
    Longest listed path (anonymize listed path) := by
  have hmem : ∀ entry, entry ∈ listed.filter (covers · path) ↔
      entry ∈ listed ∧ Covers entry path := by
    intro entry
    rw [List.mem_filter, covers_eq_true_iff]
  obtain ⟨entry, hentry⟩ := h
  obtain ⟨longest, hlongest, hfound, hmax⟩ :=
    longest?_of_ne_nil (List.ne_nil_of_mem ((hmem entry).mpr hentry))
  rw [anonymize_eq, hlongest, Option.getD_some]
  exact ⟨((hmem longest).mp hfound).1, ((hmem longest).mp hfound).2,
    fun entry hlisted hcovers => hmax entry ((hmem entry).mpr ⟨hlisted, hcovers⟩)⟩

theorem anonymize_of_uncovered (h : ∀ entry ∈ listed, ¬ Covers entry path) :
    anonymize listed path = "/" := by
  have hnone : listed.filter (covers · path) = [] := by
    simpa [List.filter_eq_nil_iff, covers_eq_true_iff] using h
  rw [anonymize_eq, hnone]
  rfl

theorem anonymize_of_longest (h : Longest listed path label) : anonymize listed path = label :=
  (longest_anonymize ⟨label, h.mem, h.covers⟩).eq h

/-- Entries that come twice or change places make no difference. -/
theorem anonymize_congr (hlisted : ∀ entry, entry ∈ listed' ↔ entry ∈ listed) (path : String) :
    anonymize listed' path = anonymize listed path := by
  by_cases hcovered : ∃ entry ∈ listed, Covers entry path
  · exact anonymize_of_longest ((longest_anonymize hcovered).congr hlisted)
  · push Not at hcovered
    rw [anonymize_of_uncovered hcovered]
    apply anonymize_of_uncovered
    intro entry hentry
    exact hcovered entry ((hlisted entry).mp hentry)

theorem anonymize_mem (hroot : "/" ∈ listed) (path : String) : anonymize listed path ∈ listed := by
  by_cases hcovered : ∃ entry ∈ listed, Covers entry path
  · exact (longest_anonymize hcovered).mem
  · push Not at hcovered
    rw [anonymize_of_uncovered hcovered]
    exact hroot

/-- The labels of a path and of one below it both cover the latter, and the longer of them is the
one that was found for it. -/
theorem covers_anonymize_below (h : ∃ entry ∈ listed, Covers entry path) (suffix : String) :
    Covers (anonymize listed path) (anonymize listed (path ++ "/" ++ suffix)) := by
  have hlabel : Longest listed path (anonymize listed path) := longest_anonymize h
  have hbelow : Covers (anonymize listed path) (path ++ "/" ++ suffix) := hlabel.covers.below suffix
  have hlonger : Longest listed (path ++ "/" ++ suffix)
      (anonymize listed (path ++ "/" ++ suffix)) :=
    longest_anonymize ⟨_, hlabel.mem, hbelow⟩
  exact hbelow.of_size_le hlonger.covers (hlonger.size_le _ hlabel.mem hbelow)

end

/-- A path is counted under the longest listed path that covers it, and under the root if there is
none; the list counts as a set. Under the list of the server every path has a listed label, which is
its own label, and the label of a path covers the labels of all below it. -/
theorem label_longest_covering (listed : List String) (path : String) :
    ((∃ entry ∈ listed, Covers entry path) → Longest listed path (anonymize listed path)) ∧
    ((∀ entry ∈ listed, ¬ Covers entry path) → anonymize listed path = "/") ∧
    (∀ listed', (∀ entry, entry ∈ listed' ↔ entry ∈ listed) →
      anonymize listed' path = anonymize listed path) ∧
    let label := anonymize Paths.reported
    label path ∈ Paths.reported ∧
    label (label path) = label path ∧
    ∀ suffix, Covers (label ("/" ++ path)) (label ("/" ++ path ++ "/" ++ suffix)) := by
  have hroot : "/" ∈ Paths.reported := by decide
  refine ⟨longest_anonymize, anonymize_of_uncovered, fun listed' h => anonymize_congr h path, ?_⟩
  intro label
  have hlabel : label path ∈ Paths.reported := anonymize_mem hroot path
  refine ⟨hlabel, anonymize_of_longest (longest_self hlabel), ?_⟩
  exact covers_anonymize_below ⟨"/", hroot, .root path⟩

/-- Neither the root nor an entry that ends within a segment. -/
example : anonymize ["/", "/keys", "/k", "/keys/a"] "/keys/ab" = "/keys" := by
  decide +kernel

end DualServer.Pipeline
