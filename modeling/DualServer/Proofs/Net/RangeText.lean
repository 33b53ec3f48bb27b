import DualServer.Proofs.Net.Printing

/-! Ranges that are printed and read again, and blanks around their parts. Neither an address nor
its prefix has a blank or a slash in it, so both the cut at the first slash and the trimming leave
the parts as they were printed. -/
namespace DualServer.Net

open DualServer.Text

/-- One text is the other with blanks around the address and around the prefix. -/
inductive Padded : List Char → List Char → Prop
  | address {before address after : List Char} (hmark : '/' ∉ address)
    (hbefore : ∀ c ∈ before, isBlank c = true) (hafter : ∀ c ∈ after, isBlank c = true) :
    Padded address (before ++ address ++ after)
  | parts {before address after behind length last : List Char} (hmark : '/' ∉ address)
    (hbefore : ∀ c ∈ before, isBlank c = true) (hafter : ∀ c ∈ after, isBlank c = true)
    (hbehind : ∀ c ∈ behind, isBlank c = true) (hlast : ∀ c ∈ last, isBlank c = true) :
    Padded (address ++ '/' :: length)
      (before ++ address ++ after ++ '/' :: (behind ++ length ++ last))

theorem isBlank_of_between {c low high : Char} (h : low ≤ c ∧ c ≤ high) (hlow : 0x20 < low.toNat)
    (hhigh : high.toNat < 0x7F) : isBlank c = false :=
  isBlank_eq_false (Nat.lt_of_lt_of_le hlow h.1) (Nat.lt_of_le_of_lt h.2 hhigh)

theorem isBlank_of_isDigitOf {c : Char} (h : isDigitOf 16 c = true) : isBlank c = false := by
  obtain ⟨d, hd⟩ := Option.isSome_iff_exists.mp h
  obtain ⟨hvalue, -⟩ := Option.filter_eq_some_iff.mp hd
  unfold hexValue? at hvalue
  split at hvalue
  next hdigit =>
    have hchar : '0' ≤ c ∧ c ≤ '9' := by simpa [Char.isDigit, Char.le_def] using hdigit
    exact isBlank_of_between hchar (by decide) (by decide)
  next =>
    split at hvalue
    next hchar => exact isBlank_of_between hchar (by decide) (by decide)
    next =>
      split at hvalue
      next hchar => exact isBlank_of_between hchar (by decide) (by decide)
      next => cases hvalue

theorem isBlank_of_inV6 {c : Char} (h : inV6 c = true) : isBlank c = false := by
  unfold inV6 at h
  rw [Bool.or_eq_true, Bool.or_eq_true, beq_iff_eq, beq_iff_eq] at h
  obtain (h | rfl) | rfl := h
  · exact isBlank_of_isDigitOf h
  · decide
  · decide

theorem slash_notMem_padded {before address after : List Char} (hmark : '/' ∉ address)
    (hbefore : ∀ c ∈ before, isBlank c = true) (hafter : ∀ c ∈ after, isBlank c = true) :
    '/' ∉ before ++ address ++ after := by
  have hslash : isBlank '/' ≠ true := by decide
  rw [List.mem_append, List.mem_append, not_or, not_or]
  exact ⟨⟨fun h => hslash (hbefore _ h), hmark⟩, fun h => hslash (hafter _ h)⟩

theorem IpAddress.width_le (a : IpAddress) : a.width ≤ 255 := by
  cases a with
  | v4 bits => exact (by decide : 32 ≤ 255)
  | v6 bits => exact (by decide : 128 ≤ 255)

theorem IpAddress.slash_notMem_toChars (a : IpAddress) : '/' ∉ a.toChars :=
  fun h => absurd (all_of_ofChars? (ofChars?_toChars a) '/' h) (by decide)

theorem IpAddress.trimBlankChars_toChars (a : IpAddress) :
    trimBlankChars a.toChars = a.toChars :=
  trimBlankChars_eq_self fun c hc => isBlank_of_inV6 (all_of_ofChars? (ofChars?_toChars a) c hc)

theorem trimBlankChars_toDigits (n : Nat) :
    trimBlankChars (Nat.toDigits 10 n) = Nat.toDigits 10 n :=
  trimBlankChars_eq_self fun c hc =>
    isBlank_of_isDigitOf (isDigitOf_mono (isDigitOf_of_mem_toDigits (by decide) (by decide) hc))

namespace IpRange

theorem ofChars?_parts {address : List Char} (h : '/' ∉ address) (length : List Char) :
    ofChars? (address ++ '/' :: length) = ofParts? address (some length) := by
  rw [ofChars?, splitFirst_append h]

theorem ofChars?_address {address : List Char} (h : '/' ∉ address) :
    ofChars? address = ofParts? address none := by
  rw [ofChars?, splitFirst_eq_none h]

theorem ofChars?_padded {cs padded : List Char} (h : Padded cs padded) :
    ofChars? padded = ofChars? cs := by
  cases h with
  | address hmark hbefore hafter =>
    rw [ofChars?_address hmark, ofChars?_address (slash_notMem_padded hmark hbefore hafter)]
    unfold ofParts?
    rw [trimBlankChars_append hbefore hafter]
  | parts hmark hbefore hafter hbehind hlast =>
    rw [ofChars?_parts hmark, ofChars?_parts (slash_notMem_padded hmark hbefore hafter)]
    unfold ofParts?
    dsimp only
    rw [trimBlankChars_append hbefore hafter, trimBlankChars_append hbehind hlast]

theorem ofChars?_toChars (range : IpRange) : ofChars? range.toChars = some range := by
  have hlength : range.prefixLength ≤ 255 :=
    Nat.le_trans range.prefixLength_le range.network.width_le
  rw [toChars, ofChars?_parts range.network.slash_notMem_toChars, ofParts?,
    range.network.trimBlankChars_toChars, IpAddress.ofChars?_toChars]
  simp only [trimBlankChars_toDigits, boundedNumber?_toDigits hlength, Option.bind_eq_bind,
    Option.bind_some, range.prefixLength_le, dite_true]

theorem parse_eq_ok_iff {s : String} {range : IpRange} :
    parse s = .ok range ↔ ofChars? s.toList = some range := by
  unfold parse
  cases ofChars? s.toList <;> simp

/-- A printed range is read as that range, host bits and prefix kept. A text with blanks around its
parts gives the same range as without them, or none as well. -/
theorem text_read_back :
    (∀ range : IpRange, parse range.text = .ok range) ∧
      ∀ s padded : String, Padded s.toList padded.toList →
        ∀ range, parse padded = .ok range ↔ parse s = .ok range := by
  constructor
  · intro range
    rw [parse_eq_ok_iff, text, String.toList_ofList]
    exact ofChars?_toChars range
  · intro s padded hpadded range
    rw [parse_eq_ok_iff, parse_eq_ok_iff, ofChars?_padded hpadded]

theorem text_read_back_around :
    Padded "10.0.0.5/8".toList "\t10.0.0.5 / 8\n".toList ∧
      parse "\t10.0.0.5 / 8\n" = .ok ⟨.v4 0x0A000005, 8, by decide⟩ := by
  have hblank (c : Char) (h : isBlank c = true) : ∀ d ∈ [c], isBlank d = true :=
    List.forall_mem_singleton.mpr h
  have hpadded : Padded "10.0.0.5/8".toList "\t10.0.0.5 / 8\n".toList :=
    @Padded.parts ['\t'] "10.0.0.5".toList [' '] [' '] ['8'] ['\n'] (by decide) (hblank _ rfl)
      (hblank _ rfl) (hblank _ rfl) (hblank _ rfl)
  exact ⟨hpadded, (text_read_back.2 _ _ hpadded _).mpr (by decide)⟩

end IpRange
end DualServer.Net
