import DualServer.Text.Base64
import DualServer.Text.Blank

/-! Base64 as a written form. What is written is read back, and nothing else is read: padding has to
be there, spare bits have to be zero, and no symbol may follow the padding. So the texts that stand
for given bytes are their one written form with blanks around it. -/
namespace DualServer.Text

theorem bind_eq_ok_iff {ε α β : Type} {x : Except ε α} {f : α → Except ε β} {b : β} :
    x >>= f = .ok b ↔ ∃ a, x = .ok a ∧ f a = .ok b := by
  cases x with
  | error fault => simp [bind, Except.bind]
  | ok a => simp [bind, Except.bind]

namespace Base64

theorem value?_symbol {n : Nat} (h : n < 64) : value? (symbol n) = some n := by
  revert n
  decide

theorem symbol_ne_pad {n : Nat} (h : n < 64) : symbol n ≠ pad := by
  revert n
  decide

theorem symbol_isVisible {n : Nat} (h : n < 64) :
    0x20 < (symbol n).toNat ∧ (symbol n).toNat < 0x7F := by
  revert n
  decide

theorem value?_eq_some {b : UInt8} {n : Nat} (h : value? b = some n) : n < 64 ∧ b = symbol n := by
  have hbytes : ∀ k < 256, ∀ n ∈ value? (UInt8.ofNat k), n < 64 ∧ UInt8.ofNat k = symbol n := by
    decide +kernel
  have hb := hbytes b.toNat b.toNat_lt n
  rw [UInt8.ofNat_toNat] at hb
  exact hb h

theorem valueAt_eq_ok_iff {offset n : Nat} {b : UInt8} :
    valueAt offset b = .ok n ↔ n < 64 ∧ b = symbol n := by
  unfold valueAt
  constructor
  · intro h
    split at h
    next m hvalue =>
      cases h
      exact value?_eq_some hvalue
    next => cases h
  · rintro ⟨hn, rfl⟩
    rw [value?_symbol hn]

/-- Any three bytes are those of four symbols. -/
theorem exists_threeBytes (x y z : UInt8) :
    ∃ a < 64, ∃ b < 64, ∃ c < 64, ∃ d < 64, threeBytes a b c d = [x, y, z] := by
  have hx := x.toNat_lt
  have hy := y.toNat_lt
  have hz := z.toNat_lt
  refine ⟨x.toNat / 4, by omega, x.toNat % 4 * 16 + y.toNat / 16, by omega,
    y.toNat % 16 * 4 + z.toNat / 64, by omega, z.toNat % 64, by omega, ?_⟩
  have hfirst : x.toNat / 4 * 4 + (x.toNat % 4 * 16 + y.toNat / 16) / 16 = x.toNat := by omega
  have hsecond : (x.toNat % 4 * 16 + y.toNat / 16) % 16 * 16 +
      (y.toNat % 16 * 4 + z.toNat / 64) / 4 = y.toNat := by omega
  have hthird : (y.toNat % 16 * 4 + z.toNat / 64) % 4 * 64 + z.toNat % 64 = z.toNat := by omega
  rw [threeBytes, hfirst, hsecond, hthird, UInt8.ofNat_toNat, UInt8.ofNat_toNat, UInt8.ofNat_toNat]

theorem exists_twoBytes (x y : UInt8) :
    ∃ a < 64, ∃ b < 64, ∃ c < 64, c % 4 = 0 ∧
      [UInt8.ofNat (a * 4 + b / 16), UInt8.ofNat (b % 16 * 16 + c / 4)] = [x, y] := by
  have hx := x.toNat_lt
  have hy := y.toNat_lt
  refine ⟨x.toNat / 4, by omega, x.toNat % 4 * 16 + y.toNat / 16, by omega, y.toNat % 16 * 4,
    by omega, by omega, ?_⟩
  have hfirst : x.toNat / 4 * 4 + (x.toNat % 4 * 16 + y.toNat / 16) / 16 = x.toNat := by omega
  have hsecond : (x.toNat % 4 * 16 + y.toNat / 16) % 16 * 16 + y.toNat % 16 * 4 / 4 = y.toNat := by
    omega
  rw [hfirst, hsecond, UInt8.ofNat_toNat, UInt8.ofNat_toNat]

theorem exists_oneByte (x : UInt8) :
    ∃ a < 64, ∃ b < 64, b % 16 = 0 ∧ UInt8.ofNat (a * 4 + b / 16) = x := by
  have hx := x.toNat_lt
  refine ⟨x.toNat / 4, by omega, x.toNat % 4 * 16, by omega, by omega, ?_⟩
  have hbyte : x.toNat / 4 * 4 + x.toNat % 4 * 16 / 16 = x.toNat := by omega
  rw [hbyte, UInt8.ofNat_toNat]

theorem encode_threeBytes {a b c d : Nat} (ha : a < 64) (hb : b < 64) (hc : c < 64) (hd : d < 64)
    (rest : Bytes) :
    encode (threeBytes a b c d ++ rest) =
      symbol a :: symbol b :: symbol c :: symbol d :: encode rest := by
  have hfirst : a * 4 + b / 16 < 256 := by omega
  have hsecond : b % 16 * 16 + c / 4 < 256 := by omega
  have hthird : c % 4 * 64 + d < 256 := by omega
  rw [threeBytes, List.cons_append, List.cons_append, List.cons_append, List.nil_append, encode,
    UInt8.toNat_ofNat_of_lt' hfirst, UInt8.toNat_ofNat_of_lt' hsecond,
    UInt8.toNat_ofNat_of_lt' hthird]
  congr <;> omega

theorem encode_twoBytes {a b c : Nat} (ha : a < 64) (hb : b < 64) (hc : c < 64)
    (hspare : c % 4 = 0) :
    encode [UInt8.ofNat (a * 4 + b / 16), UInt8.ofNat (b % 16 * 16 + c / 4)] =
      [symbol a, symbol b, symbol c, pad] := by
  have hfirst : a * 4 + b / 16 < 256 := by omega
  have hsecond : b % 16 * 16 + c / 4 < 256 := by omega
  rw [encode, UInt8.toNat_ofNat_of_lt' hfirst, UInt8.toNat_ofNat_of_lt' hsecond]
  congr <;> omega

theorem encode_oneByte {a b : Nat} (ha : a < 64) (hb : b < 64) (hspare : b % 16 = 0) :
    encode [UInt8.ofNat (a * 4 + b / 16)] = [symbol a, symbol b, pad, pad] := by
  have hbyte : a * 4 + b / 16 < 256 := by omega
  rw [encode, UInt8.toNat_ofNat_of_lt' hbyte]
  congr <;> omega

theorem length_encode (bytes : Bytes) : (encode bytes).length = (bytes.length + 2) / 3 * 4 := by
  fun_induction encode bytes with
  | case1 => rfl
  | case2 a => simp
  | case3 a b => simp
  | case4 a b c rest ih =>
    simp only [List.length_cons, ih]
    omega

/-- What has been read of the last group: symbols that have a value, and padding behind them. -/
structure LastGroup.Reads (g : LastGroup) (symbols : Bytes) : Prop where
  values_lt : ∀ n ∈ g.values, n < 64
  eq : symbols = g.values.map symbol ++ List.replicate g.padding pad

theorem LastGroup.Reads.step {g next : LastGroup} {base index : Nat} {b : UInt8} {symbols : Bytes}
    (h : g.Reads symbols) (hstep : g.step base index b = .ok next) :
    next.Reads (symbols ++ [b]) := by
  unfold LastGroup.step at hstep
  split at hstep
  next hpad =>
    split at hstep
    next => cases hstep
    next =>
      cases hstep
      refine ⟨h.values_lt, ?_⟩
      rw [h.eq, hpad, List.replicate_succ', List.append_assoc]
  next =>
    split at hstep
    next => cases hstep
    next hunpadded =>
      have hzero : g.padding = 0 := by omega
      cases hvalue : valueAt (base + index) b with
      | error fault =>
        rw [hvalue] at hstep
        cases hstep
      | ok n =>
        rw [hvalue] at hstep
        cases hstep
        obtain ⟨hn, hb⟩ := valueAt_eq_ok_iff.mp hvalue
        refine ⟨?_, by rw [h.eq, hb, hzero]; simp⟩
        intro m hm
        obtain hm | hm := List.mem_append.mp hm
        · exact h.values_lt m hm
        · rwa [List.mem_singleton.mp hm]

theorem LastGroup.Reads.read {g last : LastGroup} {base index : Nat} {before rest : Bytes}
    (h : g.Reads before) (hread : LastGroup.read base index g rest = .ok last) :
    last.Reads (before ++ rest) := by
  induction rest generalizing index g before with
  | nil =>
    cases hread
    rwa [List.append_nil]
  | cons b rest ih =>
    unfold LastGroup.read at hread
    split at hread
    next => cases hread
    next next hstep =>
      rw [List.append_cons]
      exact ih (h.step hstep) hread

theorem eq_encode_of_lastGroup {base : Nat} {symbols bytes : Bytes} (hlength : symbols.length ≤ 4)
    (h : lastGroup base symbols = .ok bytes) : symbols = encode bytes := by
  unfold lastGroup at h
  split at h
  next => cases h
  next g hread =>
    have hstart : LastGroup.Reads {} [] := ⟨List.forall_mem_nil _, rfl⟩
    obtain ⟨hlt, rfl⟩ := hstart.read hread
    split at h
    next =>
      split at h
      next hempty =>
        cases h
        exact List.isEmpty_iff.mp hempty
      next => cases h
    next => cases h
    next a b hvalues =>
      rw [hvalues] at hlt ⊢
      split at h
      next => cases h
      next hpadding =>
        split at h
        next => cases h
        next hspare =>
          cases h
          rw [encode_oneByte (hlt a (by simp)) (hlt b (by simp)) (by omega),
            Decidable.not_not.mp hpadding]
          rfl
    next a b c hvalues =>
      rw [hvalues] at hlt ⊢
      split at h
      next => cases h
      next hpadding =>
        split at h
        next => cases h
        next hspare =>
          cases h
          rw [encode_twoBytes (hlt a (by simp)) (hlt b (by simp)) (hlt c (by simp)) (by omega),
            Decidable.not_not.mp hpadding]
          rfl
    next a b c d more hvalues =>
      cases h
      rw [hvalues] at hlt hlength ⊢
      -- Four symbols leave no room for more of them or for padding.
      have hfull : more.length + g.padding = 0 := by
        simp only [List.length_append, List.length_map, List.length_cons, List.length_replicate]
          at hlength
        omega
      obtain ⟨hmore, hpadding⟩ := Nat.add_eq_zero_iff.mp hfull
      rw [hpadding, List.length_eq_zero_iff.mp hmore, ← List.append_nil (threeBytes a b c d),
        encode_threeBytes (hlt a (by simp)) (hlt b (by simp)) (hlt c (by simp)) (hlt d (by simp))]
      rfl

theorem lastGroup_encode (base : Nat) {bytes : Bytes} (h : bytes.length ≤ 3) :
    lastGroup base (encode bytes) = .ok bytes := by
  match bytes, h with
  | [], _ => rfl
  | [x], _ =>
    obtain ⟨a, ha, b, hb, hspare, hbyte⟩ := exists_oneByte x
    rw [← hbyte, encode_oneByte ha hb hspare]
    simp [lastGroup, LastGroup.read, LastGroup.step, symbol_ne_pad, valueAt, value?_symbol,
      Except.map, ha, hb, hspare]
  | [x, y], _ =>
    obtain ⟨a, ha, b, hb, c, hc, hspare, hbytes⟩ := exists_twoBytes x y
    rw [← hbytes, encode_twoBytes ha hb hc hspare]
    simp [lastGroup, LastGroup.read, LastGroup.step, symbol_ne_pad, valueAt, value?_symbol,
      Except.map, ha, hb, hc, hspare]
  | [x, y, z], _ =>
    obtain ⟨a, ha, b, hb, c, hc, d, hd, hbytes⟩ := exists_threeBytes x y z
    rw [← hbytes, ← List.append_nil (threeBytes a b c d), encode_threeBytes ha hb hc hd]
    simp [encode, lastGroup, LastGroup.read, LastGroup.step, symbol_ne_pad, valueAt, value?_symbol,
      Except.map, ha, hb, hc, hd]

theorem groups_eq_ok_iff {base : Nat} {symbols bytes : Bytes} :
    groups base symbols = .ok bytes ↔ symbols = encode bytes := by
  fun_induction groups base symbols generalizing bytes with
  | case1 base a b c d e rest ih =>
    simp only [bind_eq_ok_iff, valueAt_eq_ok_iff, pure, Except.pure, Except.ok.injEq]
    constructor
    · rintro ⟨va, ⟨ha, rfl⟩, vb, ⟨hb, rfl⟩, vc, ⟨hc, rfl⟩, vd, ⟨hd, rfl⟩, more, hmore, rfl⟩
      rw [encode_threeBytes ha hb hc hd, ih.mp hmore]
    · intro h
      match bytes with
      | [] | [_] | [_, _] => simp [encode] at h
      | x :: y :: z :: more =>
        obtain ⟨va, ha, vb, hb, vc, hc, vd, hd, hbytes⟩ := exists_threeBytes x y z
        have happend : x :: y :: z :: more = threeBytes va vb vc vd ++ more := by rw [hbytes]; rfl
        simp only [happend, encode_threeBytes ha hb hc hd, List.cons.injEq] at h
        obtain ⟨hsa, hsb, hsc, hsd, hrest⟩ := h
        exact ⟨va, ⟨ha, hsa⟩, vb, ⟨hb, hsb⟩, vc, ⟨hc, hsc⟩, vd, ⟨hd, hsd⟩, more, ih.mpr hrest,
          happend.symm⟩
  | case2 base symbols h =>
    have hlength : symbols.length ≤ 4 := by
      match symbols with
      | [] | [_] | [_, _] | [_, _, _] | [_, _, _, _] => simp
      | a :: b :: c :: d :: e :: rest => exact (h a b c d e rest rfl).elim
    constructor
    · exact eq_encode_of_lastGroup hlength
    · rintro rfl
      rw [length_encode] at hlength
      exact lastGroup_encode base (by omega)

theorem straySymbol?_encode (bytes : Bytes) : straySymbol? (encode bytes) = none := by
  rw [straySymbol?, if_neg]
  rw [length_encode]
  omega

/-- What is written is read back, and nothing else is read. -/
theorem decode_eq_ok_iff {symbols bytes : Bytes} :
    decode symbols = .ok bytes ↔ symbols = encode bytes := by
  unfold decode
  constructor
  · intro h
    split at h
    next => cases h
    next => exact groups_eq_ok_iff.mp h
  · rintro rfl
    rw [straySymbol?_encode]
    exact groups_eq_ok_iff.mpr rfl

example : decode (utf8 "++//TA==") = .ok [0xFB, 0xEF, 0xFF, 0x4C] := by cbv

theorem isVisible_encode (bytes : Bytes) :
    ∀ b ∈ encode bytes, 0x20 < b.toNat ∧ b.toNat < 0x7F := by
  have hpad : 0x20 < pad.toNat ∧ pad.toNat < 0x7F := by decide
  fun_induction encode bytes with
  | case1 => exact List.forall_mem_nil _
  | case2 x =>
    have hx := x.toNat_lt
    simp only [List.forall_mem_cons]
    exact ⟨symbol_isVisible (by omega), symbol_isVisible (by omega), hpad, hpad,
      List.forall_mem_nil _⟩
  | case3 x y =>
    have hx := x.toNat_lt
    have hy := y.toNat_lt
    simp only [List.forall_mem_cons]
    exact ⟨symbol_isVisible (by omega), symbol_isVisible (by omega), symbol_isVisible (by omega),
      hpad, List.forall_mem_nil _⟩
  | case4 x y z rest ih =>
    have hx := x.toNat_lt
    have hy := y.toNat_lt
    have hz := z.toNat_lt
    simp only [List.forall_mem_cons]
    exact ⟨symbol_isVisible (by omega), symbol_isVisible (by omega), symbol_isVisible (by omega),
      symbol_isVisible (by omega), ih⟩

/-- The written form of bytes, as characters. -/
def form (bytes : Bytes) : List Char := (encode bytes).map Char.ofUInt8

theorem utf8_form (bytes : Bytes) : utf8 (String.ofList (form bytes)) = encode bytes := by
  refine utf8_ascii fun b hb => UInt8.lt_iff_toNat_lt.mpr ?_
  exact Nat.lt_trans (isVisible_encode bytes b hb).2 (by decide)

theorem trimBlankChars_form (bytes : Bytes) : trimBlankChars (form bytes) = form bytes := by
  refine trimBlankChars_eq_self fun c hc => ?_
  obtain ⟨b, hb, rfl⟩ := List.mem_map.mp hc
  obtain ⟨hlow, hhigh⟩ := isVisible_encode bytes b hb
  exact isBlank_eq_false hlow hhigh

/-- A text stands for bytes: it is their written form, blanks around it aside. -/
def Spells (text : String) (bytes : Bytes) : Prop :=
  ∃ before after : List Char, (∀ c ∈ before, isBlank c = true) ∧ (∀ c ∈ after, isBlank c = true) ∧
    text.toList = before ++ form bytes ++ after

theorem decode_trimBlank_eq_ok_iff {text : String} {bytes : Bytes} :
    decode (utf8 (trimBlank text)) = .ok bytes ↔ Spells text bytes := by
  rw [decode_eq_ok_iff, ← utf8_form, utf8_inj, trimBlank, String.ofList_inj]
  constructor
  · intro h
    obtain ⟨before, after, hbefore, hafter, htext⟩ := exists_blanks_around text.toList
    exact ⟨before, after, hbefore, hafter, by rwa [h] at htext⟩
  · rintro ⟨before, after, hbefore, hafter, htext⟩
    rw [htext, trimBlankChars_append hbefore hafter, trimBlankChars_form]

end Base64
end DualServer.Text
