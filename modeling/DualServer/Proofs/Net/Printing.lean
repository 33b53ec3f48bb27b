import DualServer.Proofs.Net.Membership
import DualServer.Proofs.Net.Reading

/-! Addresses that are printed and read again. Numbers are printed without leading zeros and so pass
the bounds on digits; groups are printed up to the end or up to the mark of a run of zeros, where
the reader stops as well; and the zeros that the mark leaves out are as many as the reader puts
back. -/
namespace DualServer.Net

open DualServer.Text

theorem hexValue?_digitChar {d : Nat} (h : d < 16) : hexValue? d.digitChar = some d := by
  have hall : ∀ d : Fin 16, hexValue? (Nat.digitChar d) = some d.val := by decide
  exact hall ⟨d, h⟩

theorem digitOf?_digitChar {base d : Nat} (hbase : base ≤ 16) (h : d < base) :
    digitOf? base d.digitChar = some d := by
  unfold digitOf?
  rw [hexValue?_digitChar (by omega), Option.filter_some, if_pos (decide_eq_true h)]

theorem digitsFront_append_of_all {base : Nat} {xs : List Char} {ds : List Nat}
    (h : digitsFront base xs = (ds, [])) (ys : List Char) :
    digitsFront base (xs ++ ys) = (ds ++ (digitsFront base ys).1, (digitsFront base ys).2) := by
  induction xs generalizing ds with
  | nil =>
    cases h
    rfl
  | cons x xs ih =>
    cases hx : digitOf? base x with
    | none => simp [digitsFront, hx] at h
    | some d =>
      simp only [digitsFront, hx, Prod.mk.injEq] at h
      obtain ⟨rfl, hxs⟩ := h
      simp only [List.cons_append, digitsFront, hx, ih (Prod.ext rfl hxs)]

/-- A number as it is printed: its digits are read to the end, there are as many as characters and
at least one, and no zero leads them. -/
theorem digitsFront_toDigits (base : Nat) (hlow : 1 < base) (hhigh : base ≤ 16) (n : Nat) :
    ∃ ds, digitsFront base (Nat.toDigits base n) = (ds, []) ∧ numberOf base ds = n ∧
      ds.length = (Nat.toDigits base n).length ∧ ds.length ≠ 0 ∧ (ds.head? = some 0 → n = 0) := by
  induction n using Nat.strongRecOn with
  | ind n ih =>
    by_cases hn : n < base
    · rw [Nat.toDigits_of_lt_base hn]
      refine ⟨[n], ?_, ?_, rfl, Nat.one_ne_zero, ?_⟩
      · simp [digitsFront, digitOf?_digitChar hhigh hn]
      · simp [numberOf]
      · simp
    · have hdiv : n / base < n := Nat.div_lt_self (by omega) hlow
      have hmod : n % base < base := Nat.mod_lt _ (by omega)
      obtain ⟨ds, hread, hvalue, hlength, hne, hhead⟩ := ih (n / base) hdiv
      rw [Nat.toDigits_of_base_le hlow (by omega)]
      refine ⟨ds ++ [n % base], ?_, ?_, ?_, ?_, ?_⟩
      · rw [digitsFront_append_of_all hread]
        simp [digitsFront, digitOf?_digitChar hhigh hmod]
      · rw [numberOf, List.foldl_append, ← numberOf, hvalue]
        simpa [Nat.mul_comm] using Nat.div_add_mod n base
      · simp [hlength]
      · simp
      · intro hzero
        cases ds with
        | nil => exact absurd rfl hne
        | cons d ds =>
          have hquotient : n / base = 0 := hhead (by simpa using hzero)
          rw [Nat.div_eq_zero_iff] at hquotient
          omega

theorem isDigitOf_of_mem_toDigits {base n : Nat} (hlow : 1 < base) (hhigh : base ≤ 16) {c : Char}
    (hc : c ∈ Nat.toDigits base n) : isDigitOf base c = true := by
  obtain ⟨ds, hread, -⟩ := digitsFront_toDigits base hlow hhigh n
  obtain ⟨front, hfront, hdigits⟩ := digitsFront_taken base (Nat.toDigits base n)
  rw [hread, List.append_nil] at hfront
  exact hdigits c (hfront ▸ hc)

theorem readOctet_toDigits {n : Nat} (hn : n < 256) :
    readOctet (Nat.toDigits 10 n) = some (n, []) := by
  obtain ⟨ds, hread, hvalue, hlength, hne, hhead⟩ :=
    digitsFront_toDigits 10 (by decide) (by decide) n
  have hthree : (Nat.toDigits 10 n).length ≤ 3 :=
    (Nat.length_toDigits_le_iff (by decide) (by decide)).mpr (by omega)
  have hoctet : octet? ds = some n := by
    unfold octet?
    rw [hvalue, if_neg]
    rintro (h | h | ⟨hzero, h⟩ | h)
    · exact hne h
    · omega
    · rw [hlength, hhead hzero] at h
      exact h rfl
    · omega
  rw [readOctet_eq, hread, hoctet]
  rfl

theorem readGroup_toDigits {n : Nat} (hn : n < 65536) :
    readGroup (Nat.toDigits 16 n) = some (n, []) := by
  obtain ⟨ds, hread, hvalue, hlength, hne, -⟩ :=
    digitsFront_toDigits 16 (by decide) (by decide) n
  have hfour : (Nat.toDigits 16 n).length ≤ 4 :=
    (Nat.length_toDigits_le_iff (by decide) (by decide)).mpr (by omega)
  have hgroup : group? ds = some n := by
    unfold group?
    rw [hvalue, if_neg (by omega)]
  rw [readGroup_eq, hread, hgroup]
  rfl

theorem readPort_toDigits {n : Nat} (hn : n < 65536) :
    readPort (Nat.toDigits 10 n) = some ⟨n, hn⟩ := by
  obtain ⟨ds, hread, rfl, -, hne, -⟩ := digitsFront_toDigits 10 (by decide) (by decide) n
  unfold readPort
  simp only [hread, hne, ne_eq, not_true_eq_false, or_self, if_false, hn, dite_true]

theorem boundedNumber?_toDigits {limit n : Nat} (hn : n ≤ limit) :
    boundedNumber? limit (Nat.toDigits 10 n) = some n := by
  obtain ⟨ds, hread, rfl, -, hne, -⟩ := digitsFront_toDigits 10 (by decide) (by decide) n
  unfold boundedNumber?
  split
  next rest hplus =>
    have hdigit : isDigitOf 10 '+' = true :=
      isDigitOf_of_mem_toDigits (by decide) (by decide) (hplus ▸ List.mem_cons_self)
    exact absurd hdigit (by decide)
  next =>
    simp only [hread, hne, ne_eq, not_true_eq_false, false_or, if_neg (Nat.not_lt.mpr hn)]

theorem followedBy_eq {α β : Type} {read : List Char → Reading α}
    {next : α → List Char → Reading β} {cs after : List Char} {a : α}
    (h : read cs = some (a, after)) : followedBy read next cs = next a after := by
  unfold followedBy
  rw [h]
  rfl

@[simp] theorem readMark_cons (mark : Char) (cs : List Char) :
    readMark mark (mark :: cs) = some ((), cs) := if_pos rfl

theorem readV4_printed {a b c d : Nat} (ha : a < 256) (hb : b < 256) (hc : c < 256) (hd : d < 256) :
    readV4 (['.'].intercalate ([a, b, c, d].map (Nat.toDigits 10))) = some ([a, b, c, d], []) := by
  have hdot (cs : List Char) : Ends (isDigitOf 10) ('.' :: cs) := ends_cons rfl
  have hoctet {n : Nat} (hn : n < 256) (cs : List Char) :
      readOctet (Nat.toDigits 10 n ++ '.' :: cs) = some (n, '.' :: cs) :=
    within_octet.read_append (readOctet_toDigits hn) (hdot cs)
  have htext : ['.'].intercalate ([a, b, c, d].map (Nat.toDigits 10)) =
      Nat.toDigits 10 a ++ '.' :: (Nat.toDigits 10 b ++ '.' :: (Nat.toDigits 10 c ++
        '.' :: Nat.toDigits 10 d)) := by
    simp [List.intercalate_cons_cons]
  rw [htext, readV4_eq, followedBy_eq (hoctet ha _), followedBy_eq (readMark_cons _ _),
    followedBy_eq (hoctet hb _), followedBy_eq (readMark_cons _ _),
    followedBy_eq (hoctet hc _), followedBy_eq (readMark_cons _ _),
    followedBy_eq (readOctet_toDigits hd)]

theorem foldl_places (base n k acc : Nat) :
    ((List.range k).reverse.map fun i => n / base ^ i % base).foldl
      (fun value digit => value * base + digit) acc = acc * base ^ k + n % base ^ k := by
  induction k generalizing acc with
  | zero => simp [Nat.mod_one]
  | succ k ih =>
    rw [List.range_succ, List.reverse_append, List.reverse_singleton, List.singleton_append,
      List.map_cons, List.foldl_cons, ih, Nat.pow_succ, Nat.mod_mul]
    ring

/-- The digits of a number to a base, with their places, make up the number. -/
theorem ofDigits_places {w base k : Nat} (hfit : base ^ k = 2 ^ w) (bits : BitVec w) :
    IpAddress.ofDigits w base ((List.range k).reverse.map fun i => bits.toNat / base ^ i % base) =
      bits := by
  apply BitVec.eq_of_toNat_eq
  rw [IpAddress.ofDigits, foldl_places, hfit, BitVec.toNat_ofNat, Nat.zero_mul, Nat.zero_add,
    Nat.mod_mod, Nat.mod_eq_of_lt bits.isLt]

namespace IpAddress

theorem ofOctets_octets (bits : BitVec 32) : ofOctets (octets bits) = bits := by
  have hplaces : octets bits =
      (List.range 4).reverse.map fun i => bits.toNat / 256 ^ i % 256 := by
    simp [octets, List.range_succ, Nat.shiftRight_eq_div_pow]
  rw [hplaces]
  exact ofDigits_places (by decide) bits

theorem ofGroups_groups (bits : BitVec 128) : ofGroups (groups bits) = bits := by
  have hplaces : groups bits =
      (List.range 8).reverse.map fun i => bits.toNat / 65536 ^ i % 65536 := by
    simp [groups, List.range_succ, Nat.shiftRight_eq_div_pow]
  rw [hplaces]
  exact ofDigits_places (by decide) bits

theorem readV4_v4Chars (bits : BitVec 32) : readV4 (v4Chars bits) = some (octets bits, []) :=
  readV4_printed (Nat.mod_lt _ (by decide)) (Nat.mod_lt _ (by decide)) (Nat.mod_lt _ (by decide))
    (Nat.mod_lt _ (by decide))

end IpAddress

/-- What stands behind printed groups: nothing, or the mark of zero groups that are left out. -/
inductive Closes : List Char → Prop
  | nothing : Closes []
  | shortened (rest : List Char) : Closes (':' :: ':' :: rest)

/-- The characters of a group and of a version 4 address. -/
def inGroup (c : Char) : Bool := isDigitOf 16 c || c == '.'

theorem inGroup_of_isDigitOf {c : Char} (h : isDigitOf 16 c = true) : inGroup c = true := by
  simp [inGroup, h]

theorem Closes.ends {rest : List Char} (h : Closes rest) : Ends inGroup rest := by
  cases h with
  | nothing => exact ends_nil _
  | shortened rest => exact ends_cons rfl

/-- A printed group is not the first octet of an address: no dot follows its digits. -/
theorem readV4_group {n : Nat} {rest : List Char} (hrest : Ends inGroup rest) :
    readV4 (Nat.toDigits 16 n ++ rest) = none := by
  have hdigits : Ends (isDigitOf 10) rest :=
    hrest.mono fun c hc => inGroup_of_isDigitOf (isDigitOf_mono hc)
  rw [Option.eq_none_iff_forall_ne_some]
  rintro ⟨octets, after⟩ hread
  rw [readV4_eq] at hread
  obtain ⟨⟨a, behind⟩, ha, hread⟩ := Option.bind_eq_some_iff.mp hread
  obtain ⟨⟨u, others⟩, hdot, -⟩ := Option.bind_eq_some_iff.mp hread
  rw [within_octet.append hdigits] at ha
  obtain ⟨⟨value, left⟩, hoctet, heq⟩ := Option.map_eq_some_iff.mp ha
  obtain ⟨front, hfront, -⟩ := within_octet.taken hoctet
  cases heq
  have hbehind : left ++ rest = '.' :: others := readMark_eq_some hdot
  cases left with
  | nil =>
    have hhead : rest.head? = some '.' := by
      rw [List.nil_append] at hbehind
      rw [hbehind]
      rfl
    exact absurd (hrest '.' hhead) (by decide)
  | cons c left =>
    have hc : c = '.' := (List.cons.inj hbehind).1
    have hdigit : isDigitOf 16 c = true := by
      apply isDigitOf_of_mem_toDigits (by decide) (by decide)
      rw [hfront]
      exact List.mem_append_right _ List.mem_cons_self
    exact absurd (hc ▸ hdigit) (by decide)

/-- Groups with a colon before each. -/
def ledGroups (gs : List Nat) : List Char := gs.flatMap fun g => ':' :: Nat.toDigits 16 g

theorem IpAddress.groupChars_cons (g : Nat) (gs : List Nat) :
    groupChars (g :: gs) = Nat.toDigits 16 g ++ ledGroups gs := by
  induction gs generalizing g with
  | nil => simp [groupChars, ledGroups]
  | cons next gs ih =>
    have hnext : groupChars (g :: next :: gs) =
        Nat.toDigits 16 g ++ ':' :: groupChars (next :: gs) := by
      simp [groupChars, List.intercalate_cons_cons]
    rw [hnext, ih]
    rfl

theorem ends_ledGroups {rest : List Char} (hrest : Closes rest) (gs : List Nat) :
    Ends inGroup (ledGroups gs ++ rest) := by
  cases gs with
  | nil => exact hrest.ends
  | cons g gs => exact ends_cons rfl

/-- Without a version 4 address, a group and those after it, or else nothing. -/
theorem groupsReading_of_no_v4 {room : Nat} {first : Bool} {cs : List Char}
    (h : led first readV4 cs = none) :
    groupsReading (room + 1) first cs =
      firstOf (followedBy (led first readGroup) fun group =>
          followedBy (groupsReading room false) fun r cs => some ((group :: r.1, r.2), cs))
        (fun cs => some (([], false), cs)) cs := by
  have hembedded : readEmbedded first cs = none := by
    rw [readEmbedded, followedBy, h, Option.bind_none]
  rw [groupsReading_succ, firstOf]
  split
  next => exact Option.none_or
  next => rw [hembedded, Option.none_or]

theorem groupsReading_closes {rest : List Char} (hrest : Closes rest) (room : Nat) (first : Bool) :
    groupsReading room first rest = some (([], false), rest) := by
  cases room with
  | zero => rfl
  | succ room =>
    have hv4 : led first readV4 rest = none := by cases hrest <;> cases first <;> rfl
    have hgroup : led first readGroup rest = none := by cases hrest <;> cases first <;> rfl
    rw [groupsReading_of_no_v4 hv4, firstOf, followedBy, hgroup, Option.bind_none, Option.none_or]

theorem groupsReading_group {room g : Nat} {first : Bool} {cs rest : List Char}
    {r : (List Nat × Bool) × List Char} (hg : g < 65536)
    (hcs : afterColon first cs = some (Nat.toDigits 16 g ++ rest)) (hrest : Ends inGroup rest)
    (h : groupsReading room false rest = some r) :
    groupsReading (room + 1) first cs = some ((g :: r.1.1, r.1.2), r.2) := by
  have hv4 : led first readV4 cs = none := by
    rw [led, hcs, Option.bind_some, readV4_group hrest]
  have hgroup : led first readGroup cs = some (g, rest) := by
    rw [led, hcs, Option.bind_some]
    exact within_group.read_append (readGroup_toDigits hg)
      (hrest.mono fun c hc => inGroup_of_isDigitOf hc)
  rw [groupsReading_of_no_v4 hv4, firstOf, followedBy_eq hgroup, followedBy_eq h, Option.some_or]

/-- Groups that are led by colons are read up to where they close. -/
theorem groupsReading_ledGroups {gs : List Nat} {room : Nat} {rest : List Char}
    (hgs : ∀ g ∈ gs, g < 65536) (hroom : gs.length ≤ room) (hrest : Closes rest) :
    groupsReading room false (ledGroups gs ++ rest) = some ((gs, false), rest) := by
  induction gs generalizing room with
  | nil => exact groupsReading_closes hrest room false
  | cons g gs ih =>
    obtain ⟨room, rfl⟩ := Nat.exists_eq_add_of_le' (Nat.le_trans (Nat.succ_pos gs.length) hroom)
    have hcs : afterColon false (ledGroups (g :: gs) ++ rest) =
        some (Nat.toDigits 16 g ++ (ledGroups gs ++ rest)) := by
      simp [ledGroups, afterColon]
    rw [List.forall_mem_cons] at hgs
    exact groupsReading_group hgs.1 hcs (ends_ledGroups hrest gs)
      (ih hgs.2 (Nat.le_of_succ_le_succ hroom))

theorem groupsReading_groupChars {gs : List Nat} {room : Nat} {rest : List Char}
    (hgs : ∀ g ∈ gs, g < 65536) (hroom : gs.length ≤ room) (hrest : Closes rest) :
    groupsReading room true (IpAddress.groupChars gs ++ rest) = some ((gs, false), rest) := by
  cases gs with
  | nil => exact groupsReading_closes hrest room true
  | cons g gs =>
    obtain ⟨room, rfl⟩ := Nat.exists_eq_add_of_le' (Nat.le_trans (Nat.succ_pos gs.length) hroom)
    rw [List.forall_mem_cons] at hgs
    rw [IpAddress.groupChars_cons, List.append_assoc]
    exact groupsReading_group hgs.1 rfl (ends_ledGroups hrest gs)
      (groupsReading_ledGroups hgs.2 (Nat.le_of_succ_le_succ hroom) hrest)

theorem readV6_groupChars {gs : List Nat} (hgs : ∀ g ∈ gs, g < 65536) (hlength : gs.length = 8) :
    readV6 (IpAddress.groupChars gs) = some (gs, []) := by
  have hread := groupsReading_groupChars hgs (Nat.le_of_eq hlength) .nothing
  rw [List.append_nil] at hread
  rw [readV6_eq, followedBy_eq hread]
  dsimp only
  rw [if_pos hlength]

/-- The mark stands for the zero groups that are missing at eight. -/
theorem readV6_marked {front back : List Nat} {embedded : Bool} {cs : List Char}
    (hfront : ∀ g ∈ front, g < 65536) (hlength : front.length < 8)
    (hback : groupsReading (7 - front.length) true cs = some ((back, embedded), [])) :
    readV6 (IpAddress.groupChars front ++ ':' :: ':' :: cs) =
      some (front ++ List.replicate (8 - front.length - back.length) 0 ++ back, []) := by
  have hread := groupsReading_groupChars hfront (Nat.le_of_lt hlength) (.shortened cs)
  rw [readV6_eq, followedBy_eq hread]
  dsimp only
  rw [if_neg (Nat.ne_of_lt hlength), if_neg Bool.false_ne_true, followedBy_eq (readMark_cons _ _),
    followedBy_eq (readMark_cons _ _), followedBy_eq hback]

theorem readV6_shortened {front back : List Nat} (hfront : ∀ g ∈ front, g < 65536)
    (hback : ∀ g ∈ back, g < 65536) (hlength : front.length + back.length < 8) :
    readV6 (IpAddress.groupChars front ++ ':' :: ':' :: IpAddress.groupChars back) =
      some (front ++ List.replicate (8 - front.length - back.length) 0 ++ back, []) := by
  have hroom : back.length ≤ 7 - front.length := by omega
  have hread := groupsReading_groupChars hback hroom .nothing
  rw [List.append_nil] at hread
  exact readV6_marked hfront (by omega) hread

namespace IpAddress

theorem length_groups (bits : BitVec 128) : (groups bits).length = 8 := rfl

theorem lt_of_mem_groups {bits : BitVec 128} {g : Nat} (hg : g ∈ groups bits) : g < 65536 := by
  obtain ⟨shift, -, rfl⟩ := List.mem_map.mp hg
  exact Nat.mod_lt _ (by decide)

theorem eq_replicate_of_le_zeroRun {gs : List Nat} {run : Nat} (h : run ≤ zeroRun gs) :
    gs = List.replicate run 0 ++ gs.drop run := by
  induction run generalizing gs with
  | zero => rfl
  | succ run ih =>
    cases gs with
    | nil => exact absurd h (Nat.not_succ_le_zero run)
    | cons g gs =>
      cases g with
      | zero =>
        have hrest : run ≤ zeroRun gs := by simpa [zeroRun] using h
        rw [List.replicate_succ, List.cons_append, List.drop_succ_cons, ← ih hrest]
      | succ g => simp [zeroRun] at h

/-- There is a run of zeros where the longest is found, and it is as long. -/
theorem longestZeroRun_le (gs : List Nat) :
    (longestZeroRun gs).2 ≤ zeroRun (gs.drop (longestZeroRun gs).1) := by
  unfold longestZeroRun
  apply List.foldlRecOn (motive := fun best : Nat × Nat => best.2 ≤ zeroRun (gs.drop best.1))
  · exact Nat.zero_le _
  · intro best hbest start _
    dsimp only
    split
    next => exact Nat.le_refl _
    next => exact hbest

theorem readV6_shortGroupChars {gs : List Nat} (hgs : ∀ g ∈ gs, g < 65536)
    (hlength : gs.length = 8) : readV6 (shortGroupChars gs) = some (gs, []) := by
  have hrun := longestZeroRun_le gs
  unfold shortGroupChars
  generalize longestZeroRun gs = longest at hrun ⊢
  obtain ⟨start, run⟩ := longest
  dsimp only at hrun ⊢
  split
  next hone =>
    have hzeros : gs.drop start = List.replicate run 0 ++ gs.drop (start + run) := by
      rw [← List.drop_drop]
      exact eq_replicate_of_le_zeroRun hrun
    have hparts : gs = gs.take start ++ List.replicate run 0 ++ gs.drop (start + run) := by
      rw [List.append_assoc, ← hzeros, List.take_append_drop]
    have htotal := congrArg List.length hparts
    rw [List.length_append, List.length_append, List.length_replicate, hlength] at htotal
    have hread := readV6_shortened (fun g hg => hgs g (List.mem_of_mem_take hg))
      (fun g hg => hgs g (List.mem_of_mem_drop hg))
      (show (gs.take start).length + (gs.drop (start + run)).length < 8 by omega)
    have hmissing : 8 - (gs.take start).length - (gs.drop (start + run)).length = run := by omega
    rw [hmissing, ← hparts] at hread
    simpa using hread
  next => exact readV6_groupChars hgs hlength

theorem toNat_mapped (inner : BitVec 32) :
    (mapped inner).toNat = 65535 * 2 ^ 32 + inner.toNat := by
  have hinner := inner.isLt
  have hor := Nat.shiftLeft_add_eq_or_of_lt hinner 65535
  rw [Nat.shiftLeft_eq] at hor
  rw [hor, mapped, BitVec.toNat_or, BitVec.toNat_setWidth, Nat.mod_eq_of_lt (by omega)]
  rfl

theorem ofGroups_octets (inner : BitVec 32) :
    ofGroups (List.replicate 5 0 ++ 65535 :: groupsOfOctets (octets inner)) = mapped inner := by
  have hinner := inner.isLt
  apply BitVec.eq_of_toNat_eq
  rw [toNat_mapped, ofGroups, ofDigits, BitVec.toNat_ofNat]
  simp only [octets, groupsOfOctets, List.map, List.replicate, List.cons_append, List.nil_append,
    List.foldl, Nat.shiftRight_eq_div_pow]
  omega

/-- A version 4 address behind the mark and the group of ones. -/
theorem readV6_mapped (inner : BitVec 32) :
    readV6 ("::ffff:".toList ++ v4Chars inner) =
      some (List.replicate 5 0 ++ 65535 :: groupsOfOctets (octets inner), []) := by
  have hv4 : led false readV4 (':' :: v4Chars inner) = some (octets inner, []) :=
    readV4_v4Chars inner
  have hembedded : groupsReading 6 false (':' :: v4Chars inner) =
      some ((groupsOfOctets (octets inner), true), []) := by
    rw [groupsReading_succ, firstOf, if_neg (by decide), readEmbedded, followedBy_eq hv4]
    rfl
  have hback : groupsReading 7 true (Nat.toDigits 16 65535 ++ ':' :: v4Chars inner) =
      some ((65535 :: groupsOfOctets (octets inner), true), []) :=
    groupsReading_group (by decide) rfl (ends_cons rfl) hembedded
  exact readV6_marked (show ∀ g ∈ ([] : List Nat), g < 65536 from nofun) (by decide) hback

theorem readV6_v6Chars (bits : BitVec 128) :
    ∃ gs, readV6 (v6Chars bits) = some (gs, []) ∧ ofGroups gs = bits := by
  unfold v6Chars
  split
  next inner hmapped =>
    rw [mappedV4?_eq_some_iff] at hmapped
    exact ⟨_, readV6_mapped inner, by rw [ofGroups_octets, hmapped]⟩
  next =>
    exact ⟨groups bits, readV6_shortGroupChars (fun g => lt_of_mem_groups) (length_groups bits),
      ofGroups_groups bits⟩

/-- The text of an address is read as that address. -/
theorem ofChars?_toChars (a : IpAddress) : ofChars? a.toChars = some a := by
  cases a with
  | v4 bits =>
    rw [toChars, ofChars?_of_readV4 (readV4_v4Chars bits), ofOctets_octets]
  | v6 bits =>
    obtain ⟨gs, hread, hbits⟩ := readV6_v6Chars bits
    rw [toChars, ofChars?_of_readV6 hread, hbits]

end IpAddress
end DualServer.Net
