import Mathlib.Data.Nat.Digits.Defs
import DualServer.Net.Address.Text

/-! How far a reader of addresses goes. It takes characters of one class only, and a text that
begins outside of the class has no part in what is read before it: `Within` states both, and holds
of a reader if it holds of its parts. -/
namespace DualServer.Net

open DualServer.Text

/-- A text that does not begin with a character of a class. -/
def Ends (p : Char → Bool) (rest : List Char) : Prop := ∀ c, rest.head? = some c → p c = false

theorem ends_nil (p : Char → Bool) : Ends p [] := nofun

theorem ends_cons {p : Char → Bool} {c : Char} {rest : List Char} (h : p c = false) :
    Ends p (c :: rest) := by
  intro d hd
  rw [List.head?_cons] at hd
  cases hd
  exact h

theorem Ends.mono {p q : Char → Bool} {rest : List Char} (h : Ends q rest)
    (hpq : ∀ c, p c = true → q c = true) : Ends p rest := by
  intro c hc
  rw [Bool.eq_false_iff]
  intro hp
  exact absurd (hpq c hp) (by rw [h c hc]; exact Bool.false_ne_true)

/-- One reader after the other. -/
def followedBy {α β : Type} (read : List Char → Reading α) (next : α → List Char → Reading β) :
    List Char → Reading β :=
  fun cs => (read cs).bind fun r => next r.1 r.2

/-- The first of two readers that reads anything. -/
def firstOf {α : Type} (read other : List Char → Reading α) : List Char → Reading α :=
  fun cs => (read cs).or (other cs)

/-- What a reader takes lies within a class of characters, and what follows it, if it begins outside
of the class, is left as it is. -/
structure Within {α : Type} (p : Char → Bool) (read : List Char → Reading α) : Prop where
  taken : ∀ {cs a after}, read cs = some (a, after) →
    ∃ front, cs = front ++ after ∧ ∀ c ∈ front, p c = true
  append : ∀ {rest}, Ends p rest → ∀ cs,
    read (cs ++ rest) = (read cs).map fun (a, after) => (a, after ++ rest)

namespace Within

variable {α β : Type} {p q : Char → Bool} {read : List Char → Reading α}

theorem mono (h : Within p read) (hpq : ∀ c, p c = true → q c = true) : Within q read where
  taken := by
    intro cs a after hread
    obtain ⟨front, hfront, hp⟩ := h.taken hread
    exact ⟨front, hfront, fun c hc => hpq c (hp c hc)⟩
  append := fun hrest cs => h.append (hrest.mono hpq) cs

theorem followedBy {next : α → List Char → Reading β} (h : Within p read)
    (hnext : ∀ a, Within p (next a)) : Within p (followedBy read next) where
  taken := by
    intro cs b after hread
    obtain ⟨⟨a, between⟩, ha, hb⟩ := Option.bind_eq_some_iff.mp hread
    obtain ⟨front, rfl, hfront⟩ := h.taken ha
    obtain ⟨back, rfl, hback⟩ := (hnext a).taken hb
    refine ⟨front ++ back, by rw [List.append_assoc], fun c hc => ?_⟩
    exact (List.mem_append.mp hc).elim (hfront c) (hback c)
  append := by
    intro rest hrest cs
    unfold Net.followedBy
    rw [h.append hrest]
    cases read cs with
    | none => rfl
    | some r => exact (hnext r.1).append hrest r.2

theorem firstOf {other : List Char → Reading α} (h : Within p read) (hother : Within p other) :
    Within p (firstOf read other) where
  taken := by
    intro cs a after hread
    obtain hread | ⟨-, hread⟩ := Option.or_eq_some_iff.mp hread
    · exact h.taken hread
    · exact hother.taken hread
  append := by
    intro rest hrest cs
    unfold Net.firstOf
    rw [h.append hrest, hother.append hrest]
    cases read cs <;> rfl

theorem none : Within p fun _ => (none : Reading α) where
  taken := nofun
  append := fun _ _ => rfl

theorem pure (a : α) : Within p fun cs => some (a, cs) where
  taken := by
    intro cs b after hread
    cases hread
    exact ⟨[], rfl, nofun⟩
  append := fun _ _ => rfl

/-- All of a text is read, and the text that follows it is left. -/
theorem read_append {cs rest : List Char} {a : α} (h : Within p read)
    (hread : read cs = some (a, [])) (hrest : Ends p rest) :
    read (cs ++ rest) = some (a, rest) := by
  rw [h.append hrest, hread]
  rfl

theorem all {cs : List Char} {a : α} (h : Within p read) (hread : read cs = some (a, [])) :
    ∀ c ∈ cs, p c = true := by
  obtain ⟨front, hfront, hp⟩ := h.taken hread
  rw [List.append_nil] at hfront
  exact hfront ▸ hp

end Within

def isDigitOf (base : Nat) (c : Char) : Bool := (digitOf? base c).isSome

theorem digitsFront_append {base : Nat} {rest : List Char} (h : Ends (isDigitOf base) rest)
    (cs : List Char) :
    digitsFront base (cs ++ rest) =
      ((digitsFront base cs).1, (digitsFront base cs).2 ++ rest) := by
  induction cs with
  | nil =>
    cases rest with
    | nil => rfl
    | cons c rest =>
      have hc : digitOf? base c = none := by simpa [isDigitOf] using h c rfl
      simp [digitsFront, hc]
  | cons c cs ih =>
    rw [List.cons_append]
    cases hc : digitOf? base c with
    | none => simp [digitsFront, hc]
    | some d => simp [digitsFront, hc, ih]

theorem digitsFront_taken (base : Nat) (cs : List Char) :
    ∃ front, cs = front ++ (digitsFront base cs).2 ∧ ∀ c ∈ front, isDigitOf base c = true := by
  induction cs with
  | nil => exact ⟨[], rfl, nofun⟩
  | cons c cs ih =>
    cases hc : digitOf? base c with
    | none => exact ⟨[], by simp [digitsFront, hc], nofun⟩
    | some d =>
      obtain ⟨front, hfront, hdigits⟩ := ih
      refine ⟨c :: front, by simpa [digitsFront, hc] using hfront, ?_⟩
      intro e he
      obtain rfl | he := List.mem_cons.mp he
      · exact Option.isSome_iff_exists.mpr ⟨d, hc⟩
      · exact hdigits e he

theorem within_digits {α : Type} (base : Nat) (value : List Nat → Option α) :
    Within (isDigitOf base) fun cs =>
      (value (digitsFront base cs).1).map fun a => (a, (digitsFront base cs).2) where
  taken := by
    intro cs a after hread
    obtain ⟨b, -, hb⟩ := Option.map_eq_some_iff.mp hread
    cases hb
    exact digitsFront_taken base cs
  append := by
    intro rest hrest cs
    rw [digitsFront_append hrest, Option.map_map]
    rfl

/-- The octet that is written with these digits. -/
def octet? (ds : List Nat) : Option Nat :=
  if ds.length = 0 ∨ 3 < ds.length ∨ (ds.head? = some 0 ∧ ds.length ≠ 1) ∨ 255 < numberOf 10 ds
  then none else some (numberOf 10 ds)

/-- The group that is written with these digits. -/
def group? (ds : List Nat) : Option Nat :=
  if ds.length = 0 ∨ 4 < ds.length then none else some (numberOf 16 ds)

theorem readOctet_eq (cs : List Char) :
    readOctet cs = (octet? (digitsFront 10 cs).1).map fun n => (n, (digitsFront 10 cs).2) := by
  unfold octet?
  rw [apply_ite (Option.map _)]
  rfl

theorem readGroup_eq (cs : List Char) :
    readGroup cs = (group? (digitsFront 16 cs).1).map fun n => (n, (digitsFront 16 cs).2) := by
  unfold group?
  rw [apply_ite (Option.map _)]
  rfl

theorem within_octet : Within (isDigitOf 10) readOctet := by
  rw [funext readOctet_eq]
  exact within_digits 10 octet?

theorem within_group : Within (isDigitOf 16) readGroup := by
  rw [funext readGroup_eq]
  exact within_digits 16 group?

theorem within_mark {p : Char → Bool} {mark : Char} (hmark : p mark = true) :
    Within p (readMark mark) where
  taken := by
    intro cs a after hread
    cases cs with
    | nil => cases hread
    | cons c cs =>
      obtain ⟨rfl, heq⟩ := Option.ite_none_right_eq_some.mp hread
      cases heq
      exact ⟨[c], rfl, by simpa using hmark⟩
  append := by
    intro rest hrest cs
    cases cs with
    | nil =>
      cases rest with
      | nil => rfl
      | cons c rest =>
        have hc : c ≠ mark := by
          rintro rfl
          exact absurd (hrest c rfl) (by rw [hmark]; decide)
        simp [readMark, hc]
    | cons c cs => by_cases hc : c = mark <;> simp [readMark, hc]

/-- The characters of a version 4 address. -/
def inV4 (c : Char) : Bool := isDigitOf 10 c || c == '.'

/-- The characters of a version 6 address. -/
def inV6 (c : Char) : Bool := isDigitOf 16 c || c == '.' || c == ':'

theorem isDigitOf_mono {c : Char} (h : isDigitOf 10 c = true) : isDigitOf 16 c = true := by
  obtain ⟨d, hd⟩ := Option.isSome_iff_exists.mp h
  obtain ⟨hvalue, hlt⟩ := Option.filter_eq_some_iff.mp hd
  refine Option.isSome_iff_exists.mpr ⟨d, Option.filter_eq_some_iff.mpr ⟨hvalue, ?_⟩⟩
  simp only [decide_eq_true_eq] at hlt ⊢
  omega

theorem inV6_of_inV4 (c : Char) (h : inV4 c = true) : inV6 c = true := by
  unfold inV4 inV6 at *
  rw [Bool.or_eq_true] at h
  obtain h | h := h
  · simp [isDigitOf_mono h]
  · simp [h]

theorem readV4_eq : readV4 =
    followedBy readOctet fun a => followedBy (readMark '.') fun _ =>
    followedBy readOctet fun b => followedBy (readMark '.') fun _ =>
    followedBy readOctet fun c => followedBy (readMark '.') fun _ =>
    followedBy readOctet fun d cs => some ([a, b, c, d], cs) := rfl

theorem within_v4 : Within inV4 readV4 := by
  have hoctet : Within inV4 readOctet := within_octet.mono fun c hc => by simp [inV4, hc]
  have hmark : Within inV4 (readMark '.') := within_mark rfl
  rw [readV4_eq]
  exact hoctet.followedBy fun _ => hmark.followedBy fun _ =>
    hoctet.followedBy fun _ => hmark.followedBy fun _ =>
    hoctet.followedBy fun _ => hmark.followedBy fun _ => hoctet.followedBy fun _ => .pure _

theorem readV4_eq_some {cs after : List Char} {octets : List Nat}
    (h : readV4 cs = some (octets, after)) : ∃ a b c d, octets = [a, b, c, d] := by
  simp only [readV4_eq, followedBy, Option.bind_eq_some_iff, Option.some.injEq, Prod.mk.injEq] at h
  obtain ⟨a, -, -, -, b, -, -, -, c, -, -, -, d, -, rfl, -⟩ := h
  exact ⟨a.1, b.1, c.1, d.1, rfl⟩

/-- What stands before an item, and the item. -/
def led {α : Type} (first : Bool) (read : List Char → Reading α) : List Char → Reading α :=
  fun cs => (afterColon first cs).bind read

theorem Within.led {α : Type} {read : List Char → Reading α} (h : Within inV6 read)
    (first : Bool) : Within inV6 (led first read) := by
  cases first with
  | true => exact h
  | false =>
    have hcolon : Net.led false read = Net.followedBy (readMark ':') fun _ => read := by
      funext cs
      exact Option.bind_map ..
    rw [hcolon]
    exact (within_mark rfl).followedBy fun _ => h

/-- The two groups that the octets of a version 4 address make up. -/
def groupsOfOctets : List Nat → List Nat
  | [a, b, c, d] => [a * 256 + b, c * 256 + d]
  | _ => []

/-- A version 4 address in place of the last groups. -/
def readEmbedded (first : Bool) : List Char → Reading (List Nat × Bool) :=
  followedBy (led first readV4) fun octets cs => some ((groupsOfOctets octets, true), cs)

/-- The groups, with the flag that they end in a version 4 address. -/
def groupsReading (room : Nat) (first : Bool) (cs : List Char) : Reading (List Nat × Bool) :=
  match readGroups room first cs with
  | (groups, embedded, after) => some ((groups, embedded), after)

/-- A version 4 address while there is room for two groups, or else a group and those after it, or
else nothing. -/
theorem groupsReading_succ (room : Nat) (first : Bool) :
    groupsReading (room + 1) first =
      firstOf (if room = 0 then fun _ => none else readEmbedded first)
        (firstOf (followedBy (led first readGroup) fun group =>
            followedBy (groupsReading room false) fun r cs => some ((group :: r.1, r.2), cs))
          fun cs => some (([], false), cs)) := by
  funext cs
  rw [groupsReading, readGroups]
  unfold firstOf readEmbedded followedBy led
  by_cases hroom : room = 0
  · simp only [hroom, if_true, Option.none_or]
    cases (afterColon first cs).bind readGroup <;> rfl
  · simp only [hroom, if_false]
    cases hv4 : (afterColon first cs).bind readV4 with
    | none => cases (afterColon first cs).bind readGroup <;> rfl
    | some r =>
      obtain ⟨cs', -, hr⟩ := Option.bind_eq_some_iff.mp hv4
      obtain ⟨a, b, c, d, hoctets⟩ := readV4_eq_some (show readV4 cs' = some (r.1, r.2) from hr)
      rw [show r = ([a, b, c, d], r.2) from Prod.ext hoctets rfl]
      rfl

theorem within_groups (room : Nat) (first : Bool) : Within inV6 (groupsReading room first) := by
  induction room generalizing first with
  | zero => exact .pure ([], false)
  | succ room ih =>
    have hembedded : Within inV6 (readEmbedded first) :=
      ((within_v4.mono inV6_of_inV4).led first).followedBy fun _ => .pure _
    have hgroup : Within inV6 (led first readGroup) :=
      (within_group.mono fun c hc => by simp [inV6, hc]).led first
    rw [groupsReading_succ]
    refine .firstOf ?_ (.firstOf (hgroup.followedBy fun _ => (ih false).followedBy fun _ => .pure _)
      (.pure _))
    by_cases hroom : room = 0
    · rw [if_pos hroom]
      exact .none
    · rw [if_neg hroom]
      exact hembedded

theorem readV6_eq : readV6 =
    followedBy (groupsReading 8 true) fun (front, embedded) =>
      if front.length = 8 then fun cs => some (front, cs)
      else if embedded then fun _ => none
      else followedBy (readMark ':') fun _ => followedBy (readMark ':') fun _ =>
        followedBy (groupsReading (7 - front.length) true) fun (back, _) cs =>
          some (front ++ List.replicate (8 - front.length - back.length) 0 ++ back, cs) := by
  funext cs
  unfold readV6 followedBy groupsReading
  obtain ⟨front, embedded, rest⟩ := readGroups 8 true cs
  simp only [Option.bind_some]
  split
  · rfl
  · split
    · rfl
    · match rest with
      | [] => rfl
      | [c] => by_cases hc : c = ':' <;> simp [readMark, hc]
      | c :: d :: rest =>
        by_cases hc : c = ':'
        · by_cases hd : d = ':'
          · subst hc hd
            rfl
          · simp [readMark, hc, hd]
        · simp [readMark, hc]

theorem within_v6 : Within inV6 readV6 := by
  have hcolon : Within inV6 (readMark ':') := within_mark rfl
  rw [readV6_eq]
  refine (within_groups 8 true).followedBy fun (front, embedded) => ?_
  dsimp only
  split
  · exact .pure front
  · split
    · exact .none
    · exact hcolon.followedBy fun _ => hcolon.followedBy fun _ =>
        (within_groups _ true).followedBy fun _ => .pure _

theorem readMark_eq_some {mark : Char} {cs after : List Char} {u : Unit}
    (h : readMark mark cs = some (u, after)) : cs = mark :: after := by
  cases cs with
  | nil => cases h
  | cons c cs =>
    obtain ⟨rfl, heq⟩ := Option.ite_none_right_eq_some.mp h
    cases heq
    rfl

theorem head?_of_led {α : Type} {read : List Char → Reading α} {cs : List Char} {r : α × List Char}
    (h : led false read cs = some r) : cs.head? = some ':' := by
  obtain ⟨after, hafter, -⟩ := Option.bind_eq_some_iff.mp h
  obtain ⟨⟨u, rest⟩, hmark, -⟩ := Option.map_eq_some_iff.mp hafter
  rw [readMark_eq_some hmark]
  rfl

/-- Groups that are not the first begin with a colon. -/
theorem head?_of_groupsReading {room : Nat} {cs after : List Char} {groups : List Nat}
    {embedded : Bool} (h : groupsReading room false cs = some ((groups, embedded), after))
    (hne : groups ≠ []) : cs.head? = some ':' := by
  cases room with
  | zero =>
    cases h
    exact absurd rfl hne
  | succ room =>
    rw [groupsReading_succ] at h
    obtain h | ⟨-, h⟩ := Option.or_eq_some_iff.mp h
    · by_cases hroom : room = 0
      · rw [if_pos hroom] at h
        cases h
      · rw [if_neg hroom] at h
        obtain ⟨r, hr, -⟩ := Option.bind_eq_some_iff.mp h
        exact head?_of_led hr
    · obtain h | ⟨-, h⟩ := Option.or_eq_some_iff.mp h
      · obtain ⟨r, hr, -⟩ := Option.bind_eq_some_iff.mp h
        exact head?_of_led hr
      · cases h
        exact absurd rfl hne

theorem length_of_readEmbedded {first embedded : Bool} {cs after : List Char} {groups : List Nat}
    (h : readEmbedded first cs = some ((groups, embedded), after)) : groups.length = 2 := by
  obtain ⟨r, hr, heq⟩ := Option.bind_eq_some_iff.mp h
  obtain ⟨cs', -, hv4⟩ := Option.bind_eq_some_iff.mp hr
  obtain ⟨a, b, c, d, hoctets⟩ := readV4_eq_some (show readV4 cs' = some (r.1, r.2) from hv4)
  rw [hoctets] at heq
  cases heq
  rfl

/-- More than two groups have a colon behind the first of them. -/
theorem colon_mem_of_groupsReading {room : Nat} {cs after : List Char} {groups : List Nat}
    {embedded : Bool} (h : groupsReading (room + 2) true cs = some ((groups, embedded), after))
    (hlength : 2 < groups.length) : ':' ∈ cs := by
  rw [groupsReading_succ, if_neg (Nat.succ_ne_zero room)] at h
  obtain h | ⟨-, h⟩ := Option.or_eq_some_iff.mp h
  · have htwo := length_of_readEmbedded h
    omega
  · obtain h | ⟨-, h⟩ := Option.or_eq_some_iff.mp h
    · obtain ⟨⟨group, between⟩, hgroup, h⟩ := Option.bind_eq_some_iff.mp h
      obtain ⟨⟨⟨others, flag⟩, rest⟩, hothers, heq⟩ := Option.bind_eq_some_iff.mp h
      cases heq
      have hhead := head?_of_groupsReading hothers fun hnil => by
        simp [hnil] at hlength
      obtain ⟨front, rfl, -⟩ := within_group.taken hgroup
      exact List.mem_append_right _ (List.mem_of_mem_head? hhead)
    · cases h
      exact absurd hlength (by decide)

theorem colon_mem_of_readV6 {cs : List Char} {groups : List Nat}
    (h : readV6 cs = some (groups, [])) : ':' ∈ cs := by
  rw [readV6_eq] at h
  obtain ⟨⟨⟨front, embedded⟩, rest⟩, hfront, h⟩ := Option.bind_eq_some_iff.mp h
  dsimp only at h
  split at h
  next hlength => exact colon_mem_of_groupsReading hfront (by omega)
  next =>
    split at h
    next => cases h
    next =>
      obtain ⟨⟨u, after⟩, hmark, -⟩ := Option.bind_eq_some_iff.mp h
      obtain ⟨front, rfl, -⟩ := (within_groups 8 true).taken hfront
      rw [readMark_eq_some hmark]
      exact List.mem_append_right _ List.mem_cons_self

namespace IpAddress

theorem ofChars?_of_readV4 {cs : List Char} {octets : List Nat}
    (h : readV4 cs = some (octets, [])) : ofChars? cs = some (.v4 (ofOctets octets)) := by
  unfold ofChars?
  rw [h]

/-- A version 6 address has a colon in it, and so it is not read as one of version 4. -/
theorem ofChars?_of_readV6 {cs : List Char} {groups : List Nat}
    (h : readV6 cs = some (groups, [])) : ofChars? cs = some (.v6 (ofGroups groups)) := by
  unfold ofChars?
  split
  next octets hv4 =>
    have hcolon := within_v4.all hv4 ':' (colon_mem_of_readV6 h)
    exact absurd hcolon (by decide)
  next =>
    rw [h]
    rfl

theorem ofChars?_eq_some {cs : List Char} {a : IpAddress} (h : ofChars? cs = some a) :
    (∃ octets, readV4 cs = some (octets, []) ∧ a = .v4 (ofOctets octets)) ∨
      ∃ groups, readV6 cs = some (groups, []) ∧ a = .v6 (ofGroups groups) := by
  unfold ofChars? at h
  split at h
  next octets hv4 => exact .inl ⟨octets, hv4, (Option.some.inj h).symm⟩
  next =>
    obtain ⟨groups, hgroups, rfl⟩ := Option.map_eq_some_iff.mp h
    refine .inr ⟨groups, ?_, rfl⟩
    unfold complete at hgroups
    split at hgroups
    next hv6 =>
      cases hgroups
      exact hv6
    next => cases hgroups

theorem all_of_ofChars? {cs : List Char} {a : IpAddress} (h : ofChars? cs = some a) :
    ∀ c ∈ cs, inV6 c = true := by
  obtain ⟨octets, hv4, -⟩ | ⟨groups, hv6, -⟩ := ofChars?_eq_some h
  · exact fun c hc => inV6_of_inV4 c (within_v4.all hv4 c hc)
  · exact within_v6.all hv6

end IpAddress
end DualServer.Net
