import DualServer.Net.IpRange

/-! Which addresses a range holds. The mask of a prefix keeps its leading bits, so two addresses are
the same under it if they begin alike. A peer that maps a version 4 address is compared as that
address, and as no other. -/
namespace DualServer.Net

/-- Two words that begin with the same bits, the highest first. -/
def Agree {w : Nat} (length : Nat) (a b : BitVec w) : Prop :=
  ∀ k < length, a.getMsbD k = b.getMsbD k

section
variable {w length shorter : Nat} {a b c : BitVec w}

theorem Agree.refl (length : Nat) (a : BitVec w) : Agree length a a := fun _ _ => rfl

theorem Agree.symm (h : Agree length a b) : Agree length b a := fun k hk => (h k hk).symm

theorem Agree.trans (h : Agree length a b) (h' : Agree length b c) : Agree length a c :=
  fun k hk => (h k hk).trans (h' k hk)

theorem Agree.shorten (h : Agree length a b) (hle : shorter ≤ length) : Agree shorter a b :=
  fun k hk => h k (Nat.lt_of_lt_of_le hk hle)

theorem agree_zero (a b : BitVec w) : Agree 0 a b := fun _ hk => absurd hk (Nat.not_lt_zero _)

theorem agree_width_iff : Agree w a b ↔ a = b := by
  constructor
  · intro h
    exact BitVec.eq_of_getMsbD_eq h
  · rintro rfl
    exact .refl w a

theorem IpRange.getMsbD_mask (hlength : length ≤ w) (k : Nat) :
    (IpRange.mask w length).getMsbD k = decide (k < length) := by
  unfold IpRange.mask
  split
  next hzero => simp [hzero]
  next =>
    rw [BitVec.getMsbD_shiftLeft, BitVec.getMsbD_allOnes]
    congr 1
    apply propext
    omega

theorem IpRange.and_mask_eq_iff (hlength : length ≤ w) :
    a &&& mask w length = b &&& mask w length ↔ Agree length a b := by
  constructor
  · intro h k hk
    have hbit := congrArg (BitVec.getMsbD · k) h
    simpa [getMsbD_mask hlength, hk] using hbit
  · intro h
    apply BitVec.eq_of_getMsbD_eq
    intro k _
    rw [BitVec.getMsbD_and, BitVec.getMsbD_and, getMsbD_mask hlength]
    by_cases hk : k < length
    · rw [h k hk]
    · simp [hk]

/-- The shift and the subtraction behind a mask are defined for just the prefixes of the width. -/
theorem IpRange.maskChecked?_eq :
    maskChecked? w length = if length ≤ w then some (mask w length) else none := by
  unfold maskChecked? mask
  by_cases hzero : length = 0
  · simp [hzero]
  by_cases hlength : length ≤ w
  · have hshift : ¬ w ≤ w - length := by omega
    rw [if_neg hzero, if_neg (Nat.not_lt.mpr hlength), if_neg hshift, if_pos hlength, if_neg hzero]
  · rw [if_neg hzero, if_pos (Nat.lt_of_not_le hlength), if_neg hlength]

end

namespace IpAddress

theorem mapped_ushiftRight (inner : BitVec 32) : mapped inner >>> 32 = 0xFFFF#128 := by
  have hinner : inner.setWidth 128 >>> 32 = 0#128 := by
    ext k hk
    simp
  rw [mapped, BitVec.ushiftRight_or_distrib, hinner]
  decide

theorem mappedV4?_mapped (inner : BitVec 32) : mappedV4? (mapped inner) = some inner := by
  have hlow : (mapped inner).setWidth 32 = inner := by
    ext k hk
    simp [mapped]
  rw [mappedV4?, if_pos (mapped_ushiftRight inner), hlow]

theorem mappedV4?_eq_some_iff {bits : BitVec 128} {inner : BitVec 32} :
    mappedV4? bits = some inner ↔ bits = mapped inner := by
  constructor
  · intro h
    unfold mappedV4? at h
    split at h
    next hmark =>
      cases h
      rw [mapped, ← hmark]
      ext k hk
      by_cases hlow : k < 32
      · simp [hlow, hk]
      · have hback : 32 + (k - 32) = k := by omega
        simp [hlow, hback, BitVec.getLsbD_eq_getElem hk]
    next => cases h
  · rintro rfl
    exact mappedV4?_mapped inner

/-- The address that stands for a peer: of a mapped one, the version 4 address inside. -/
inductive ComparedAs : IpAddress → IpAddress → Prop
  | version4 (bits : BitVec 32) : ComparedAs (v4 bits) (v4 bits)
  | mapped (inner : BitVec 32) : ComparedAs (v6 (mapped inner)) (v4 inner)
  | version6 {bits : BitVec 128} (h : ∀ inner, bits ≠ IpAddress.mapped inner) :
    ComparedAs (v6 bits) (v6 bits)

theorem canonical_mapped (inner : BitVec 32) : (v6 (mapped inner)).canonical = v4 inner := by
  rw [canonical, mappedV4?_mapped]

theorem canonical_of_unmapped {bits : BitVec 128} (h : ∀ inner, bits ≠ mapped inner) :
    (v6 bits).canonical = v6 bits := by
  have hnone : mappedV4? bits = none :=
    Option.eq_none_iff_forall_ne_some.mpr fun inner hsome =>
      h inner (mappedV4?_eq_some_iff.mp hsome)
  rw [canonical, hnone]

theorem comparedAs_canonical (peer : IpAddress) : ComparedAs peer peer.canonical := by
  cases peer with
  | v4 bits => exact .version4 bits
  | v6 bits =>
    by_cases h : ∃ inner, bits = mapped inner
    · obtain ⟨inner, rfl⟩ := h
      rw [canonical_mapped]
      exact .mapped inner
    · have hunmapped : ∀ inner, bits ≠ mapped inner := not_exists.mp h
      rw [canonical_of_unmapped hunmapped]
      exact .version6 hunmapped

theorem comparedAs_iff {peer address : IpAddress} :
    ComparedAs peer address ↔ peer.canonical = address := by
  constructor
  · intro h
    cases h with
    | version4 bits => rfl
    | mapped inner => exact canonical_mapped inner
    | version6 h => exact canonical_of_unmapped h
  · rintro rfl
    exact comparedAs_canonical peer

/-- Addresses of one version that begin with the same bits. -/
inductive SharePrefix (length : Nat) : IpAddress → IpAddress → Prop
  | version4 {a b : BitVec 32} (h : Agree length a b) : SharePrefix length (v4 a) (v4 b)
  | version6 {a b : BitVec 128} (h : Agree length a b) : SharePrefix length (v6 a) (v6 b)

section
variable {length shorter : Nat} {a b c : IpAddress}

theorem SharePrefix.refl (length : Nat) (a : IpAddress) : SharePrefix length a a := by
  cases a with
  | v4 bits => exact .version4 (.refl length bits)
  | v6 bits => exact .version6 (.refl length bits)

theorem SharePrefix.symm (h : SharePrefix length a b) : SharePrefix length b a := by
  cases h with
  | version4 h => exact .version4 h.symm
  | version6 h => exact .version6 h.symm

theorem SharePrefix.trans (h : SharePrefix length a b) (h' : SharePrefix length b c) :
    SharePrefix length a c := by
  cases h with
  | version4 h => cases h' with | version4 h' => exact .version4 (h.trans h')
  | version6 h => cases h' with | version6 h' => exact .version6 (h.trans h')

theorem SharePrefix.shorten (h : SharePrefix length a b) (hle : shorter ≤ length) :
    SharePrefix shorter a b := by
  cases h with
  | version4 h => exact .version4 (h.shorten hle)
  | version6 h => exact .version6 (h.shorten hle)

theorem sharePrefix_width_iff : SharePrefix a.width a b ↔ b = a := by
  constructor
  · intro h
    cases h with
    | version4 h => rw [agree_width_iff.mp h]
    | version6 h => rw [agree_width_iff.mp h]
  · rintro rfl
    exact .refl _ _

theorem sharePrefix_zero_iff : SharePrefix 0 a b ↔ b.width = a.width := by
  constructor
  · intro h
    cases h <;> rfl
  · intro h
    match a, b with
    | v4 a, v4 b => exact .version4 (agree_zero a b)
    | v6 a, v6 b => exact .version6 (agree_zero a b)

end
end IpAddress

namespace IpRange
open IpAddress

section
variable {range : IpRange} {peer : IpAddress}

theorem containsChecked?_eq (range : IpRange) (peer : IpAddress) :
    range.containsChecked? peer = some (range.contains peer) := by
  obtain ⟨network, length, hlength⟩ := range
  unfold containsChecked? contains
  cases network with
  | v4 network => cases peer.canonical <;> simp [maskChecked?_eq, show length ≤ 32 from hlength]
  | v6 network => cases peer.canonical <;> simp [maskChecked?_eq, show length ≤ 128 from hlength]

theorem contains_iff_canonical :
    range.contains peer = true ↔
      SharePrefix range.prefixLength range.network peer.canonical := by
  obtain ⟨network, length, hlength⟩ := range
  unfold contains
  cases network with
  | v4 network =>
    cases peer.canonical with
    | v4 address =>
      have hsame := and_mask_eq_iff (a := network) (b := address) (show length ≤ 32 from hlength)
      exact beq_iff_eq.trans (hsame.trans ⟨.version4, fun | .version4 h => h⟩)
    | v6 address => exact ⟨nofun, nofun⟩
  | v6 network =>
    cases peer.canonical with
    | v4 address => exact ⟨nofun, nofun⟩
    | v6 address =>
      have hsame := and_mask_eq_iff (a := network) (b := address) (show length ≤ 128 from hlength)
      exact beq_iff_eq.trans (hsame.trans ⟨.version6, fun | .version6 h => h⟩)

theorem contains_iff_compared :
    range.contains peer = true ↔
      ∃ address, ComparedAs peer address ∧
        SharePrefix range.prefixLength range.network address := by
  rw [contains_iff_canonical]
  simp [comparedAs_iff]

theorem contains_congr {other : IpRange} (hlength : other.prefixLength = range.prefixLength)
    (hnetwork : SharePrefix range.prefixLength range.network other.network) :
    other.contains peer = range.contains peer := by
  rw [Bool.eq_iff_iff, contains_iff_canonical, contains_iff_canonical, hlength]
  exact ⟨hnetwork.trans, hnetwork.symm.trans⟩

theorem contains_mapped (range : IpRange) (inner : BitVec 32) :
    range.contains (.v6 (mapped inner)) = range.contains (.v4 inner) := by
  unfold contains
  rw [canonical_mapped]
  rfl

end

/-- Whether a range holds a peer is found out without a shift by the whole width or a subtraction
below zero, and it holds the peer if the address that stands for it begins with the same bits as the
network, as many as the prefix is long. -/
theorem contains_iff_leading_bits (range : IpRange) (peer : IpAddress) :
    range.containsChecked? peer = some (range.contains peer) ∧
    (range.contains peer = true ↔
      ∃ address, ComparedAs peer address ∧
        SharePrefix range.prefixLength range.network address) ∧
    (range.prefixLength = range.network.width →
      (range.contains peer = true ↔ ComparedAs peer range.network)) ∧
    (range.prefixLength = 0 →
      (range.contains peer = true ↔
        ∃ address, ComparedAs peer address ∧ address.width = range.network.width)) ∧
    (∀ inner, range.contains (.v6 (mapped inner)) = range.contains (.v4 inner)) ∧
    (∀ other : IpRange, other.prefixLength = range.prefixLength →
      SharePrefix range.prefixLength range.network other.network →
      other.contains peer = range.contains peer) ∧
    (∀ shorter : IpRange, shorter.network = range.network →
      shorter.prefixLength ≤ range.prefixLength →
      range.contains peer = true → shorter.contains peer = true) := by
  refine ⟨containsChecked?_eq range peer, contains_iff_compared, ?_, ?_, contains_mapped range,
    fun _ => contains_congr, ?_⟩
  · intro hfull
    rw [contains_iff_canonical, hfull, sharePrefix_width_iff, comparedAs_iff]
  · intro hnone
    simp only [contains_iff_compared, hnone, sharePrefix_zero_iff]
  · intro shorter hnetwork hshorter hcontains
    rw [contains_iff_canonical] at hcontains ⊢
    rw [hnetwork]
    exact hcontains.shorten hshorter

end IpRange
end DualServer.Net
