import DualServer.Proofs.Config.Enforcement
import DualServer.Proofs.Net.Membership

/-! Whether a trusted range lets anyone in. The network of a range is taken as it is written, and a
peer that maps a version 4 address as what it maps: so a range holds its own network and all that
begins like it, but for mapped addresses, and a mapped address written as a single one trusts
nobody, although the check accepts it. -/
namespace DualServer.Net

namespace IpAddress

def IsMapped (a : IpAddress) : Prop := ∃ inner, a = v6 (mapped inner)

theorem isMapped_v6_iff {bits : BitVec 128} :
    (v6 bits).IsMapped ↔ ∃ inner, bits = mapped inner := by
  simp [IsMapped]

theorem canonical_of_not_isMapped {a : IpAddress} (h : ¬ a.IsMapped) : a.canonical = a := by
  cases a with
  | v4 bits => rfl
  | v6 bits =>
    exact canonical_of_unmapped fun inner hbits => h (isMapped_v6_iff.mpr ⟨inner, hbits⟩)

/-- What begins with the first 96 bits of a mapped address is a mapped address. -/
theorem exists_mapped_of_agree {length : Nat} (hlength : 96 ≤ length) {inner : BitVec 32}
    {bits : BitVec 128} (h : Agree length (mapped inner) bits) : ∃ other, bits = mapped other := by
  have hmark : bits >>> 32 = 0xFFFF#128 := by
    rw [← mapped_ushiftRight inner]
    apply BitVec.eq_of_getMsbD_eq
    intro k hk
    rw [BitVec.getMsbD_ushiftRight, BitVec.getMsbD_ushiftRight]
    by_cases hshift : k < 32
    · simp [hshift]
    · rw [h (k - 32) (by omega)]
  refine ⟨bits.setWidth 32, mappedV4?_eq_some_iff.mp ?_⟩
  rw [mappedV4?, if_pos hmark]

theorem not_isMapped_canonical (a : IpAddress) : ¬ a.canonical.IsMapped := by
  have hcompared := comparedAs_canonical a
  rintro ⟨inner, hmapped⟩
  rw [hmapped] at hcompared
  cases hcompared with
  | version6 h => exact h inner rfl

/-- The word that differs in the bit before the last 32 alone. -/
def neighbour (bits : BitVec 128) : BitVec 128 := bits ^^^ 1#128 <<< 32

theorem agree_neighbour {length : Nat} (hlength : length < 96) (bits : BitVec 128) :
    Agree length bits (neighbour bits) := by
  intro k hk
  have hbefore : (1#128 <<< 32).getMsbD k = false := by
    rw [BitVec.getMsbD_shiftLeft, BitVec.getMsbD_one]
    simp
    omega
  rw [neighbour, BitVec.getMsbD_xor, hbefore, Bool.xor_false]

theorem not_isMapped_neighbour (inner : BitVec 32) :
    ¬ (v6 (neighbour (mapped inner))).IsMapped := by
  have hmark : ∀ inner, (mapped inner).getLsbD 32 = true := by
    intro inner
    simp [mapped]
  rw [isMapped_v6_iff]
  rintro ⟨other, hother⟩
  have hbit := congrArg (BitVec.getLsbD · 32) hother
  simp only [neighbour, BitVec.getLsbD_xor, hmark] at hbit
  exact absurd hbit (by decide)

end IpAddress

namespace IpRange
open IpAddress

variable {range : IpRange} {peer : IpAddress}

theorem contains_of_sharePrefix (h : SharePrefix range.prefixLength range.network peer)
    (hpeer : ¬ peer.IsMapped) : range.contains peer = true := by
  rw [contains_iff_canonical, canonical_of_not_isMapped hpeer]
  exact h

theorem exists_contains (h : range.network.IsMapped → range.prefixLength < 96) :
    ∃ peer, range.contains peer = true := by
  by_cases hmapped : range.network.IsMapped
  · obtain ⟨inner, hnetwork⟩ := id hmapped
    refine ⟨.v6 (neighbour (mapped inner)),
      contains_of_sharePrefix ?_ (not_isMapped_neighbour inner)⟩
    rw [hnetwork]
    exact .version6 (agree_neighbour (h hmapped) _)
  · exact ⟨range.network, contains_of_sharePrefix (.refl _ _) hmapped⟩

/-- A peer in the range of a mapped network would have to be compared as a mapped address, if the
prefix has the whole mark of these, and none is. -/
theorem not_contains_of_isMapped (hmapped : range.network.IsMapped)
    (hlong : 96 ≤ range.prefixLength) : range.contains peer = false := by
  obtain ⟨inner, hnetwork⟩ := hmapped
  rw [Bool.eq_false_iff, ne_eq, contains_iff_canonical, hnetwork]
  intro hprefix
  cases hcanonical : peer.canonical with
  | v4 bits =>
    rw [hcanonical] at hprefix
    cases hprefix
  | v6 bits =>
    rw [hcanonical] at hprefix
    cases hprefix with
    | version6 hagree =>
      obtain ⟨other, rfl⟩ := exists_mapped_of_agree hlong hagree
      exact peer.not_isMapped_canonical ⟨other, hcanonical⟩

/-- A range holds some peer unless it is of a mapped network with its whole mark. -/
theorem exists_contains_iff :
    (∃ peer, range.contains peer = true) ↔ (range.network.IsMapped → range.prefixLength < 96) := by
  refine ⟨?_, exists_contains⟩
  rintro ⟨peer, hcontains⟩ hmapped
  by_contra hshort
  rw [not_contains_of_isMapped hmapped (Nat.le_of_not_lt hshort)] at hcontains
  cases hcontains

end IpRange
end DualServer.Net

namespace DualServer.Config
open DualServer.Net DualServer.Net.IpAddress

/-- A range holds every address that begins like its network unless that is a mapped one: a mapped
address is held by the ranges that hold what it maps. So of accepted settings every entry holds some
peer, unless it is a mapped address in 96 bits or more. -/
theorem accepted_ranges_hold_peers [UrlReader] :
    (∀ (range : IpRange) (address : IpAddress),
      SharePrefix range.prefixLength range.network address → ¬ address.IsMapped →
      range.contains address = true) ∧
    (∀ range : IpRange, ¬ range.network.IsMapped → range.contains range.network = true) ∧
    (∀ (range : IpRange) (inner : BitVec 32),
      range.contains (.v6 (mapped inner)) = range.contains (.v4 inner)) ∧
    (∀ (s : Settings) (place : TlsPlace) (t : TlsSettings), s.Valid → s.tlsAt place = some t →
      ∀ text ∈ t.allowTerminationFrom, ∃ range, IpRange.parse text = .ok range ∧
        ((range.network.IsMapped → range.prefixLength < 96) →
          ∃ peer, range.contains peer = true)) ∧
    ∃ whole, IpRange.parse "::/0" = .ok whole ∧
      ∀ bits, ¬ (v6 bits).IsMapped → whole.contains (.v6 bits) = true := by
  refine ⟨fun _ _ => IpRange.contains_of_sharePrefix,
    fun _ => IpRange.contains_of_sharePrefix (.refl _ _), IpRange.contains_mapped, ?_, ?_⟩
  · intro s place t hvalid ht text hmem
    obtain ⟨range, hparse⟩ := hvalid.range_parses ht hmem
    exact ⟨range, hparse, IpRange.exists_contains_iff.mpr⟩
  · have hparse : IpRange.parse "::/0" = .ok ⟨.v6 0, 0, Nat.zero_le _⟩ := by decide +kernel
    exact ⟨_, hparse, fun bits => IpRange.contains_of_sharePrefix (.version6 (agree_zero _ bits))⟩

/-- A mapped network that leaves out the last six bits of its mark. -/
theorem accepted_ranges_hold_peers_short_mapped :
    letI : UrlReader := .none
    let t : TlsSettings := { allowTerminationFrom := ["10.0.0.0/8", " ::ffff:10.0.0.0 / 90"] }
    let s : Settings := { serve := { tls := t } }
    s.Valid ∧ ∃ range, IpRange.parse " ::ffff:10.0.0.0 / 90" = .ok range ∧
      range.network.IsMapped ∧ ∃ peer, range.contains peer = true := by
  intro t s
  let _ : UrlReader := .none
  have hvalid : s.Valid := by decide +kernel
  obtain ⟨-, -, -, hentries, -⟩ := @accepted_ranges_hold_peers _
  obtain ⟨range, hparse, hpeer⟩ :=
    hentries s .shared t hvalid rfl " ::ffff:10.0.0.0 / 90" (by decide)
  have hrange : IpRange.parse " ::ffff:10.0.0.0 / 90" =
      .ok ⟨.v6 (mapped 0x0A000000#32), 90, by decide⟩ := by decide +kernel
  obtain rfl := Except.ok.inj (hrange.symm.trans hparse)
  exact ⟨hvalid, _, hparse, ⟨_, rfl⟩, hpeer fun _ => by decide⟩

/-- A single address that is a mapped one is accepted and holds no peer, not even itself, and the
range of all of version 6 does not hold it either. -/
theorem mapped_entry_holds_nobody :
    letI : UrlReader := .none
    let t : TlsSettings := { allowTerminationFrom := ["::ffff:10.0.0.1"] }
    let s : Settings := { serve := { tls := t } }
    s.Valid ∧
    (∃ range, IpRange.parse "::ffff:10.0.0.1" = .ok range ∧
      range.contains range.network = false ∧ ∀ peer, range.contains peer = false) ∧
    ∃ whole, IpRange.parse "::/0" = .ok whole ∧
      whole.contains (.v6 (mapped 0x0A000001#32)) = false := by
  intro t s
  have hrange : IpRange.parse "::ffff:10.0.0.1" =
      .ok ⟨.v6 (mapped 0x0A000001#32), 128, Nat.le_refl _⟩ := by decide +kernel
  have hwhole : IpRange.parse "::/0" = .ok ⟨.v6 0, 0, Nat.zero_le _⟩ := by decide +kernel
  have hnobody : ∀ peer, IpRange.contains ⟨.v6 (mapped 0x0A000001#32), 128, Nat.le_refl _⟩ peer =
      false := fun _ => IpRange.not_contains_of_isMapped ⟨_, rfl⟩ (by decide)
  refine ⟨by decide +kernel, ⟨_, hrange, hnobody _, hnobody⟩, ⟨_, hwhole, ?_⟩⟩
  rw [IpRange.contains_mapped]
  rfl

end DualServer.Config
