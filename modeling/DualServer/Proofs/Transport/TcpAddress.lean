import DualServer.Proofs.Config.ListenAddress
import DualServer.Proofs.Net.Printing
import DualServer.Transport.Target

/-! Hosts that name addresses, read again out of the text that a listener binds. A colon in a host
puts brackets around it, and just the addresses of version 6 have one; a text that begins with a
colon is that of the empty host alone. -/
namespace DualServer.Net

theorem readPort_printed (port : UInt16) :
    readPort (Nat.toDigits 10 port.toNat) = some ⟨port.toNat, port.toNat_lt⟩ :=
  readPort_toDigits port.toNat_lt

/-- The socket address at a port of a machine. -/
def SocketAddress.at (ip : IpAddress) (port : UInt16) : SocketAddress :=
  ⟨ip, port.toNat, port.toNat_lt⟩

theorem SocketAddress.ofChars?_of_readV4 {host : List Char} {octets : List Nat} (port : UInt16)
    (h : readV4 host = some (octets, [])) :
    ofChars? (host ++ ':' :: Nat.toDigits 10 port.toNat) =
      some (.at (.v4 (IpAddress.ofOctets octets)) port) := by
  have hread := within_v4.read_append h
    (show Ends inV4 (':' :: Nat.toDigits 10 port.toNat) from ends_cons rfl)
  have hhead : ∀ rest, host ++ ':' :: Nat.toDigits 10 port.toNat ≠ '[' :: rest := by
    intro rest heq
    cases host with
    | nil => cases heq
    | cons c host =>
      have hc : c = '[' := (List.cons.inj heq).1
      exact absurd (within_v4.all h c List.mem_cons_self) (by rw [hc]; decide)
  unfold ofChars?
  split
  next rest heq => exact absurd heq (hhead rest)
  next => simp [hread, readPort_printed, SocketAddress.at]

theorem SocketAddress.ofChars?_of_readV6 {host : List Char} {groups : List Nat} (port : UInt16)
    (h : readV6 host = some (groups, [])) :
    ofChars? ('[' :: host ++ ']' :: ':' :: Nat.toDigits 10 port.toNat) =
      some (.at (.v6 (IpAddress.ofGroups groups)) port) := by
  have hread := within_v6.read_append h
    (show Ends inV6 (']' :: ':' :: Nat.toDigits 10 port.toNat) from ends_cons rfl)
  simp [ofChars?, hread, skipScope, readPort_printed, SocketAddress.at]

end DualServer.Net

namespace DualServer.Transport
open DualServer.Config DualServer.Net

/-- The address that a host stands for: its own, with or without brackets, or for the empty host all
addresses of version 4. -/
inductive HostNames : List Char → IpAddress → Prop
  | literal {host : List Char} {ip : IpAddress} (h : IpAddress.ofChars? host = some ip) :
    HostNames host ip
  | bracketed {host : List Char} {bits : BitVec 128}
    (h : IpAddress.ofChars? host = some (.v6 bits)) : HostNames ('[' :: host ++ [']']) (.v6 bits)
  | anywhere : HostNames [] (.v4 0)

/-- What names a file socket begins like the mark or with a slash. -/
theorem not_namesSocket_of_head? {host : String} (hmark : host.toList.head? ≠ some 'u')
    (hslash : host.toList.head? ≠ some '/') : ¬ NamesSocket host := by
  rintro (⟨rest, hrest⟩ | ⟨rest, hrest⟩)
  · exact hmark (by rw [← hrest]; rfl)
  · exact hslash (by rw [← hrest]; rfl)

theorem HostNames.head?_ne {host : List Char} {ip : IpAddress} {c : Char} (h : HostNames host ip)
    (hclass : inV6 c = false) (hbracket : c ≠ '[') : host.head? ≠ some c := by
  intro hhead
  cases h with
  | literal h =>
    have hc := IpAddress.all_of_ofChars? h c (List.mem_of_mem_head? hhead)
    exact absurd hc (by rw [hclass]; decide)
  | bracketed h => exact hbracket (Option.some.inj hhead).symm
  | anywhere => cases hhead

theorem HostNames.not_namesSocket {host : String} {ip : IpAddress}
    (h : HostNames host.toList ip) : ¬ NamesSocket host :=
  not_namesSocket_of_head? (h.head?_ne (by decide) (by decide)) (h.head?_ne (by decide) (by decide))

theorem hostWithPort_of_colon {host : List Char} (hcolon : ':' ∈ host)
    (hhead : host.head? ≠ some '[') (port : Nat) :
    hostWithPort host port = '[' :: host ++ ']' :: ':' :: Nat.toDigits 10 port := by
  unfold hostWithPort
  rw [if_pos (by simp [hcolon, hhead])]

theorem hostWithPort_of_not_colon {host : List Char} (hcolon : ':' ∉ host) (port : Nat) :
    hostWithPort host port = host ++ ':' :: Nat.toDigits 10 port := by
  unfold hostWithPort
  rw [if_neg (by simp [hcolon])]

theorem hostWithPort_of_bracket (host : List Char) (port : Nat) :
    hostWithPort ('[' :: host) port = '[' :: host ++ ':' :: Nat.toDigits 10 port := by
  unfold hostWithPort
  rw [if_neg (by simp)]

/-- Only without a host does the text begin with the colon in front of the port. -/
theorem head?_hostWithPort (host : List Char) (port : Nat) :
    (hostWithPort host port).head? = some ':' ↔ host = [] := by
  cases host with
  | nil => simp [hostWithPort]
  | cons c host =>
    by_cases hcolon : ':' ∈ c :: host
    · by_cases hbracket : c = '['
      · rw [hbracket, hostWithPort_of_bracket]
        simp
      · rw [hostWithPort_of_colon hcolon (by simpa using hbracket)]
        simp
    · rw [hostWithPort_of_not_colon hcolon]
      have hc : c ≠ ':' := fun h => hcolon (h ▸ List.mem_cons_self)
      simp [hc]

theorem head?_listenOn (s : InterfaceSettings) :
    s.listenOn.toList.head? = some ':' ↔ s.host = "" := by
  by_cases h : NamesSocket s.host
  · rw [listenOn_of_namesSocket h]
    constructor
    · intro hhead
      exact absurd h (not_namesSocket_of_head? (by rw [hhead]; decide) (by rw [hhead]; decide))
    · intro hempty
      exact absurd (hempty ▸ h) (by decide)
  · rw [listenOn_of_not_namesSocket h, String.toList_ofList, head?_hostWithPort]
    exact String.toList_eq_nil_iff

/-- The listening text of a host that names an address is read as that address and the port. -/
theorem HostNames.ofChars?_hostWithPort {host : List Char} {ip : IpAddress} (h : HostNames host ip)
    (hne : host ≠ []) (port : UInt16) :
    SocketAddress.ofChars? (hostWithPort host port.toNat) = some (.at ip port) := by
  cases h with
  | literal h =>
    have hchars := IpAddress.all_of_ofChars? h
    obtain ⟨octets, hread, rfl⟩ | ⟨groups, hread, rfl⟩ := IpAddress.ofChars?_eq_some h
    · have hcolon : ':' ∉ host := fun hmem => absurd (within_v4.all hread _ hmem) (by decide)
      rw [hostWithPort_of_not_colon hcolon]
      exact SocketAddress.ofChars?_of_readV4 port hread
    · have hhead : host.head? ≠ some '[' := fun hhead =>
        absurd (hchars _ (List.mem_of_mem_head? hhead)) (by decide)
      rw [hostWithPort_of_colon (colon_mem_of_readV6 hread) hhead]
      exact SocketAddress.ofChars?_of_readV6 port hread
  | @bracketed inner bits h =>
    obtain ⟨octets, -, heq⟩ | ⟨groups, hread, heq⟩ := IpAddress.ofChars?_eq_some h
    · cases heq
    · cases heq
      rw [List.cons_append, hostWithPort_of_bracket]
      simpa using SocketAddress.ofChars?_of_readV6 port hread
  | anywhere => exact absurd rfl hne

namespace Target

theorem tcpAddress_of_head? {t : Target} (h : t.address.toList.head? ≠ some ':') :
    t.tcpAddress = t.address := by
  unfold tcpAddress
  split
  next port hport => exact absurd (by rw [hport]; rfl) h
  next => rfl

theorem tcpAddress_ne_iff {t : Target} :
    t.tcpAddress ≠ t.address ↔ t.address.toList.head? = some ':' := by
  refine ⟨fun h => not_not.mp (mt tcpAddress_of_head? h), ?_⟩
  intro hhead heq
  unfold tcpAddress at heq
  split at heq
  next port hport =>
    rw [← heq] at hport
    simp at hport
  next hother =>
    obtain ⟨port, hport⟩ := List.head?_eq_some_iff.mp hhead
    exact hother port hport

theorem tcpAddress_of_colon {t : Target} {port : List Char} (h : t.address.toList = ':' :: port) :
    t.tcpAddress.toList = "0.0.0.0".toList ++ ':' :: port := by
  unfold tcpAddress
  rw [h]
  simp

theorem ofChars?_tcpAddress {s : Settings} {i : Interface} {ip : IpAddress}
    (h : HostNames (s.interface i).host.toList ip) :
    SocketAddress.ofChars? (ofSettings s i).tcpAddress.toList =
      some (.at ip (s.interface i).port) := by
  have haddress : (ofSettings s i).address.toList =
      hostWithPort (s.interface i).host.toList (s.interface i).port.toNat := by
    rw [ofSettings, Settings.listenAddress, listenOn_of_not_namesSocket h.not_namesSocket,
      String.toList_ofList]
  by_cases hempty : (s.interface i).host.toList = []
  · rw [hempty] at h haddress
    rw [tcpAddress_of_colon haddress]
    cases h with
    | literal h => cases h
    | anywhere =>
      have hread : readV4 "0.0.0.0".toList = some ([0, 0, 0, 0], []) := rfl
      exact SocketAddress.ofChars?_of_readV4 _ hread
  · rw [tcpAddress_of_head?, haddress]
    · exact h.ofChars?_hostWithPort hempty _
    · rw [haddress]
      exact mt (head?_hostWithPort _ _).mp hempty

/-- The text that is bound for a host that names an address is read as just that address and the
port. It is another text than the listening address for the empty host and for no other. -/
theorem tcpAddress_read_back (s : Settings) (i : Interface) :
    let settings := s.interface i
    let target := ofSettings s i
    (∀ ip, HostNames settings.host.toList ip →
      SocketAddress.ofText? target.tcpAddress = some (.at ip settings.port)) ∧
    (target.tcpAddress ≠ target.address ↔ settings.host = "") := by
  intro settings target
  constructor
  · intro ip h
    exact ofChars?_tcpAddress h
  · rw [tcpAddress_ne_iff]
    exact head?_listenOn settings

/-- An address that embeds one of version 4. -/
theorem tcpAddress_read_back_embedded :
    let s : Settings := { serve := { admin := { host := "::ffff:192.0.2.1", port := 4445 } } }
    HostNames (s.interface .admin).host.toList (.v6 0xFFFFC0000201) ∧
      SocketAddress.ofText? (ofSettings s .admin).tcpAddress =
        some (.at (.v6 0xFFFFC0000201) 4445) := by
  intro s
  have hnames : HostNames (s.interface .admin).host.toList (.v6 0xFFFFC0000201) :=
    .literal (by decide)
  exact ⟨hnames, (tcpAddress_read_back s .admin).1 _ hnames⟩

end Target
end DualServer.Transport
