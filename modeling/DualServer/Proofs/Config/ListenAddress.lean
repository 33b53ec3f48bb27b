import Mathlib.Data.List.Infix
import DualServer.Config.Settings

/-! The text of a listening address. A host names a file socket by how it begins, and the address
made of it is read by the same rule again: `namesSocket_listenOn_iff` says for which hosts the two
readings agree. -/
namespace DualServer.Config
open DualServer.Text

/-- Whether a text names a file socket: it has the mark in front, or is an absolute path. -/
def NamesSocket (text : String) : Prop :=
  unixMark.toList <+: text.toList ∨ ['/'] <+: text.toList

instance (text : String) : Decidable (NamesSocket text) := inferInstanceAs (Decidable (_ ∨ _))

theorem dropFront?_isSome_iff {front cs : List Char} :
    (dropFront? front cs).isSome = true ↔ front <+: cs := by
  rw [Option.isSome_iff_exists]
  exact exists_congr fun rest => dropFront?_eq_some.trans eq_comm

theorem head?_eq_some_iff_prefix {c : Char} {cs : List Char} :
    cs.head? = some c ↔ [c] <+: cs := by
  cases cs with
  | nil => simp
  | cons d cs => simp [eq_comm]

theorem isSocketHost_eq_true_iff {host : String} :
    isSocketHost host.toList = true ↔ NamesSocket host := by
  unfold isSocketHost NamesSocket
  rw [Bool.or_eq_true, dropFront?_isSome_iff, decide_eq_true_iff, head?_eq_some_iff_prefix]

/-- A separator after a text completes a mark that ends in it only if the text is all the rest of
the mark. -/
theorem mark_prefix_append_iff {base host rest : List Char} {separator : Char}
    (hbase : separator ∉ base) (hhost : ¬ base ++ [separator] <+: host) :
    base ++ [separator] <+: host ++ separator :: rest ↔ host = base := by
  induction base generalizing host with
  | nil =>
    cases host with
    | nil => simp
    | cons c host =>
      have hc : separator ≠ c := by simpa using hhost
      simp [hc]
  | cons b base ih =>
    have hb : b ≠ separator := fun h => hbase (h ▸ List.mem_cons_self)
    cases host with
    | nil => simp [hb]
    | cons c host =>
      rw [List.cons_append, List.cons_append, List.cons_prefix_cons, List.cons.injEq]
      by_cases hc : b = c
      · subst hc
        rw [ih (fun h => hbase (List.mem_cons_of_mem _ h)) (fun h => hhost (by simpa using h))]
      · simp [hc, Ne.symm hc]

/-- The only host that a colon turns into a text with the mark in front. -/
def bareMark : String := "unix"

theorem unixMark_toList : unixMark.toList = bareMark.toList ++ [':'] := rfl

theorem unixMark_prefix_hostWithPort {host : List Char} {port : Nat}
    (hmark : ¬ unixMark.toList <+: host) :
    unixMark.toList <+: hostWithPort host port ↔ host = bareMark.toList := by
  unfold hostWithPort
  simp only
  split
  next hbrackets =>
    -- In brackets, and so not the bare mark, which has no colon.
    constructor
    · intro h
      simp [unixMark] at h
    · rintro rfl
      simp [bareMark] at hbrackets
  next =>
    rw [unixMark_toList] at hmark ⊢
    exact mark_prefix_append_iff (by decide) hmark

theorem slash_prefix_hostWithPort {host : List Char} {port : Nat} (hslash : ¬ ['/'] <+: host) :
    ¬ ['/'] <+: hostWithPort host port := by
  unfold hostWithPort
  simp only
  split
  · simp
  · cases host with
    | nil => simp
    | cons c host => simpa using hslash

theorem bareMark_not_namesSocket : ¬ NamesSocket bareMark := by decide

theorem listenOn_of_namesSocket {s : InterfaceSettings} (h : NamesSocket s.host) :
    s.listenOn = s.host := by
  unfold InterfaceSettings.listenOn
  rw [if_pos (isSocketHost_eq_true_iff.mpr h)]

theorem listenOn_of_not_namesSocket {s : InterfaceSettings} (h : ¬ NamesSocket s.host) :
    s.listenOn = String.ofList (hostWithPort s.host.toList s.port.toNat) := by
  unfold InterfaceSettings.listenOn
  rw [if_neg (mt isSocketHost_eq_true_iff.mp h)]

/-- The address of a host names a file socket when the host does, and for one host more. -/
theorem namesSocket_listenOn_iff {s : InterfaceSettings} :
    NamesSocket s.listenOn ↔ NamesSocket s.host ∨ s.host = bareMark := by
  by_cases h : NamesSocket s.host
  · rw [listenOn_of_namesSocket h]
    exact ⟨.inl, fun _ => h⟩
  · have hparts := not_or.mp h
    rw [listenOn_of_not_namesSocket h, NamesSocket, String.toList_ofList,
      unixMark_prefix_hostWithPort hparts.1]
    simp only [slash_prefix_hostWithPort hparts.2, or_false, h, false_or, String.toList_inj]

end DualServer.Config
