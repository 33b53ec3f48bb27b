import Mathlib.Logic.Basic
import DualServer.Config.Decode
import DualServer.Config.Encode

/-! Settings that are written and read again. Formats differ in how they write a section: the order
of its keys, and whether an absent value is written as null or left out. `Document.Conveys` says
what they have in common, and whatever conveys the written settings is read as these settings. -/
namespace DualServer.Config

namespace Document

def keyed? (entries : List (String × Document)) (key : String) : Option Document :=
  (Section.keyed entries).find? 0 key

/-- What is written has every key of the original, in any order and with a value that conveys the
original one. Only keys that are null may be missing, and other keys may stand beside them. -/
inductive Conveys : Document → Document → Prop
  | same (d : Document) : Conveys d d
  | table {written original : List (String × Document)}
      (kept : ∀ key value other, keyed? original key = some value →
        keyed? written key = some other → Conveys other value)
      (missing : ∀ key value, keyed? original key = some value →
        keyed? written key = none → value = .null) :
      Conveys (.table written) (.table original)

namespace Conveys

variable {d e : Document} {written original : List (String × Document)}

theorem eq_of_leaf (h : Conveys d e) (hleaf : ∀ entries, e ≠ .table entries) : d = e := by
  cases h with
  | same => rfl
  | table => exact absurd rfl (hleaf _)

theorem exists_table (h : Conveys d (.table original)) : ∃ written, d = .table written := by
  cases h with
  | same => exact ⟨original, rfl⟩
  | table => exact ⟨_, rfl⟩

theorem ne_null (h : Conveys d e) (he : e ≠ .null) : d ≠ .null := by
  rintro rfl
  cases h with
  | same => exact he rfl

/-- A key of the original is there to be read, or it is null and is missing. -/
theorem key (h : Conveys (.table written) (.table original)) {key : String} {value : Document}
    (hkey : keyed? original key = some value) :
    (∃ other, keyed? written key = some other ∧ Conveys other value) ∨
      (value = .null ∧ keyed? written key = none) := by
  cases h with
  | same => exact .inl ⟨value, hkey, .same value⟩
  | table kept missing =>
    cases hother : keyed? written key with
    | none => exact .inr ⟨missing key value hkey hother, rfl⟩
    | some other => exact .inl ⟨other, rfl, kept key value other hkey hother⟩

theorem of_entries
    (h : ∀ entry ∈ original, (∃ other, keyed? written entry.1 = some other ∧
      Conveys other entry.2) ∨ (entry.2 = .null ∧ keyed? written entry.1 = none)) :
    Conveys (.table written) (.table original) := by
  have hentry : ∀ key value, keyed? original key = some value →
      (∃ other, keyed? written key = some other ∧ Conveys other value) ∨
        (value = .null ∧ keyed? written key = none) := by
    intro key value hkey
    obtain ⟨entry, hfind, rfl⟩ := Option.map_eq_some_iff.mp hkey
    have hname : entry.1 = key := by simpa using List.find?_some hfind
    rw [← hname]
    exact h entry (List.mem_of_find?_eq_some hfind)
  constructor
  · intro key value other hkey hother
    obtain ⟨found, hfound, hconveys⟩ | ⟨-, hnone⟩ := hentry key value hkey
    · rw [hother] at hfound
      cases hfound
      exact hconveys
    · rw [hother] at hnone
      cases hnone
  · intro key value hkey hnone
    obtain ⟨found, hfound, -⟩ | ⟨hnull, -⟩ := hentry key value hkey
    · rw [hnone] at hfound
      cases hfound
    · exact hnull

end Conveys
end Document

open Document

/-- A writer never writes null, and its reader gives back what it wrote from whatever conveys it. -/
structure ReadsBack {α : Type} (read : Document → Option α) (write : α → Document) : Prop where
  ne_null : ∀ a, write a ≠ .null
  read_eq : ∀ {a d}, Conveys d (write a) → read d = some a

namespace ReadsBack

variable {α : Type} {read : Document → Option α} {write : α → Document}
variable {written original : List (String × Document)} {key : String}

theorem of_leaf (hleaf : ∀ a entries, write a ≠ .table entries) (hnull : ∀ a, write a ≠ .null)
    (hread : ∀ a, read (write a) = some a) : ReadsBack read write where
  ne_null := hnull
  read_eq := by
    intro a d h
    rw [h.eq_of_leaf (hleaf a)]
    exact hread a

theorem of_section {entries : α → List (String × Document)}
    (hread : ∀ a written, Conveys (.table written) (.table (entries a)) →
      read (.table written) = some a) :
    ReadsBack read fun a => .table (entries a) where
  ne_null := nofun
  read_eq := by
    intro a d h
    obtain ⟨written, rfl⟩ := h.exists_table
    exact hread a written h

theorem get (hback : ReadsBack read write) (h : Conveys (.table written) (.table original)) {a : α}
    (hkey : keyed? original key = some (write a)) {position : Nat} {default : α} :
    (Section.keyed written).get position key default read = some a := by
  obtain ⟨other, hother, hconveys⟩ | ⟨hnull, -⟩ := h.key hkey
  · unfold Section.get
    rw [show (Section.keyed written).find? position key = some other from hother]
    exact hback.read_eq hconveys
  · exact absurd hnull (hback.ne_null a)

/-- An absent value stays absent, whether it is written as null or left out. -/
theorem get_optional (hback : ReadsBack read write)
    (h : Conveys (.table written) (.table original)) {a : Option α}
    (hkey : keyed? original key = some (.optional write a)) {position : Nat} :
    (Section.keyed written).get position key none (optional? read) = some a := by
  unfold Section.get
  obtain ⟨other, hother, hconveys⟩ | ⟨hnull, hnone⟩ := h.key hkey
  · rw [show (Section.keyed written).find? position key = some other from hother]
    cases a with
    | none =>
      rw [show other = .null from hconveys.eq_of_leaf nofun]
      rfl
    | some content =>
      have hother : other ≠ .null := hconveys.ne_null (hback.ne_null content)
      have hcontent : read other = some content := hback.read_eq hconveys
      cases other with
      | null => exact absurd rfl hother
      | _ => exact congrArg (Option.map some) hcontent
  · rw [show (Section.keyed written).find? position key = none from hnone]
    cases a with
    | none => rfl
    | some content => exact absurd hnull (hback.ne_null content)

end ReadsBack

theorem readsBack_bool : ReadsBack bool? .bool := .of_leaf nofun nofun fun _ => rfl

theorem readsBack_text : ReadsBack text? .text := .of_leaf nofun nofun fun _ => rfl

theorem readsBack_texts : ReadsBack texts? .texts := by
  refine .of_leaf nofun nofun fun items => ?_
  unfold texts? Document.texts
  induction items with
  | nil => rfl
  | cons item items ih =>
    simp only [List.map_cons, List.mapM_cons, text?, ih, Option.pure_def, Option.bind_eq_bind,
      Option.bind_some]

/-- A number of bounded size is read as it was written, up to its bound. -/
theorem readsBack_below {limit : Nat} {ofNat : Nat → α} {toNat : α → Nat}
    (hlt : ∀ a, toNat a < limit) (hround : ∀ a, ofNat (toNat a) = a) :
    ReadsBack (fun d => (d.below? limit).map ofNat) (fun a => .nat (toNat a)) := by
  refine .of_leaf nofun nofun fun a => ?_
  have hbelow : (Document.nat (toNat a)).below? limit = some (toNat a) := if_pos (hlt a)
  rw [hbelow, Option.map_some, hround]

theorem readsBack_uint16 : ReadsBack uint16? fun n : UInt16 => .nat n.toNat :=
  readsBack_below (fun n => n.toNat_lt) fun _ => UInt16.ofNat_toNat

theorem readsBack_uint32 : ReadsBack uint32? fun n : UInt32 => .nat n.toNat :=
  readsBack_below (fun n => n.toNat_lt) fun _ => UInt32.ofNat_toNat

theorem readsBack_uint64 : ReadsBack uint64? fun n : UInt64 => .nat n.toNat :=
  readsBack_below (fun n => n.toNat_lt) fun _ => UInt64.ofNat_toNat

/-- What is read first, and what is read with it. -/
theorem bind_eq_some {α β : Type} {x : Option α} {f : α → Option β} {a : α} {b : β}
    (hx : x = some a) (hf : f a = some b) : x.bind f = some b := by
  rw [hx]
  exact hf

theorem readsBack_pem : ReadsBack PemSource.decode PemSource.encode := by
  refine .of_section fun a written h => ?_
  exact bind_eq_some (readsBack_text.get_optional h rfl) <|
    bind_eq_some (readsBack_text.get_optional h rfl) rfl

theorem readsBack_tls : ReadsBack TlsSettings.decode TlsSettings.encode := by
  refine .of_section fun a written h => ?_
  exact bind_eq_some (readsBack_bool.get h rfl) <|
    bind_eq_some (readsBack_pem.get h rfl) <| bind_eq_some (readsBack_pem.get h rfl) <|
    bind_eq_some (readsBack_texts.get h rfl) rfl

theorem readsBack_socket : ReadsBack SocketPermission.decode SocketPermission.encode := by
  refine .of_section fun a written h => ?_
  exact bind_eq_some (readsBack_uint32.get_optional h rfl) <|
    bind_eq_some (readsBack_uint32.get_optional h rfl) <|
    bind_eq_some (readsBack_uint32.get h rfl) rfl

theorem readsBack_cors : ReadsBack CorsSettings.decode CorsSettings.encode := by
  refine .of_section fun a written h => ?_
  exact bind_eq_some (readsBack_bool.get h rfl) <|
    bind_eq_some (readsBack_texts.get h rfl) <| bind_eq_some (readsBack_texts.get h rfl) <|
    bind_eq_some (readsBack_texts.get h rfl) <| bind_eq_some (readsBack_texts.get h rfl) <|
    bind_eq_some (readsBack_bool.get h rfl) <| bind_eq_some (readsBack_uint64.get h rfl) rfl

theorem readsBack_requestLog : ReadsBack RequestLogSettings.decode RequestLogSettings.encode := by
  refine .of_section fun a written h => ?_
  exact bind_eq_some (readsBack_bool.get h rfl) rfl

theorem readsBack_interface : ReadsBack InterfaceSettings.decode InterfaceSettings.encode := by
  refine .of_section fun a written h => ?_
  exact bind_eq_some (readsBack_text.get h rfl) <|
    bind_eq_some (readsBack_uint16.get h rfl) <|
    bind_eq_some (readsBack_socket.get_optional h rfl) <|
    bind_eq_some (readsBack_tls.get_optional h rfl) <| bind_eq_some (readsBack_cors.get h rfl) <|
    bind_eq_some (readsBack_requestLog.get h rfl) rfl

theorem readsBack_cgroups : ReadsBack CgroupSettings.decode CgroupSettings.encode := by
  refine .of_section fun a written h => ?_
  exact bind_eq_some (readsBack_bool.get h rfl) rfl

theorem readsBack_serve : ReadsBack ServeSettings.decode ServeSettings.encode := by
  refine .of_section fun a written h => ?_
  exact bind_eq_some (readsBack_interface.get h rfl) <|
    bind_eq_some (readsBack_interface.get h rfl) <| bind_eq_some (readsBack_tls.get h rfl) <|
    bind_eq_some (readsBack_uint64.get h rfl) <| bind_eq_some (readsBack_cgroups.get h rfl) rfl

theorem readsBack_urls : ReadsBack UrlSettings.decode UrlSettings.encode := by
  refine .of_section fun a written h => ?_
  exact bind_eq_some (readsBack_text.get h rfl) rfl

theorem readsBack_tracing : ReadsBack TracingSettings.decode TracingSettings.encode := by
  refine .of_section fun a written h => ?_
  exact bind_eq_some (readsBack_text.get h rfl) <|
    bind_eq_some (readsBack_text.get h rfl) rfl

theorem readsBack_log : ReadsBack LogSettings.decode LogSettings.encode := by
  refine .of_section fun a written h => ?_
  exact bind_eq_some (readsBack_text.get h rfl) <|
    bind_eq_some (readsBack_text.get h rfl) rfl

theorem readsBack_settings : ReadsBack Settings.decode Settings.encode := by
  refine .of_section fun a written h => ?_
  exact bind_eq_some (readsBack_text.get h rfl) <|
    bind_eq_some (readsBack_urls.get h rfl) <| bind_eq_some (readsBack_serve.get h rfl) <|
    bind_eq_some (readsBack_tracing.get h rfl) <| bind_eq_some (readsBack_log.get h rfl) rfl

/-- Settings that are written are read again as they were: every value and list as it stood, and
what was absent still absent. The order of the keys, nulls that are left out and keys that stand
beside the written ones make no difference. -/
theorem settings_read_back (s : Settings) :
    Settings.decode s.encode = some s ∧ ∀ d, Conveys d s.encode → Settings.decode d = some s :=
  ⟨readsBack_settings.read_eq (.same _), fun _ => readsBack_settings.read_eq⟩

/-- Settings with the largest numbers, written with plain values first, without nulls, and with a
key that is none of theirs. -/
theorem settings_read_back_reordered :
    let socket : SocketPermission := { group := some 4294967295, mode := 448 }
    let admin : InterfaceSettings := { host := "unix:/run/a.sock", port := 65535, socket }
    let s : Settings := { serve := { admin, shutdownTimeoutSecs := 18446744073709551615 } }
    let writtenSocket : Document := .table [("mode", .int 448), ("group", .int 4294967295)]
    let writtenAdmin : Document := .table [
      ("port", .int 65535),
      ("host", .text "unix:/run/a.sock"),
      ("request_log", admin.requestLog.encode),
      ("cors", admin.cors.encode),
      ("socket", writtenSocket)]
    let d : Document := .table [
      ("comment", .text "none of the keys"),
      ("dsn", .text "memory"),
      ("serve", .table [
        ("shutdown_timeout_secs", .int 18446744073709551615),
        ("cgroups", s.serve.cgroups.encode),
        ("tls", s.serve.tls.encode),
        ("public", s.serve.public.encode),
        ("admin", writtenAdmin)]),
      ("log", s.log.encode),
      ("tracing", s.tracing.encode),
      ("urls", s.urls.encode)]
    Conveys d s.encode ∧ Settings.decode d = some s := by
  intro socket admin s writtenSocket writtenAdmin d
  have hsocket : Conveys writtenSocket socket.encode := by
    refine .of_entries fun entry hentry => ?_
    simp only [List.mem_cons, List.not_mem_nil, or_false] at hentry
    obtain rfl | rfl | rfl := hentry
    · exact .inr ⟨rfl, rfl⟩
    · exact .inl ⟨_, rfl, .same _⟩
    · exact .inl ⟨_, rfl, .same _⟩
  have hadmin : Conveys writtenAdmin admin.encode := by
    refine .of_entries fun entry hentry => ?_
    simp only [List.mem_cons, List.not_mem_nil, or_false] at hentry
    obtain rfl | rfl | rfl | rfl | rfl | rfl := hentry
    · exact .inl ⟨_, rfl, .same _⟩
    · exact .inl ⟨_, rfl, .same _⟩
    · exact .inl ⟨_, rfl, hsocket⟩
    · exact .inr ⟨rfl, rfl⟩
    · exact .inl ⟨_, rfl, .same _⟩
    · exact .inl ⟨_, rfl, .same _⟩
  have hconveys : Conveys d s.encode := by
    refine .of_entries fun entry hentry => ?_
    simp only [List.mem_cons, List.not_mem_nil, or_false] at hentry
    obtain rfl | rfl | rfl | rfl | rfl := hentry
    · exact .inl ⟨_, rfl, .same _⟩
    · exact .inl ⟨_, rfl, .same _⟩
    · refine .inl ⟨_, rfl, .of_entries fun entry hentry => ?_⟩
      simp only [List.mem_cons, List.not_mem_nil, or_false] at hentry
      obtain rfl | rfl | rfl | rfl | rfl := hentry
      · exact .inl ⟨_, rfl, hadmin⟩
      all_goals exact .inl ⟨_, rfl, .same _⟩
    · exact .inl ⟨_, rfl, .same _⟩
    · exact .inl ⟨_, rfl, .same _⟩
  exact ⟨hconveys, (settings_read_back s).2 d hconveys⟩

end DualServer.Config
