import DualServer.Proofs.Transport.Files
import DualServer.Transport.Resolver

/-! File sockets and what they leave among the files. A file in the way is removed before anything
is known about the socket, so it is lost when the socket is refused after that; everything else that
is refused leaves the system as it was. -/
namespace DualServer.Transport
open DualServer.Config DualServer.Serve DualServer.Text

/-- A path that stands for no file: the empty one, and a name that begins with a NUL. -/
def Fileless (path : String) : Prop := path = "" ∨ path.toList.head? = some '\x00'

instance (path : String) : Decidable (Fileless path) := inferInstanceAs (Decidable (_ ∨ _))

theorem fileless_refused? {path : String} (h : Fileless path) :
    ∃ fault, FileSystem.refused? path = some fault := by
  rw [← Option.ne_none_iff_exists', ne_eq, FileSystem.refused?_eq_none_iff]
  rintro ⟨hempty, hnul, -⟩
  obtain h | h := h
  · exact hempty h
  · exact hnul (List.mem_of_mem_head? h)

/-- The rights of a socket file: the usual ones, with the permission applied. -/
def rightsFor : Option SocketPermission → Rights
  | none => {}
  | some permission => ({} : Rights).under permission

namespace System
variable {s cleared opened : System} {path : String} {id : Nat}

/-- A path at which no socket is made even if nothing is there. -/
def Refuses (s : System) (path : String) : Prop :=
  maxSocketPath < path.utf8ByteSize ∨ s.files.barred.lookup (.ofPath path) ≠ none

/-- A path whose file is removed for a socket that is then refused. -/
def LosesFile (s : System) (path : String) : Prop := s.files.Removable path ∧ s.Refuses path

theorem not_losesFile_of_fileless (h : Fileless path) : ¬ s.LosesFile path := by
  rintro ⟨⟨entry, hfind, -⟩, -⟩
  obtain ⟨fault, hfault⟩ := fileless_refused? h
  rw [FileSystem.find_of_refused? hfault] at hfind
  cases hfind

/-- A path at which there is nothing, and a socket can be made. -/
structure Vacant (s : System) (path : String) : Prop where
  legal : FileSystem.refused? path = none
  reached : s.files.reach path = .ok ()
  free : s.files.get? (.ofPath path) = none
  plain : FileSystem.endsInSlash path = false
  willing : ¬ s.Refuses path

/-- A path at which a socket can be made, once a file that is there has been removed. -/
def Takes (s : System) (path : String) : Prop :=
  s.Vacant path ∨ s.files.Removable path ∧ ¬ s.Refuses path

theorem not_takes_of_fileless (h : Fileless path) : ¬ s.Takes path := by
  obtain ⟨fault, hfault⟩ := fileless_refused? h
  rintro (hvacant | ⟨⟨entry, hfind, -⟩, -⟩)
  · have hlegal := hvacant.legal
    rw [hfault] at hlegal
    cases hlegal
  · rw [FileSystem.find_of_refused? hfault] at hfind
    cases hfind

theorem Vacant.not_exists (h : s.Vacant path) : s.files.exists? path = false := by
  rw [← Bool.not_eq_true, FileSystem.exists?_eq_true_iff]
  rintro ⟨entry, hfind⟩
  obtain ⟨-, -, hget, -⟩ := FileSystem.find_eq_ok_iff.mp hfind
  rw [h.free] at hget
  cases hget

theorem LosesFile.not_takes (h : s.LosesFile path) : ¬ s.Takes path := by
  rintro (hvacant | ⟨-, hwilling⟩)
  · exact hvacant.willing h.2
  · exact hwilling h.2

/-- The system with a new socket and its file. -/
def withSocket (s : System) (path : String) (rights : Rights) : System :=
  (s.openSocket (s.files.put (.ofPath path) (.socket s.nextSocket rights))).1

/-- The system without the file at a path. -/
def without (s : System) (path : String) : System :=
  { s with files := s.files.erase (.ofPath path) }

theorem withSocket_without (s : System) (path : String) (rights : Rights) :
    (s.without path).withSocket path rights = s.withSocket path rights := by
  simp [withSocket, without, openSocket, FileSystem.put_erase]

theorem clear_of_removable (h : s.files.Removable path) : s.clear path = .ok (s.without path) := by
  have hexists : s.files.exists? path = true :=
    FileSystem.exists?_eq_true_iff.mpr (h.imp fun _ hentry => hentry.1)
  rw [clear, if_pos hexists, removeFile, FileSystem.removeFile_of_removable h]
  rfl

theorem clear_of_not_removable (h : ¬ s.files.Removable path)
    (hexists : s.files.exists? path = true) : ∃ fault, s.clear path = .error fault := by
  obtain ⟨fault, hremove⟩ := FileSystem.removeFile_of_not_removable h
  refine ⟨fault, ?_⟩
  rw [clear, if_pos hexists, removeFile, hremove]
  rfl

theorem clear_of_not_exists (h : s.files.exists? path = false) : s.clear path = .ok s := by
  rw [clear, h]
  rfl

theorem bindSocket_of_vacant (h : s.Vacant path) :
    s.bindSocket path = .ok (s.withSocket path {}, s.nextSocket) := by
  obtain ⟨hempty, hnul, -⟩ := FileSystem.refused?_eq_none_iff.mp h.legal
  obtain ⟨hshort, hbarred⟩ := not_or.mp h.willing
  have hname : path.toList.head? ≠ some '\x00' := fun hhead => hnul (List.mem_of_mem_head? hhead)
  replace hbarred := Decidable.not_not.mp hbarred
  unfold bindSocket bindFile
  simp [hname, hnul, hshort, hempty, h.reached, h.free, h.plain, hbarred, withSocket, openSocket]

theorem vacant_of_bindFile (hlegal : FileSystem.refused? path = none)
    (hshort : ¬ maxSocketPath < path.utf8ByteSize) (h : s.bindFile path = .ok (opened, id)) :
    s.Vacant path := by
  unfold bindFile at h
  split at h
  next => cases h
  next hreach =>
    split at h
    next => cases h
    next hfree =>
      split at h
      next => cases h
      next hplain =>
        split at h
        next => cases h
        next hbarred =>
          exact {
            legal := hlegal
            reached := hreach
            free := by simpa using hfree
            plain := Bool.eq_false_iff.mpr hplain
            willing := by simp [Refuses, hshort, hbarred] }

/-- Where a socket was made with a file, there was room for it. -/
theorem vacant_of_bindSocket (hfile : ¬ Fileless path)
    (h : s.bindSocket path = .ok (opened, id)) : s.Vacant path := by
  obtain ⟨hempty, hname⟩ := not_or.mp hfile
  unfold bindSocket at h
  rw [if_neg hname] at h
  split at h
  next => cases h
  next hnul =>
    split at h
    next => cases h
    next hshort =>
      rw [if_neg (by simpa using hempty)] at h
      have hlength : path.utf8ByteSize ≤ FileSystem.maxPath :=
        Nat.le_trans (Nat.not_lt.mp hshort) (by decide)
      have hlegal : FileSystem.refused? path = none :=
        FileSystem.refused?_eq_none_iff.mpr ⟨hempty, by simpa using hnul, hlength⟩
      exact vacant_of_bindFile hlegal hshort h

theorem files_of_bindSocket (hfileless : Fileless path)
    (h : s.bindSocket path = .ok (opened, id)) :
    opened.files = s.files ∧ opened.nextSocket = s.nextSocket + 1 ∧ id = s.nextSocket := by
  unfold bindSocket at h
  split at h
  next =>
    unfold bindName at h
    split at h
    next => cases h
    next =>
      split at h
      next => cases h
      next =>
        cases h
        exact ⟨rfl, rfl, rfl⟩
  next hname =>
    have hempty : path = "" := hfileless.resolve_right hname
    subst hempty
    cases h
    exact ⟨rfl, rfl, rfl⟩

/-- With the file out of the way, a socket can be made unless the system refuses it. -/
theorem vacant_without (h : s.files.Removable path) (hwilling : ¬ s.Refuses path) :
    (s.without path).Vacant path := by
  have hplace := h.not_directory
  obtain ⟨entry, hfind, hentry, -⟩ := h
  obtain ⟨hlegal, hreach, -, hslash⟩ := FileSystem.find_eq_ok_iff.mp hfind
  exact {
    legal := hlegal
    reached := FileSystem.reach_of_agree hplace
      (fun elsewhere hne => FileSystem.get?_erase_of_ne hne) hreach
    free := FileSystem.get?_erase_self (FileSystem.isGiven_eq_false hplace)
    plain := hslash hentry
    willing := hwilling }

/-- A file is removed, but no socket comes in its place. -/
theorem bindSocket_of_losesFile (h : s.LosesFile path) :
    ∃ fault, (s.without path).bindSocket path = .error fault := by
  have hfile : ¬ Fileless path := fun hfileless => not_losesFile_of_fileless hfileless h
  cases hbind : (s.without path).bindSocket path with
  | error fault => exact ⟨fault, rfl⟩
  | ok r => exact absurd h.2 (vacant_of_bindSocket hfile hbind).willing

theorem find_withSocket (h : s.Vacant path) (rights : Rights) :
    (s.withSocket path rights).files.find path = .ok (.socket s.nextSocket rights) := by
  have hplace : s.files.get? (.ofPath path) ≠ some .directory := by
    rw [h.free]
    nofun
  rw [FileSystem.find_eq_ok_iff]
  exact ⟨h.legal, FileSystem.reach_of_agree hplace
    (fun elsewhere hne => FileSystem.get?_put_of_ne hne) h.reached,
    FileSystem.get?_put_self (FileSystem.isGiven_eq_false hplace), fun _ => h.plain⟩

theorem applyPermission_withSocket (h : s.Vacant path) (permission : SocketPermission) :
    (s.withSocket path {}).applyPermission path permission =
      .ok (s.withSocket path (rightsFor (some permission))) := by
  unfold applyPermission
  rw [find_withSocket h]
  simp [withSocket, openSocket, FileSystem.put_put, rightsFor]

theorem applyPermission_of_fileless (h : Fileless path) (permission : SocketPermission) :
    ∃ fault, s.applyPermission path permission = .error fault := by
  obtain ⟨fault, hfault⟩ := fileless_refused? h
  refine ⟨fault, ?_⟩
  unfold applyPermission
  rw [FileSystem.find_of_refused? hfault]

theorem removeFile_of_fileless (h : Fileless path) : ∃ fault, s.removeFile path = .error fault := by
  obtain ⟨fault, hfault⟩ := fileless_refused? h
  refine ⟨fault, ?_⟩
  unfold removeFile FileSystem.removeFile
  rw [FileSystem.find_of_refused? hfault]
  rfl

end System

/-- All that listening on a file can come to: the system after it, and the answer. -/
inductive FileOutcome (s : System) (path : String) (permission : Option SocketPermission) :
    System → Except Halt Bound → Prop
  | refused {fault : Fault} (h : ¬ s.LosesFile path) (htakes : ¬ s.Takes path) :
    FileOutcome s path permission s (.error (.failure (.bind ("unix:" ++ path) fault)))
  | lost {fault : Fault} (h : s.LosesFile path) :
    FileOutcome s path permission (s.without path)
      (.error (.failure (.bind ("unix:" ++ path) fault)))
  | placed (h : s.Takes path) (hplace : s.files.get? (.ofPath path) ≠ some .directory) :
    FileOutcome s path permission (s.withSocket path (rightsFor permission))
      (.ok (.unix path s.nextSocket))
  | fileless {opened : System} (h : Fileless path) (hfiles : opened.files = s.files)
    (hnext : opened.nextSocket = s.nextSocket + 1) :
    FileOutcome s path permission opened (.ok (.unix path s.nextSocket))
  | unguarded {left : System} {fault : Fault} (h : Fileless path) (hfiles : left.files = s.files)
    (hnext : left.nextSocket = s.nextSocket + 1) :
    FileOutcome s path permission left (.error (.failure (.permission path fault)))

section
variable {s cleared : System} {path : String} {permission : Option SocketPermission}

theorem bindUnix_of_refused_removal {fault : Fault} (h : s.clear path = .error fault) :
    bindUnix s path permission =
      ⟨s, .error (.failure (.bind ("unix:" ++ path) fault)), [], []⟩ := by
  unfold bindUnix
  rw [h]

theorem bindUnix_of_refused_socket {fault : Fault} (h : s.clear path = .ok cleared)
    (hbind : cleared.bindSocket path = .error fault) :
    bindUnix s path permission =
      ⟨cleared, .error (.failure (.bind ("unix:" ++ path) fault)), [], []⟩ := by
  unfold bindUnix
  rw [h]
  simp only [hbind]

theorem bindUnix_of_vacant (h : s.clear path = .ok cleared) (hvacant : cleared.Vacant path) :
    bindUnix s path permission = ⟨cleared.withSocket path (rightsFor permission),
      .ok (.unix path cleared.nextSocket), [], []⟩ := by
  unfold bindUnix
  rw [h]
  simp only [System.bindSocket_of_vacant hvacant]
  cases permission with
  | none => rfl
  | some permission => simp only [System.applyPermission_withSocket hvacant]

theorem fileOutcome_of_fileless (h : Fileless path) :
    FileOutcome s path permission (bindUnix s path permission).system
      (bindUnix s path permission).result := by
  obtain ⟨fault, hfault⟩ := fileless_refused? h
  have hexists : s.files.exists? path = false := by
    rw [FileSystem.exists?, FileSystem.find_of_refused? hfault]
    rfl
  have hclear := System.clear_of_not_exists hexists
  cases hbind : s.bindSocket path with
  | error fault =>
    rw [bindUnix_of_refused_socket hclear hbind]
    exact .refused (System.not_losesFile_of_fileless h) (System.not_takes_of_fileless h)
  | ok r =>
    obtain ⟨opened, id⟩ := r
    obtain ⟨hfiles, hnext, rfl⟩ := System.files_of_bindSocket h hbind
    unfold bindUnix
    rw [hclear]
    simp only [hbind]
    cases permission with
    | none => exact .fileless h hfiles hnext
    | some permission =>
      obtain ⟨denied, hdenied⟩ := System.applyPermission_of_fileless (s := opened) h permission
      obtain ⟨left, hleft⟩ :=
        System.removeFile_of_fileless (s := opened.closeSocket s.nextSocket) h
      simp only [hdenied, hleft]
      exact .unguarded h hfiles hnext

/-- Listening on a file ends in one of these ways, whatever the files are. -/
theorem fileOutcome_bindUnix (s : System) (path : String)
    (permission : Option SocketPermission) :
    FileOutcome s path permission (bindUnix s path permission).system
      (bindUnix s path permission).result := by
  by_cases hfileless : Fileless path
  · exact fileOutcome_of_fileless hfileless
  by_cases hremovable : s.files.Removable path
  · -- The file is gone before the system is asked for a socket.
    have hclear := System.clear_of_removable hremovable
    by_cases hrefuses : s.Refuses path
    · obtain ⟨fault, hbind⟩ := System.bindSocket_of_losesFile ⟨hremovable, hrefuses⟩
      rw [bindUnix_of_refused_socket hclear hbind]
      exact .lost ⟨hremovable, hrefuses⟩
    · rw [bindUnix_of_vacant hclear (System.vacant_without hremovable hrefuses),
        System.withSocket_without]
      exact .placed (.inr ⟨hremovable, hrefuses⟩) hremovable.not_directory
  · have hkept : ¬ s.LosesFile path := fun h => hremovable h.1
    cases hexists : s.files.exists? path with
    | true =>
      obtain ⟨fault, hclear⟩ := System.clear_of_not_removable hremovable hexists
      have htakes : ¬ s.Takes path := by
        rintro (hvacant | ⟨h, -⟩)
        · exact absurd (hexists.symm.trans hvacant.not_exists) (by decide)
        · exact hremovable h
      rw [bindUnix_of_refused_removal hclear]
      exact .refused hkept htakes
    | false =>
      have hclear := System.clear_of_not_exists hexists
      cases hbind : s.bindSocket path with
      | error fault =>
        have htakes : ¬ s.Takes path := by
          rintro (hvacant | ⟨h, -⟩)
          · rw [System.bindSocket_of_vacant hvacant] at hbind
            cases hbind
          · exact hremovable h
        rw [bindUnix_of_refused_socket hclear hbind]
        exact .refused hkept htakes
      | ok r =>
        have hvacant := System.vacant_of_bindSocket hfileless hbind
        rw [bindUnix_of_vacant hclear hvacant]
        exact .placed (.inl hvacant) (by rw [hvacant.free]; nofun)

theorem Target.socketPath?_unixMark (path : String) (permission : Option SocketPermission) :
    socketPath? ⟨"unix:" ++ path, permission⟩ = some path := by
  have hfront : dropFront? unixMark.toList ("unix:" ++ path).toList = some path.toList := by
    rw [dropFront?_eq_some, String.toList_append]
    rfl
  unfold socketPath?
  simp only [hfront, String.ofList_toList]

theorem fileOutcome_resolve {target : Target} (factory : TunnelFactory) (flags : Flags)
    (hpath : target.socketPath? = some path) :
    FileOutcome s path target.permission (resolve s factory target flags).system
      (resolve s factory target flags).result := by
  unfold resolve
  rw [hpath]
  exact fileOutcome_bindUnix s path target.permission

end

/-- No file belongs to a socket that is still to be opened. -/
def System.Numbered (s : System) : Prop :=
  ∀ place id rights, s.files.get? place = some (.socket id rights) → id < s.nextSocket

theorem System.Numbered.of_files {s after : System} (hs : s.Numbered)
    (hfiles : after.files = s.files) (hnext : after.nextSocket = s.nextSocket + 1) :
    after.Numbered := by
  intro place id rights hget
  rw [hfiles] at hget
  rw [hnext]
  exact Nat.lt_succ_of_lt (hs place id rights hget)

namespace FileOutcome
variable {s after : System} {path : String} {permission : Option SocketPermission}
  {result : Except Halt Bound}

theorem frame (h : FileOutcome s path permission after result) {elsewhere : Place}
    (hne : elsewhere ≠ .ofPath path) : after.files.get? elsewhere = s.files.get? elsewhere := by
  cases h with
  | refused => rfl
  | lost => exact FileSystem.get?_erase_of_ne hne
  | placed => exact FileSystem.get?_put_of_ne hne
  | fileless h hfiles hnext => rw [hfiles]
  | unguarded h hfiles hnext => rw [hfiles]

theorem numbered (h : FileOutcome s path permission after result) (hs : s.Numbered) :
    after.Numbered := by
  cases h with
  | refused => exact hs
  | lost =>
    intro place id rights hget
    exact hs place id rights (FileSystem.get?_of_get?_erase hget)
  | placed =>
    intro place id rights hget
    obtain heq | hget := FileSystem.get?_of_get?_put hget
    · cases heq
      exact Nat.lt_succ_self _
    · exact Nat.lt_succ_of_lt (hs place id rights hget)
  | fileless h hfiles hnext => exact hs.of_files hfiles hnext
  | unguarded h hfiles hnext => exact hs.of_files hfiles hnext

theorem of_losesFile (h : FileOutcome s path permission after result)
    (hloses : s.LosesFile path) :
    (∃ fault, result = .error (.failure (.bind ("unix:" ++ path) fault))) ∧
      s.files.get? (.ofPath path) ≠ none ∧ after.files.get? (.ofPath path) = none := by
  cases h with
  | refused h => exact absurd hloses h
  | @lost fault _ =>
    have hplace := FileSystem.isGiven_eq_false hloses.1.not_directory
    obtain ⟨entry, hfind, -⟩ := hloses.1
    obtain ⟨-, -, hget, -⟩ := FileSystem.find_eq_ok_iff.mp hfind
    exact ⟨⟨fault, rfl⟩, by rw [hget]; nofun, FileSystem.get?_erase_self hplace⟩
  | placed h => exact absurd h hloses.not_takes
  | fileless h => exact absurd hloses (System.not_losesFile_of_fileless h)
  | unguarded h => exact absurd hloses (System.not_losesFile_of_fileless h)

theorem of_refused (h : FileOutcome s path permission after result) {address : String}
    {fault : Fault} (hresult : result = .error (.failure (.bind address fault)))
    (hloses : ¬ s.LosesFile path) : after = s := by
  cases h with
  | refused => rfl
  | lost h => exact absurd h hloses
  | placed => cases hresult
  | fileless => cases hresult
  | unguarded => cases hresult

theorem of_bound (h : FileOutcome s path permission after result) {bound : Bound}
    (hresult : result = .ok bound) (hfile : ¬ Fileless path) :
    bound = .unix path s.nextSocket ∧ s.nextSocket ∈ after.listening ∧
      s.files.get? (.ofPath path) ≠ some .directory ∧
      after.files.get? (.ofPath path) = some (.socket s.nextSocket (rightsFor permission)) := by
  cases h with
  | refused => cases hresult
  | lost => cases hresult
  | placed _ hplace =>
    refine ⟨(Except.ok.inj hresult).symm, ?_, hplace,
      FileSystem.get?_put_self (FileSystem.isGiven_eq_false hplace)⟩
    exact List.mem_append_right _ List.mem_cons_self
  | fileless h => exact absurd h hfile
  | unguarded => cases hresult

theorem exists_bound_iff (h : FileOutcome s path permission after result)
    (hfile : ¬ Fileless path) : (∃ bound, result = .ok bound) ↔ s.Takes path := by
  cases h with
  | refused _ htakes => exact iff_of_false nofun htakes
  | lost h => exact iff_of_false nofun h.not_takes
  | placed h => exact iff_of_true ⟨_, rfl⟩ h
  | fileless h => exact absurd h hfile
  | unguarded h => exact absurd h hfile

theorem of_bound_fileless (h : FileOutcome s path permission after result) {bound : Bound}
    (hresult : result = .ok bound) (hfileless : Fileless path) : after.files = s.files := by
  cases h with
  | refused => cases hresult
  | lost => cases hresult
  | placed h => exact absurd h (System.not_takes_of_fileless hfileless)
  | fileless _ hfiles _ => exact hfiles
  | unguarded => cases hresult

end FileOutcome

/-- Listening on a file changes nothing at any other place, and nothing at all if the socket is
refused, unless the path loses its file. The socket is bound if the path takes it, and then it is a
new one at the path, under the rights that the permission asks for. -/
theorem resolve_file_socket {s : System} {target : Target} {path : String}
    (factory : TunnelFactory) (flags : Flags) (hpath : target.socketPath? = some path) :
    let r := resolve s factory target flags
    let place := Place.ofPath path
    (∀ elsewhere, elsewhere ≠ place → r.system.files.get? elsewhere = s.files.get? elsewhere) ∧
    (∀ address fault, r.result = .error (.failure (.bind address fault)) →
      ¬ s.LosesFile path → r.system = s) ∧
    (s.LosesFile path → (∃ fault, r.result = .error (.failure (.bind ("unix:" ++ path) fault))) ∧
      s.files.get? place ≠ none ∧ r.system.files.get? place = none) ∧
    (¬ Fileless path → ((∃ bound, r.result = .ok bound) ↔ s.Takes path)) ∧
    (∀ bound, r.result = .ok bound → ¬ Fileless path →
      bound = .unix path s.nextSocket ∧ s.nextSocket ∈ r.system.listening ∧
      s.files.get? place ≠ some .directory ∧
      r.system.files.get? place = some (.socket s.nextSocket (rightsFor target.permission))) ∧
    (∀ bound, r.result = .ok bound → Fileless path → r.system.files = s.files) ∧
    (∀ p, target.permission = some p → (rightsFor target.permission).mode = p.mode.toNat % 4096) ∧
    (s.Numbered → r.system.Numbered ∧
      ∀ elsewhere rights, s.files.get? elsewhere ≠ some (.socket s.nextSocket rights)) := by
  intro r place
  have houtcome := fileOutcome_resolve (s := s) factory flags hpath
  refine ⟨fun elsewhere hne => houtcome.frame hne,
    fun address fault hresult hloses => houtcome.of_refused hresult hloses,
    houtcome.of_losesFile, houtcome.exists_bound_iff,
    fun bound hresult hfile => houtcome.of_bound hresult hfile,
    fun bound hresult hfileless => houtcome.of_bound_fileless hresult hfileless, ?_, ?_⟩
  · intro p hp
    rw [hp]
    rfl
  · intro hs
    refine ⟨houtcome.numbered hs, fun elsewhere rights hget => ?_⟩
    exact absurd (hs elsewhere s.nextSocket rights hget) (Nat.lt_irrefl _)

/-- A file left over from an earlier run. -/
theorem resolve_file_socket_replacing :
    let target : Target := ⟨"unix:/a.sock", some { mode := 384 }⟩
    let files : FileSystem := { entries := [(["/", "a.sock"], .socket 0 {})] }
    let r := resolve { files, nextSocket := 1 } unavailableTunnel target (.make .admin false none)
    target.socketPath? = some "/a.sock" ∧ r.result.isOk = true ∧
      r.system.files.get? (.ofPath "/a.sock") = some (.socket 1 { mode := 384 }) := by
  intro target files r
  have hpath : target.socketPath? = some "/a.sock" := by decide +kernel
  have hok : r.result.isOk = true := by decide +kernel
  cases hresult : r.result with
  | error halt =>
    rw [hresult] at hok
    cases hok
  | ok bound =>
    obtain ⟨-, -, -, -, hbound, -⟩ :=
      resolve_file_socket (s := { files, nextSocket := 1 }) unavailableTunnel
        (.make .admin false none) hpath
    exact ⟨hpath, rfl, (hbound bound hresult (by decide +kernel)).2.2.2⟩

/-- A file whose path is too long for a socket. -/
theorem resolve_loses_file :
    let path := String.ofList ('/' :: List.replicate 107 'a')
    let target : Target := ⟨"unix:" ++ path, none⟩
    let files : FileSystem := { entries := [(Place.ofPath path, .file [])] }
    let r := resolve { files } unavailableTunnel target (.make .public false none)
    target.socketPath? = some path ∧
      (∃ fault, r.result = .error (.failure (.bind ("unix:" ++ path) fault))) ∧
      files.get? (.ofPath path) = some (.file []) ∧
      r.system.files.get? (.ofPath path) = none := by
  intro path target files r
  have hchars : path.toList = '/' :: List.replicate 107 'a' := String.toList_ofList
  have hlength : path.utf8ByteSize = 108 := by decide +kernel
  have hplaces : Place.passed path = [["/"]] ∧ (Place.ofPath path).isGiven = false := by
    decide +kernel
  have hpath : target.socketPath? = some path := Target.socketPath?_unixMark path none
  have hget : files.get? (.ofPath path) = some (.file []) := by
    simp [FileSystem.get?, hplaces.2, files]
  have hfind : files.find path = .ok (.file []) := by
    rw [FileSystem.find_eq_ok_iff, FileSystem.refused?_eq_none_iff, FileSystem.reach_eq_ok_iff,
      hplaces.1, hchars, hlength]
    refine ⟨⟨fun hempty => ?_, by decide, by decide⟩, by decide, hget, fun _ => ?_⟩
    · rw [hempty] at hchars
      cases hchars
    · rw [FileSystem.endsInSlash, hchars]
      decide
  have hloses : System.LosesFile { files } path :=
    ⟨⟨.file [], hfind, by decide, rfl⟩, .inl (by rw [hlength]; decide)⟩
  obtain ⟨hresult, -, hgone⟩ := (fileOutcome_resolve unavailableTunnel
    (.make .public false none) hpath).of_losesFile hloses
  exact ⟨hpath, hresult, hget, hgone⟩

end DualServer.Transport
