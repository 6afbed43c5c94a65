import DnsFilter.Proofs.Storage.Entries
/-!
# Files that take the place of others

A folder in which files are written under another name and renamed when they are complete. What
this changes is said name by name: the file that is written, the one whose place is taken, and
nothing else. An empty path stands for the working directory.
-/
namespace DnsFilter.Disk

/-- A directory is there, at a place. The empty path is that of the working directory. -/
def IsFolder (d : Disk) (dir : String) (p : Path) : Prop := dir = "" ∧ p = [] ∨ d.IsAt dir p

def SameFolder (dir : String) (d d' : Disk) : Prop :=
  ∀ p, d.IsFolder dir p → d'.IsFolder dir p ∧ ∀ name, d'.entry p name = d.entry p name

def contentOf : Option Node → Except FileError Bytes
  | none => .error .missing
  | some .directory => .error .isDirectory
  | some (.plain content) => .ok content
  | some (.packed content) => .ok content

section
variable {d : Disk} {dir : String} {p : Path} (h : d.IsFolder dir p)
include h

theorem IsFolder.locate_join {name : String} (hname : IsPlainName name) :
    d.locate (join dir name) = (checkText (join dir name)).map fun _ => p ++ [name] := by
  rcases h with ⟨rfl, rfl⟩ | hat
  · obtain ⟨hne, -⟩ := hname.not_special
    have hjoin : join "" name = name := by simp [join]
    have hnames : names name = [name] := by
      rw [names_eq, splitOn_of_notMem hname.no_slash]
      simp only [List.map_cons, List.map_nil, String.ofList_toList, rooted]
      split
      case h_1 heq => exact absurd (List.cons.inj heq).1 hne
      case h_2 => rfl
    rw [hjoin, locate, hnames]
    cases checkText name with
    | error e => rfl
    | ok _ =>
      change [name].foldlM d.enter [] = _
      rw [List.foldlM_cons, enter_plain rfl hname]
      rfl
  · exact Disk.locate_join hat hname

theorem IsFolder.of_sameBut {d' : Disk} {touched : List String} (hsame : SameBut p touched d d')
    (hfiles : ∀ name ∈ touched, '/' ∉ name.toList ∧ d.entry p name ≠ some .directory) :
    d'.IsFolder dir p := by
  rcases h with hempty | hat
  · exact .inl hempty
  · refine .inr (IsAt.of_sameBut hsame (fun name hname => ?_) hat)
    obtain ⟨hslash, hfile⟩ := hfiles name hname
    rw [isDirectory, node?_entry d p hslash]
    simpa using hfile

/-- A folder is not made again. -/
theorem IsFolder.makeDirectories : (OnDisk.makeDirectories dir).perform d = (.ok (), d) := by
  rcases h with ⟨rfl, -⟩ | hat
  · rfl
  · exact OnDisk.makeDirectories_isAt hat

variable {name : String} (hname : IsPlainName name)
include hname

theorem IsFolder.eq_of_locate {q : Path} (hq : d.locate (join dir name) = .ok q) :
    q = p ++ [name] := by
  rw [h.locate_join hname] at hq
  cases htext : checkText (join dir name) <;> rw [htext] at hq <;> cases hq
  rfl

theorem IsFolder.find_join :
    d.find (join dir name) = (checkText (join dir name)).bind fun _ =>
      match d.entry p name with
      | some n => .ok (p ++ [name], n)
      | none => .error .missing := by
  unfold find
  rw [h.locate_join hname]
  cases checkText (join dir name) with
  | error e => rfl
  | ok _ =>
    rw [← node?_entry d p hname.no_slash]
    rfl

theorem IsFolder.read_join :
    d.read (join dir name) =
      (checkText (join dir name)).bind fun _ => contentOf (d.entry p name) := by
  rw [read, h.find_join hname]
  cases checkText (join dir name) with
  | error e => rfl
  | ok _ => rcases d.entry p name with _ | _ | _ | _ <;> rfl

theorem IsFolder.read_congr {d' : Disk} (h' : d'.IsFolder dir p)
    (hentry : d'.entry p name = d.entry p name) : d'.read (join dir name) = d.read (join dir name) := by
  rw [h.read_join hname, h'.read_join hname, hentry]

theorem IsFolder.read_of_not_file {e : FileError} (hentry : contentOf (d.entry p name) = .error e)
    (content : Bytes) : d.read (join dir name) ≠ .ok content := by
  rw [h.read_join hname, hentry]
  cases checkText (join dir name) <;> simp [Except.bind]

/-! ## Writing -/

theorem IsFolder.write_join {content : Bytes} {d' : Disk}
    (hwrite : d.write (join dir name) content = .ok d') :
    d'.IsFolder dir p ∧ d'.entry p name = some (.plain content) ∧
      ∀ other, other ≠ name → d'.entry p other = d.entry p other := by
  obtain ⟨q, hq, hfile, rfl⟩ := store_eq_ok hwrite
  obtain rfl := h.eq_of_locate hname hq
  rw [isDirectory, node?_entry d p hname.no_slash] at hfile
  refine ⟨h.of_sameBut (sameBut_put d p name _) ?_, ?_, fun other hother => ?_⟩
  · intro other hother
    obtain rfl := List.mem_singleton.mp hother
    exact ⟨hname.no_slash, by simpa using hfile⟩
  · rw [entry_put, if_pos rfl]
  · rw [entry_put, if_neg hother]

/-! ## Renaming -/

omit h hname in
theorem rename_eq_ok {d' : Disk} {source target : String} {a : Path} {n : Node}
    (hsource : d.find source = .ok (a, n)) (hfile : n ≠ .directory)
    (hrename : d.rename source target = .ok d') :
    ∃ b, d.locate target = .ok b ∧
      (a = b ∧ d' = d ∨ d.node? b = none ∧ d' = d.moveTree a b ∨
        d.isDirectory b = false ∧ d' = (d.without b).moveTree a b) := by
  unfold rename at hrename
  rw [hsource] at hrename
  cases hlocate : d.locate target with
  | error e =>
    rw [hlocate] at hrename
    cases hrename
  | ok b =>
    rw [hlocate] at hrename
    refine ⟨b, rfl, ?_⟩
    change (if _ then _ else if _ then _ else _) = _ at hrename
    by_cases hparent : (!d.isDirectory b.dropLast) = true
    · rw [if_pos hparent] at hrename
      cases hrename
    by_cases hsame : a = b
    · rw [if_neg hparent, if_pos hsame] at hrename
      exact .inl ⟨hsame, (Except.ok.inj hrename).symm⟩
    · rw [if_neg hparent, if_neg hsame] at hrename
      right
      cases hold : d.node? b with
      | none =>
        rw [hold] at hrename
        left
        cases n <;> exact ⟨rfl, (Except.ok.inj hrename).symm⟩
      | some m =>
        rw [hold] at hrename
        right
        cases n <;> cases m
        all_goals first
          | exact absurd rfl hfile
          | cases hrename
        all_goals exact ⟨by simp [isDirectory, hold], rfl⟩

/-- A file that is moved to a free name stands there, and all others stay. -/
theorem IsFolder.moveTree_join {n : Node} (hentry : d.entry p name = some n)
    (hfile : n ≠ .directory) {target : String} (htarget : IsPlainName target)
    (hne : name ≠ target) (hfree : d.entry p target = none) :
    (d.moveTree (p ++ [name]) (p ++ [target])).IsFolder dir p ∧
      ∀ other, other ≠ name → (d.moveTree (p ++ [name]) (p ++ [target])).entry p other =
        if other = target then some n else d.entry p other := by
  refine ⟨h.of_sameBut (sameBut_moveTree d) ?_, fun other hother => ?_⟩
  · intro other hother
    rcases List.mem_cons.mp hother with rfl | hother
    · exact ⟨hname.no_slash, by simpa [hentry] using hfile⟩
    · obtain rfl := List.mem_singleton.mp hother
      exact ⟨htarget.no_slash, by simp [hfree]⟩
  · rw [entry_moveTree d hne hfree, if_neg hother, hentry]

theorem IsFolder.rename_join {content : Bytes} (hentry : d.entry p name = some (.plain content))
    {target : String} (htarget : IsPlainName target) (hne : name ≠ target) {d' : Disk}
    (hrename : d.rename (join dir name) (join dir target) = .ok d') :
    d'.IsFolder dir p ∧ d'.read (join dir target) = .ok content ∧
      ∀ other, other ≠ name → other ≠ target → d'.entry p other = d.entry p other := by
  have hfile : Node.plain content ≠ .directory := by simp
  have hfind : d.find (join dir name) = .ok (p ++ [name], .plain content) := by
    cases hfound : d.find (join dir name) with
    | error e =>
      rw [rename, hfound] at hrename
      cases hrename
    | ok found =>
      rw [h.find_join hname, hentry] at hfound
      cases htext : checkText (join dir name) <;> rw [htext] at hfound <;> cases hfound
      rfl
  obtain ⟨b, hb, hcases⟩ := rename_eq_ok hfind hfile hrename
  have htext : checkText (join dir target) = .ok () := (checkText_of_locate hb).1
  obtain rfl := h.eq_of_locate htarget hb
  -- at its new name the file is read as it was written
  have hread (e : Disk) (he : e.IsFolder dir p) (hthere : e.entry p target = some (.plain content)) :
      e.read (join dir target) = .ok content := by
    rw [he.read_join htarget, hthere, htext]
    rfl
  rcases hcases with ⟨hsame, -⟩ | ⟨hfree, rfl⟩ | ⟨hold, rfl⟩
  · exact absurd (concat_inj hsame) hne
  · rw [node?_entry d p htarget.no_slash] at hfree
    obtain ⟨hfolder, hentries⟩ := h.moveTree_join hname hentry hfile htarget hne hfree
    refine ⟨hfolder, hread _ hfolder ?_, fun other hother hother' => ?_⟩
    · rw [hentries target hne.symm, if_pos rfl]
    · rw [hentries other hother, if_neg hother']
  · rw [isDirectory, node?_entry d p htarget.no_slash] at hold
    have hwithout : (d.without (p ++ [target])).IsFolder dir p := by
      refine h.of_sameBut (sameBut_without d p target) fun other hother => ?_
      obtain rfl := List.mem_singleton.mp hother
      exact ⟨htarget.no_slash, by simpa using hold⟩
    have hkept {other : String} (hother : other ≠ target) :
        (d.without (p ++ [target])).entry p other = d.entry p other := by
      rw [entry_without, if_neg hother]
    have hfree : (d.without (p ++ [target])).entry p target = none := by
      rw [entry_without, if_pos rfl]
    obtain ⟨hfolder, hentries⟩ :=
      hwithout.moveTree_join hname ((hkept hne).trans hentry) hfile htarget hne hfree
    refine ⟨hfolder, hread _ hfolder ?_, fun other hother hother' => ?_⟩
    · rw [hentries target hne.symm, if_pos rfl]
    · rw [hentries other hother, if_neg hother', hkept hother']

end

theorem isFolder_of_makeDirectories {dir : String} {d d' : Disk}
    (h : (OnDisk.makeDirectories dir).perform d = (.ok (), d')) : ∃ p, d'.IsFolder dir p := by
  by_cases hempty : dir = ""
  · exact ⟨[], .inl ⟨hempty, rfl⟩⟩
  · obtain ⟨p, hp⟩ := OnDisk.isAt_of_makeDirectories hempty h
    exact ⟨p, .inr hp⟩

end DnsFilter.Disk
