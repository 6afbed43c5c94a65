import DnsFilter.Proofs.Log.RotationSteps
/-!
# Rotations that fail

A rotation that cannot begin leaves everything as it is, also one that panics because a counter runs
over. One that fails later has already changed the
files: a predecessor that cannot be read leaves an empty archive behind each time, and where the
archives cannot be pruned the active file is gone.
-/
namespace DnsFilter

def Disk.nodeUnder (d : Disk) (text : String) : Except FileError Node := (d.find text).map (·.2)

/-- What is seen of a log: its active file, its predecessor, and its archives with their names. -/
structure LogView where
  active : Except FileError Node
  predecessor : Except FileError Node
  archives : Except FileError (List (String × Except FileError Node))
  deriving DecidableEq

namespace LogFiles

def view (f : LogFiles) (d : Disk) : LogView where
  active := d.nodeUnder f.active
  predecessor := d.nodeUnder f.predecessor
  archives := (f.archives d).map fun names => names.map fun name => (name, d.nodeUnder (f.pathOf name))

/-- The predecessor is a directory, and the archive that would be made of it is there already, and
empty. -/
def RepeatsArchive (f : LogFiles) (b : Build) (now : Timestamp) (d : Disk) : Prop :=
  d.hasDirectory f.predecessor = true ∧ ∃ path, f.archiveFor b now d = .ok path ∧
    d.nodeUnder path = .ok (.packed [])

section
variable {f : LogFiles} {b : Build} {now : Timestamp} {d d' : Disk}

theorem nodeUnder_eq_ok {text : String} {n : Node} :
    d.nodeUnder text = .ok n ↔ ∃ r, d.find text = .ok (r, n) := by
  unfold Disk.nodeUnder
  cases d.find text with
  | error e => simp [Except.map]
  | ok found =>
    simp only [Except.map, Except.ok.injEq]
    constructor
    · rintro rfl
      exact ⟨found.1, rfl⟩
    · rintro ⟨r, rfl⟩
      rfl

theorem nodeUnder_ne {text : String} (h : d.has text = true) (h' : d'.has text = false) :
    d'.nodeUnder text ≠ d.nodeUnder text := by
  obtain ⟨r, n, hfind⟩ := Disk.exists_find_of_has h
  unfold Disk.nodeUnder
  rw [hfind]
  intro hsame
  cases hfind' : d'.find text with
  | error e =>
    rw [hfind'] at hsame
    cases hsame
  | ok found => exact absurd (Disk.has_of_find hfind') (by simp [h'])

theorem view_ne_of_active (h : d.has f.active = true) (h' : d'.has f.active = false) :
    f.view d' ≠ f.view d := fun hsame => nodeUnder_ne h h' (congrArg LogView.active hsame)

theorem nextArchive_special (now : Timestamp) (names : List String) :
    '/' ∉ (LogName.nextArchive now names).toList ∧ LogName.nextArchive now names ≠ "" ∧
      LogName.nextArchive now names ≠ "." ∧ LogName.nextArchive now names ≠ ".." := by
  refine ⟨fun hslash => (LogName.nextArchive_chars now names '/' hslash).1 rfl, ?_⟩
  have hlength := (LogName.archiveStart_prefix_nextArchive now names).length_le
  exact Disk.not_special_of_length (Nat.lt_of_lt_of_le (by decide) hlength)

theorem place_of_next {names : List String} {q : Path} (hnames : f.archives d = .ok names)
    (hlocate : d.locate (f.nextPath now names) = .ok q) :
    ∃ p, d.IsAt f.dir p ∧ q = p ++ [LogName.nextArchive now names] ∧
      Disk.IsPlainName (LogName.nextArchive now names) := by
  obtain ⟨hslash, hspecial⟩ := nextArchive_special now names
  obtain ⟨p, hp, rfl, hplain⟩ := Disk.isFolder_of_locate hslash hspecial hlocate
  obtain ⟨p', hplace, -⟩ := isAt_of_archives hnames
  obtain rfl := hp.unique (.inr hplace)
  exact ⟨p, hplace, rfl, hplain⟩

/-- Where a rotation stops with an empty archive, this is seen unless it was there before. -/
theorem view_stuck_iff {path : String} {q : Path} (harchive : f.archiveFor b now d = .ok path)
    (hlocate : d.locate path = .ok q) (hfile : d.isDirectory q = false) :
    f.view (d.put q (.packed [])) = f.view d ↔ d.nodeUnder path = .ok (.packed []) := by
  obtain ⟨names, hnames, hnew⟩ := archiveFor_eq_ok.mp harchive
  obtain ⟨-, rfl⟩ := newPath_eq_ok.mp hnew
  obtain ⟨p, hplace, rfl, hplain⟩ := place_of_next hnames hlocate
  have hmade := hplace.of_keepsDirectories (Disk.keepsDirectories_put hfile (.packed []))
  generalize hname : LogName.nextArchive now names = name at hlocate hfile hplain hmade
  have hpath : f.nextPath now names = f.pathOf name := by rw [nextPath, hname]
  rw [hpath]
  constructor
  · intro hview
    have hfound : (d.put (p ++ [name]) (.packed [])).nodeUnder (f.pathOf name) =
        .ok (.packed []) := by
      have hlocate' := Disk.locate_put hfile (.packed []) (hpath ▸ hlocate)
      refine nodeUnder_eq_ok.mpr ⟨p ++ [name], Disk.find_eq_ok.mpr ⟨hlocate', ?_⟩⟩
      rw [Disk.node?_put d hfile, if_pos rfl]
    have hlisted : name ∈ LogName.archives ((d.put (p ++ [name]) (.packed [])).children p) := by
      refine LogName.mem_archives.mpr ⟨Disk.mem_children.mpr ?_, ?_⟩
      · rw [Disk.entry_put, if_pos rfl]
        rfl
      · rw [← hname]
        exact LogName.isArchive_nextArchive now names
    have harchives := congrArg LogView.archives hview
    simp only [view, archives_of_isAt hmade, hnames, Except.map, Except.ok.injEq] at harchives
    have hshown := List.mem_map_of_mem
      (f := fun other => (other, (d.put (p ++ [name]) (.packed [])).nodeUnder (f.pathOf other)))
      hlisted
    rw [harchives] at hshown
    obtain ⟨other, -, hpair⟩ := List.mem_map.mp hshown
    obtain ⟨rfl, hsame⟩ := Prod.mk.inj hpair
    exact hsame.trans hfound
  · intro hthere
    obtain ⟨r, hfind⟩ := nodeUnder_eq_ok.mp hthere
    obtain ⟨hlocate', hnode⟩ := Disk.find_eq_ok.mp hfind
    obtain rfl := Disk.locate_unique (hpath ▸ hlocate) hlocate'
    have hentry : (d.entry p name).isSome = true := by
      rw [← Disk.node?_entry d p hplain.no_slash, hnode]
      rfl
    have hsame (r : Path) : (d.put (p ++ [name]) (.packed [])).node? r = d.node? r := by
      rw [Disk.node?_put d hfile]
      split_ifs with hr
      · rw [hr, hnode]
      · rfl
    have hfind' := Disk.find_congr hsame
    have harchives : f.archives (d.put (p ++ [name]) (.packed [])) = f.archives d := by
      rw [archives_of_isAt hmade, archives_of_isAt hplace,
        Disk.children_put_of_entry d p name _ hentry]
    simp only [view, Disk.nodeUnder, hfind', harchives]

/-- A rotation that fails leaves the active file, the predecessor and the archives as they are if it
could not begin, and then it changes nothing at all. Otherwise they have changed, unless an empty
archive was made in the place of one. -/
theorem failed_rotation_changes_nothing_iff {maxArchives : Nat} {e : FileError}
    (h : (f.rotate b maxArchives now).perform d = (.error e, d')) :
    (¬f.CanBegin b now d → d' = d) ∧
      (f.view d' = f.view d ↔ ¬f.CanBegin b now d ∨ f.RepeatsArchive b now d) := by
  have hactive : d.has f.active = true := by
    by_contra hnone
    rw [rotate_of_not_has (Bool.not_eq_true _ ▸ hnone)] at h
    cases (Prod.mk.inj h).1
  have hcourse := rotate_course hactive h
  cases hcourse with
  | idle _ hbegin => exact ⟨fun _ => rfl, iff_of_true rfl (.inl hbegin)⟩
  | stuck hdirectory hpath hlocate hfile hstore =>
    have hbegin : f.CanBegin b now d := by
      obtain ⟨r, hthere⟩ := Disk.find_of_hasDirectory hdirectory
      rw [CanBegin, if_pos (Disk.has_of_find hthere)]
      exact ⟨_, _, hpath, hstore⟩
    refine ⟨fun hnot => absurd hbegin hnot, ?_⟩
    rw [view_stuck_iff hpath hlocate hfile, or_iff_right (not_not_intro hbegin)]
    constructor
    · intro hthere
      exact ⟨hdirectory, _, hpath, hthere⟩
    · rintro ⟨-, path, hpath', hthere⟩
      obtain rfl := Except.ok.inj (hpath.symm.trans hpath')
      exact hthere
  | moved harchived hrename hprune =>
    have hbegin := harchived.canBegin hrename
    have hgone : d'.has f.active = false := by
      have hrenamed := Disk.not_has_of_rename LogName.isPlainName_active
        LogName.isPlainName_predecessor active_ne_predecessor hrename
      have hpruned := prune_not_has (f := f) hrenamed maxArchives
      rwa [hprune] at hpruned
    refine ⟨fun hnot => absurd hbegin hnot, iff_of_false (view_ne_of_active hactive hgone) ?_⟩
    rintro (hnot | ⟨hdirectory, -⟩)
    · exact hnot hbegin
    · exact absurd (hdirectory.symm.trans harchived.not_directory) (by decide)

end

/-- A directory among the archives is not removed. The rotation that prunes it has failed, but the
active file is gone. -/
theorem directory_among_archives_loses_active :
    let f : LogFiles := ⟨"log"⟩
    let d : Disk := ⟨[(["log"], .directory), (["log", "querylog.json.old.gz"], .directory),
      (["log", "querylog.json"], .plain [98, 10])]⟩
    let d' : Disk := ⟨[(["log"], .directory), (["log", "querylog.json.old.gz"], .directory),
      (["log", "querylog.json.1"], .plain [98, 10])]⟩
    (f.rotate .checked 0 ⟨1704067200, 0⟩).perform d = (.error .isDirectory, d') ∧ f.view d' ≠ f.view d := by
  intro f d d'
  have hfails : (f.rotate .checked 0 ⟨1704067200, 0⟩).perform d = (.error .isDirectory, d') := by
    decide +kernel
  have hbegin : f.CanBegin .checked ⟨1704067200, 0⟩ d := by
    have hfree : d.has f.predecessor = false := by decide +kernel
    rw [CanBegin, if_neg (by simp [hfree])]
    exact ⟨d', by decide +kernel⟩
  refine ⟨hfails, ?_⟩
  rw [ne_eq, (failed_rotation_changes_nothing_iff hfails).2, not_or, not_not]
  refine ⟨hbegin, ?_⟩
  rintro ⟨hdirectory, -⟩
  exact absurd hdirectory (by decide +kernel)

/-- With a directory in the place of the predecessor, every rotation fails and leaves one more empty
archive. -/
theorem retries_pile_up_archives :
    let f : LogFiles := ⟨"log"⟩
    let d : Disk := ⟨[(["log"], .directory), (["log", "querylog.json.1"], .directory),
      (["log", "querylog.json"], .plain [98, 10])]⟩
    let first : Disk :=
      d.put ["log", "querylog.json.20240101T000000.000Z.gz"] (.packed [])
    let second : Disk :=
      first.put ["log", "querylog.json.20240101T010000.000Z.gz"] (.packed [])
    (f.rotate .checked 10 ⟨1704067200, 0⟩).perform d = (.error .isDirectory, first) ∧
      (f.rotate .checked 10 ⟨1704070800, 0⟩).perform first = (.error .isDirectory, second) ∧
      f.view first ≠ f.view d ∧ f.archives d = .ok [] ∧
      f.archives second = .ok ["querylog.json.20240101T000000.000Z.gz",
        "querylog.json.20240101T010000.000Z.gz"] := by
  intro f d first second
  have hplace : second.IsAt f.dir ["log"] := ⟨by decide +kernel, by decide +kernel⟩
  refine ⟨by decide +kernel, by decide +kernel, ?_, by decide +kernel, ?_⟩
  · intro hsame
    have harchives := congrArg LogView.archives hsame
    have hlengths := congrArg (fun a => (a.toOption.getD []).length) harchives
    exact absurd hlengths (by decide +kernel)
  · exact (archives_of_isAt hplace).trans (congrArg Except.ok
      (LogName.archives_eq_of_perm (by decide +kernel) (by decide +kernel)))

end LogFiles
end DnsFilter
