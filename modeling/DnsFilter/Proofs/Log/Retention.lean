import DnsFilter.Proofs.Log.Rotation
import DnsFilter.Proofs.Storage.Spellings
/-!
# What a rotation keeps

A rotation loses nothing but the oldest archives beyond the number that is kept: the predecessor is
the newest archive then, and the active file is the predecessor. It depends on the names of the
archives, whose order has to be that of their making, and on the length of paths.
-/
namespace DnsFilter

/-- What a path shows: a file, or that nothing is there. -/
def Disk.Shows (d : Disk) (text : String) : Option Node → Prop
  | some n => (d.find text).map (·.2) = .ok n ∧ n ≠ .directory
  | none => d.find text = .error .missing

instance (d : Disk) (text : String) : (n? : Option Node) → Decidable (d.Shows text n?)
  | some _ => inferInstanceAs (Decidable (_ ∧ _))
  | none => inferInstanceAs (Decidable (_ = _))

namespace LogNodes

/-- The files after a rotation: the last archives of those that were there and the one that is made
of the predecessor, and the active file in the place of the predecessor. -/
def rotated (y : LogNodes) (now : Timestamp) (maxArchives : Nat) : LogNodes where
  archives := (y.archives ++ y.made now).drop ((y.archives ++ y.made now).length - maxArchives)
  predecessor := y.active
  active := none

/-- The archives were made before `now`, no two of them under names of the same place in the order,
and their counters are below the highest one. -/
structure IsOrderly (y : LogNodes) (now : Timestamp) : Prop where
  distinct : (y.names.map fun name => LogName.order name.toList).Nodup
  past : ∀ name ∈ y.names, Text.AtMost (LogName.order name.toList).stamp now.stamp.toList
  counters : ∀ name ∈ y.names, (LogName.order name.toList).counter < Text.limit32 - 1

theorem IsOrderly.not_runsOver {y : LogNodes} {now : Timestamp} (h : y.IsOrderly now) :
    LogName.runsOver now.stamp.toList y.names = false := by
  rw [LogName.runsOver_eq_false_iff]
  intro name hname _
  have hlt := h.counters name hname
  omega

end LogNodes

namespace LogFiles

/-- The directory of a log shows these files at their paths, and lists each of its names once. -/
structure Shows (f : LogFiles) (d : Disk) (y : LogNodes) : Prop where
  listed : ∃ listed, d.list f.dir = .ok listed ∧ listed.Nodup
  names : f.archives d = .ok y.names
  archives : ∀ a ∈ y.archives, Disk.IsPlainName a.1 ∧ d.Shows (f.pathOf a.1) (some a.2)
  predecessor : d.Shows f.predecessor y.predecessor
  active : d.Shows f.active y.active

section
variable {f : LogFiles} {p : Path} {d : Disk} {y : LogNodes}

theorem entry_of_shows (h : d.IsAt f.dir p) {name : String} (hname : Disk.IsPlainName name)
    {n? : Option Node} (hshows : d.Shows (f.pathOf name) n?) :
    Disk.Fits f.dir name ∧ d.entry p name = n? ∧ n? ≠ some .directory := by
  cases n? with
  | none =>
    obtain ⟨hfits, hentry⟩ := Disk.entry_of_missing h hname hshows
    exact ⟨hfits, hentry, by simp⟩
  | some n =>
    obtain ⟨hfound, hfile⟩ := hshows
    cases hfind : d.find (f.pathOf name) with
    | error e =>
      rw [hfind] at hfound
      cases hfound
    | ok found =>
      rw [hfind] at hfound
      obtain rfl := Except.ok.inj hfound
      obtain ⟨hfits, hentry⟩ := Disk.entry_of_find h hname hfind
      exact ⟨hfits, hentry, by simpa using hfile⟩

theorem shows_of_entry (h : d.IsAt f.dir p) {name : String} (hname : Disk.IsPlainName name)
    (hfits : Disk.Fits f.dir name) (hfile : d.entry p name ≠ some .directory) :
    d.Shows (f.pathOf name) (d.entry p name) := by
  have hfind := Disk.find_join h hname hfits
  cases hentry : d.entry p name with
  | none =>
    rw [hentry] at hfind
    exact hfind
  | some n =>
    rw [hentry] at hfind hfile
    have hshown : (d.find (f.pathOf name)).map (·.2) = .ok n := by rw [pathOf, hfind]; rfl
    exact ⟨hshown, by simpa using hfile⟩

theorem Shows.names_eq (h : f.Shows d y) (hplace : d.IsAt f.dir p) :
    y.names = LogName.archives (d.children p) :=
  Except.ok.inj (h.names.symm.trans (archives_of_isAt hplace))

theorem Shows.ascending (h : f.Shows d y) (hplace : d.IsAt f.dir p)
    (hdistinct : (y.names.map fun name => LogName.order name.toList).Nodup) :
    LogName.IsAscending y.names := by
  have hnames := h.names_eq hplace
  rw [hnames] at hdistinct ⊢
  exact LogName.isAscending_archives hdistinct

theorem Shows.archived (h : f.Shows d y) (hplace : d.IsAt f.dir p) {a : String × Node}
    (ha : a ∈ y.archives) :
    Disk.IsPlainName a.1 ∧ Disk.Fits f.dir a.1 ∧ d.entry p a.1 = some a.2 ∧ a.2 ≠ .directory := by
  obtain ⟨hplain, hshows⟩ := h.archives a ha
  obtain ⟨hfits, hentry, hfile⟩ := entry_of_shows hplace hplain hshows
  exact ⟨hplain, hfits, hentry, by simpa using hfile⟩

theorem Shows.lookup_archives (h : f.Shows d y) (hplace : d.IsAt f.dir p)
    (hnodup : y.names.Nodup) {name : String} (hname : LogName.isArchive name.toList = true) :
    d.entry p name = y.archives.lookup name := by
  by_cases hmem : name ∈ y.names
  · obtain ⟨a, ha, rfl⟩ := List.mem_map.mp hmem
    rw [(h.archived hplace ha).2.2.1, eq_comm, lookup_eq_some_iff_mem hnodup]
    exact ha
  · rw [lookup_of_notMem hmem]
    have hnot : ¬(d.entry p name).isSome = true := by
      intro hsome
      rw [h.names_eq hplace, LogName.mem_archives] at hmem
      exact hmem ⟨Disk.mem_children.mpr hsome, hname⟩
    simpa using hnot

theorem Shows.has (h : f.Shows d y)
    (hdistinct : (y.names.map fun name => LogName.order name.toList).Nodup) :
    ∃ p, f.Has p d y ∧ Disk.Fits f.dir LogName.active ∧ Disk.Fits f.dir LogName.predecessor := by
  obtain ⟨listed, hlist, hnodup⟩ := h.listed
  obtain ⟨p, hplace, rfl⟩ := Disk.isAt_of_list hlist
  have hascending := h.ascending hplace hdistinct
  have hlookup {name : String} (hname : LogName.isArchive name.toList = true) :=
    h.lookup_archives hplace hascending.nodup hname
  obtain ⟨hactiveFits, hactive, hactiveFile⟩ :=
    entry_of_shows hplace LogName.isPlainName_active h.active
  obtain ⟨hpredecessorFits, hpredecessor, hpredecessorFile⟩ :=
    entry_of_shows hplace LogName.isPlainName_predecessor h.predecessor
  refine ⟨p, ?_, hactiveFits, hpredecessorFits⟩
  exact {
    place := hplace
    files := by
      rintro name (rfl | rfl | hname)
      · rw [hactive]
        exact hactiveFile
      · rw [hpredecessor]
        exact hpredecessorFile
      · rw [hlookup hname]
        intro hdirectory
        have hmem := (lookup_eq_some_iff_mem hascending.nodup).mp hdirectory
        exact (h.archived hplace hmem).2.2.2 rfl
    active_fits := fun _ => hactiveFits
    predecessor_fits := fun _ => hpredecessorFits
    nodup := hnodup
    archives := fun _ hname => hlookup hname
    ascending := hascending
    named := fun name hname => by
      obtain ⟨a, ha, rfl⟩ := List.mem_map.mp hname
      have hlisted : a.1 ∈ LogName.archives (d.children p) := h.names_eq hplace ▸ hname
      obtain ⟨hplain, hfits, -⟩ := h.archived hplace ha
      exact ⟨(LogName.mem_archives.mp hlisted).2, hplain, hfits⟩
    predecessor := hpredecessor
    active := hactive }

theorem Has.shows (h : f.Has p d y) (hactive : Disk.Fits f.dir LogName.active)
    (hpredecessor : Disk.Fits f.dir LogName.predecessor) : f.Shows d y where
  listed := ⟨_, Disk.list_eq_children h.place, h.nodup⟩
  names := h.archives_eq
  archives a ha := by
    have hmem : a.1 ∈ y.names := List.mem_map_of_mem ha
    obtain ⟨hname, hplain, hfits⟩ := h.named a.1 hmem
    have hshows := shows_of_entry h.place hplain hfits (h.files a.1 (.inr (.inr hname)))
    rw [h.archives a.1 hname, (lookup_eq_some_iff_mem h.ascending.nodup).mpr ha] at hshows
    exact ⟨hplain, hshows⟩
  predecessor := by
    rw [← h.predecessor]
    exact shows_of_entry h.place LogName.isPlainName_predecessor hpredecessor
      (h.files _ (.inr (.inl rfl)))
  active := by
    rw [← h.active]
    exact shows_of_entry h.place LogName.isPlainName_active hactive (h.files _ (.inl rfl))

theorem isAscending_made {now : Timestamp} (hyear : now.HasFourDigitYear) (horderly : y.IsOrderly now)
    (hascending : LogName.IsAscending y.names) :
    LogName.IsAscending ((y.archives ++ y.made now).map (·.1)) := by
  have hspec := LogName.nextArchive_spec hyear horderly.past (by decide)
    fun name hname _ => horderly.counters name hname
  rw [List.map_append]
  refine List.pairwise_append.mpr ⟨hascending, ?_, ?_⟩
  · rw [LogNodes.made]
    cases y.predecessor.bind Node.content? <;> simp
  · intro name hname last hlast
    obtain ⟨a, ha, rfl⟩ := List.mem_map.mp hlast
    obtain ⟨content, -, rfl⟩ := List.mem_map.mp ha
    exact hspec.2.2 name hname

/-- A rotation of files whose archives are orderly succeeds if the path of the archive that it makes
can be followed, and loses only what pruning may lose. The archives are the last ones of those that
were there and the packed predecessor, the active file is the predecessor with the bytes that it
had, and everything else on the disk stays. If that path is too long, nothing is done. -/
theorem rotation_loses_only_pruned {now : Timestamp} (h : f.Shows d y)
    (hactive : y.active.isSome = true) (horderly : y.IsOrderly now) (hnow : now.IsWellFormed)
    (hyear : now.HasFourDigitYear) (b : Build) (maxArchives : Nat) :
    ((y.predecessor.isSome = true → Disk.Fits f.dir (LogName.nextArchive now y.names)) →
      ∃ d', (f.rotate b maxArchives now).perform d = (.ok (), d') ∧
        f.Shows d' (y.rotated now maxArchives) ∧ ∀ p, d.IsAt f.dir p → SameElsewhere p d d') ∧
    (y.predecessor.isSome = true → ¬Disk.Fits f.dir (LogName.nextArchive now y.names) →
      ∃ e, (f.rotate b maxArchives now).perform d = (.error e, d)) := by
  obtain ⟨p, hhas, hactiveFits, hpredecessorFits⟩ := h.has horderly.distinct
  rw [rotate_eq_released maxArchives fun names hnames => by
    obtain rfl := Except.ok.inj (hnames.symm.trans hhas.archives_eq)
    exact horderly.not_runsOver]
  have hplain := LogName.isPlainName_nextArchive hnow hyear y.names
  have hascending := isAscending_made hyear horderly hhas.ascending
  rcases hhas.rotate hactive hplain (List.Perm.refl _) hascending maxArchives with
    ⟨e, hperform, hlong⟩ | ⟨d', hperform, hafter, hsame, hfits⟩
  · refine ⟨fun hfits => ?_, fun _ _ => ⟨e, hperform⟩⟩
    rcases hlong with hlong | ⟨hthere, hlong⟩
    · exact absurd hpredecessorFits hlong
    · exact absurd (hfits hthere) hlong
  · refine ⟨fun _ => ⟨d', hperform, hafter.shows hactiveFits hpredecessorFits, ?_⟩, ?_⟩
    · intro q hq
      obtain rfl : p = q := Except.ok.inj (hhas.place.locate.symm.trans hq.locate)
      exact hsame
    · intro hthere hlong
      exact absurd (hfits hthere) hlong

end

/-! ## A directory with a few files -/

def newYear : Timestamp := ⟨1704067200, 0⟩

/-- A directory with both current files, archives and another file. -/
def sampleDisk (archives : List (String × Node)) : Disk where
  nodes := [(["log"], .directory), (["log", "notes.txt"], .plain [110]),
    (["log", "querylog.json.1"], .plain [97, 10]), (["log", "querylog.json"], .plain [98, 10])] ++
      archives.map fun a => (["log", a.1], a.2)

/-- The tenth archive of a millisecond is listed before the ninth, but made after it. A third one of
that millisecond comes behind them, and the ninth is pruned. -/
theorem third_archive_of_millisecond :
    ∃ d', ((⟨"log"⟩ : LogFiles).rotate .checked 2 newYear).perform (sampleDisk
          [("querylog.json.20240101T000000.000Z-10.gz", .packed [10]),
            ("querylog.json.20240101T000000.000Z-9.gz", .packed [9])]) = (.ok (), d') ∧
      Shows ⟨"log"⟩ d' {
        archives := [("querylog.json.20240101T000000.000Z-10.gz", .packed [10]),
          ("querylog.json.20240101T000000.000Z-11.gz", .packed [97, 10])]
        predecessor := some (.plain [98, 10]) } := by
  let y : LogNodes := {
    archives := [("querylog.json.20240101T000000.000Z-9.gz", .packed [9]),
      ("querylog.json.20240101T000000.000Z-10.gz", .packed [10])]
    predecessor := some (.plain [97, 10])
    active := some (.plain [98, 10]) }
  have hplace : (sampleDisk [("querylog.json.20240101T000000.000Z-10.gz", .packed [10]),
      ("querylog.json.20240101T000000.000Z-9.gz", .packed [9])]).IsAt "log" ["log"] :=
    ⟨by decide +kernel, by decide +kernel⟩
  have hshows : Shows ⟨"log"⟩ (sampleDisk
      [("querylog.json.20240101T000000.000Z-10.gz", .packed [10]),
        ("querylog.json.20240101T000000.000Z-9.gz", .packed [9])]) y := {
    listed := ⟨_, Disk.list_eq_children hplace, by decide +kernel⟩
    names := (archives_of_isAt hplace).trans (congrArg Except.ok
      (LogName.archives_eq_of_perm (by decide +kernel) (by decide +kernel)))
    archives := by decide +kernel
    predecessor := by decide +kernel
    active := by decide +kernel }
  have horderly : y.IsOrderly newYear :=
    ⟨by decide +kernel, by decide +kernel, by decide +kernel⟩
  have hfits : Disk.Fits "log" (LogName.nextArchive newYear y.names) :=
    Disk.fits_of_short (by decide +kernel) (by decide)
  have hrotated : y.rotated newYear 2 = {
      archives := [("querylog.json.20240101T000000.000Z-10.gz", .packed [10]),
        ("querylog.json.20240101T000000.000Z-11.gz", .packed [97, 10])]
      predecessor := some (.plain [98, 10]) } := by decide +kernel
  obtain ⟨d', hperform, hafter, -⟩ :=
    (rotation_loses_only_pruned hshows rfl horderly (by decide +kernel) (by decide +kernel) .checked
      2).1
      fun _ => hfits
  exact ⟨d', hperform, hrotated ▸ hafter⟩

/-- The files of a directory are found by a path that leaves no room for the name of an archive. They
are not rotated. -/
theorem long_path_is_not_rotated :
    ∃ f : LogFiles, ∃ y : LogNodes, f.Shows (sampleDisk []) y ∧ y.active.isSome = true ∧
      y.IsOrderly newYear ∧ newYear.IsWellFormed ∧ newYear.HasFourDigitYear ∧
      ∃ e, (f.rotate .checked 10 newYear).perform (sampleDisk []) = (.error e, sampleDisk []) := by
  let f : LogFiles := ⟨Disk.dotted "log" 2028⟩
  let y : LogNodes := { predecessor := some (.plain [97, 10]), active := some (.plain [98, 10]) }
  have hsize : f.dir.utf8ByteSize = 4059 := Disk.utf8ByteSize_dotted "log" 2028
  have hlog : (sampleDisk []).IsAt "log" ["log"] := ⟨by decide +kernel, by decide +kernel⟩
  have hplace : (sampleDisk []).IsAt f.dir ["log"] := hlog.dotted (by decide)
  have hlimit : Disk.textLimit = 4096 := rfl
  have hfits {name : String} (hname : name.utf8ByteSize ≤ 15) : Disk.Fits f.dir name := by
    have hjoin := (Disk.utf8ByteSize_join f.dir name).2
    unfold Disk.Fits
    omega
  have hshows : f.Shows (sampleDisk []) y := {
    listed := ⟨_, Disk.list_eq_children hplace, by decide +kernel⟩
    names := (archives_of_isAt hplace).trans (congrArg Except.ok
      (LogName.archives_eq_of_perm (by decide +kernel) List.Pairwise.nil))
    archives := by simp [y]
    predecessor := shows_of_entry hplace LogName.isPlainName_predecessor (hfits (by decide))
      (by decide +kernel)
    active := shows_of_entry hplace LogName.isPlainName_active (hfits (by decide))
      (by decide +kernel) }
  have horderly : y.IsOrderly newYear :=
    ⟨by decide +kernel, by decide +kernel, by decide +kernel⟩
  have hnow : newYear.IsWellFormed := by decide +kernel
  have hyear : newYear.HasFourDigitYear := by decide +kernel
  have hlong : ¬Disk.Fits f.dir (LogName.nextArchive newYear y.names) := by
    have hname : (LogName.nextArchive newYear y.names).utf8ByteSize = 37 := by decide +kernel
    have hjoin := (Disk.utf8ByteSize_join f.dir (LogName.nextArchive newYear y.names)).1
    unfold Disk.Fits
    omega
  refine ⟨f, y, hshows, rfl, horderly, hnow, hyear, ?_⟩
  obtain ⟨p, hhas, -, -⟩ := hshows.has horderly.distinct
  rcases hhas.rotate rfl (LogName.isPlainName_nextArchive hnow hyear y.names) (List.Perm.refl _)
      (isAscending_made hyear horderly hhas.ascending) 10 with
    ⟨e, hperform, -⟩ | ⟨d', -, -, -, harchiveFits⟩
  · refine ⟨e, ?_⟩
    rw [rotate_eq_released 10 fun names hnames => by
      obtain rfl := Except.ok.inj (hnames.symm.trans hhas.archives_eq)
      exact horderly.not_runsOver]
    exact hperform
  · exact absurd (harchiveFits rfl) hlong

end LogFiles
end DnsFilter
