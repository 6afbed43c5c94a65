import DnsFilter.Proofs.Log.Folder
/-!
# Rotation of log files

What rotating the files of a log makes of its folder. A rotation is done as a whole or, where a path
is too long, not at all.
-/
namespace DnsFilter.LogFiles

/-- What the archives are once the predecessor is among them. -/
def Archives (x : LogFolder) (now : Timestamp) (all : List (String × Bytes)) : Prop :=
  match x.predecessor with
  | none => all = x.archives
  | some content =>
    all.Perm (x.archives ++ [(LogName.nextArchive now x.names, content)]) ∧
      LogName.IsAscending (all.map (·.1))

section
variable {f : LogFiles} {p : Path} {d : Disk} {x : LogFolder} {now : Timestamp}

theorem Archives.nodes {all : List (String × Bytes)} (hall : Archives x now all)
    (hascending : LogName.IsAscending x.names) :
    (all.map fun a => (a.1, Node.packed a.2)).Perm (x.nodes.archives ++ x.nodes.made now) ∧
      LogName.IsAscending ((all.map fun a => (a.1, Node.packed a.2)).map (·.1)) := by
  have hnames : (all.map fun a => (a.1, Node.packed a.2)).map (·.1) = all.map (·.1) := by simp
  rw [hnames, LogNodes.made, x.names_nodes]
  unfold Archives at hall
  cases hpredecessor : x.predecessor with
  | none =>
    rw [hpredecessor] at hall
    subst hall
    refine ⟨?_, hascending⟩
    simp [LogFolder.nodes, hpredecessor]
  | some content =>
    rw [hpredecessor] at hall
    refine ⟨?_, hall.2⟩
    simpa [LogFolder.nodes, hpredecessor, Node.content?] using
      hall.1.map fun a => (a.1, Node.packed a.2)

theorem rotate_of_not_has (h : d.has f.active = false) (b : Build) (maxArchives : Nat) :
    (f.rotate b maxArchives now).perform d = (.ok (), d) := by
  rw [LogFiles.rotate, OnDisk.perform_bind, OnDisk.perform_has, h]
  rfl

/-- Builds differ only where a counter runs over. -/
theorem rotate_eq_released {b : Build} (maxArchives : Nat) (h : ∀ names, f.archives d = .ok names →
      LogName.runsOver now.stamp.toList names = false) :
    (f.rotate b maxArchives now).perform d = (f.rotate .released maxArchives now).perform d := by
  have hpath : f.archiveFor b now d = f.archiveFor .released now d := by
    cases hnames : f.archives d with
    | error e => simp [archiveFor, hnames, bind, Except.bind]
    | ok names => simp [archiveFor_of_archives hnames, newPath, h names hnames]
  cases hactive : d.has f.active with
  | false => rw [rotate_of_not_has hactive, rotate_of_not_has hactive]
  | true =>
    simp only [rotate_perform_of_has hactive, OnDisk.perform_bind, archivePredecessor,
      OnDisk.perform_look, hpath]

/-- Where a counter runs over, a build with checks panics before it has done anything. -/
theorem rotate_panics (maxArchives : Nat) (hactive : d.has f.active = true)
    (hpredecessor : d.has f.predecessor = true) {names : List String}
    (hnames : f.archives d = .ok names)
    (hover : LogName.runsOver now.stamp.toList names = true) :
    (f.rotate .checked maxArchives now).perform d = (.error .overflow, d) := by
  have hpath : f.archiveFor .checked now d = .error .overflow := by
    rw [archiveFor_of_archives hnames]
    exact if_pos ⟨rfl, hover⟩
  rw [rotate_perform_of_has hactive, if_pos hpredecessor, archivePredecessor]
  simp only [OnDisk.perform_bind, OnDisk.perform_look, hpath]

/-- A rotation archives the predecessor, puts the active file in its place and keeps the newest
archives, or leaves the disk as it is. The active file is gone even where the archives are not in
their order. -/
theorem Holds.rotate (hplain : Disk.IsPlainName (LogName.nextArchive now x.names))
    (h : f.Holds p d x) (hactive : x.active.isSome = true) (maxArchives : Nat) :
    (((f.rotate .released maxArchives now).perform d).2 = d ∧
        (¬Disk.Fits f.dir LogName.predecessor ∨
          ¬Disk.Fits f.dir (LogName.nextArchive now x.names))) ∨
      ((f.rotate .released maxArchives now).perform d).2.has f.active = false ∧
        ∀ all, Archives x now all →
          f.Holds p ((f.rotate .released maxArchives now).perform d).2 (x.shift maxArchives all) := by
  have hhas := holds_iff.mp h
  have hactive : x.nodes.active.isSome = true := by rwa [LogFolder.nodes, Option.isSome_map]
  obtain ⟨n, hn⟩ := Option.isSome_iff_exists.mp hactive
  rw [← x.names_nodes] at hplain ⊢
  have hsteps :=
    hhas.toHasFiles.rotate_perform (hhas.active.trans hn) hhas.archives_eq hplain maxArchives
  rcases hsteps with ⟨e, hperform, hlong⟩ | ⟨hperform, hfits, harchiveFits⟩
  · rw [hperform]
    exact .inl ⟨rfl, hlong.imp_right And.right⟩
  refine .inr ⟨?_, fun all hall => ?_⟩
  · obtain ⟨harchived, hfree, -⟩ := hhas.toHasFiles.archivedAs_spec
      (LogName.isArchive_nextArchive now x.nodes.names) hplain
    have hretired := harchived.retire hfree hfits
    rw [hperform]
    refine prune_not_has ?_ maxArchives
    rw [hretired.has_active, retired, Disk.entry_moveTree _ active_ne_predecessor hfree,
      if_neg active_ne_predecessor, if_pos rfl]
    rfl
  · obtain ⟨hnodes, hascending⟩ := hall.nodes h.ascending
    rcases hhas.rotate hactive hplain hnodes hascending maxArchives with
      ⟨e, -, hlong | ⟨hthere, hlong⟩⟩ | ⟨d', hrotate, hafter, -⟩
    · exact absurd hfits hlong
    · exact absurd (harchiveFits (by rwa [hhas.predecessor])) hlong
    · rw [hrotate]
      apply holds_iff.mpr
      simpa [LogFolder.nodes, LogFolder.shift] using hafter

end

end DnsFilter.LogFiles
