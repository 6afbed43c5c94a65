import DnsFilter.Proofs.Log.Rotation
import DnsFilter.Proofs.Storage.Ways
/-!
# How far a rotation gets

The ways in which a rotation of an active file can go on any disk, whatever stands under the names of
the log: it does not begin, it stops at a predecessor that cannot be read, or it renames the active
file and goes on to prune the archives.
-/
namespace DnsFilter.LogFiles

/-- The first step of a rotation can be done: an archive for the predecessor can be made, or the
active file can be renamed where there is no predecessor. -/
def CanBegin (f : LogFiles) (b : Build) (now : Timestamp) (d : Disk) : Prop :=
  if d.has f.predecessor then
    ∃ path made, f.archiveFor b now d = .ok path ∧ d.store path (.packed []) = .ok made
  else ∃ made, d.rename f.active f.predecessor = .ok made

/-- The disk once no predecessor is in the way: there was none, or it was a file and is packed in an
archive. -/
inductive Archived (f : LogFiles) (b : Build) (now : Timestamp) (d : Disk) : Disk → Prop
  | free (hfree : d.has f.predecessor = false) : Archived f b now d d
  | packed {path : String} {q r : Path} {n : Node} {content : Bytes} {archived : Disk}
      (hfind : d.find f.predecessor = .ok (r, n)) (hcontent : n.content? = some content)
      (hpath : f.archiveFor b now d = .ok path) (hlocate : d.locate path = .ok q)
      (hfile : d.isDirectory q = false)
      (hstore : d.store path (.packed []) = .ok (d.put q (.packed [])))
      (hremove : (d.put q (.packed content)).removeFile f.predecessor = .ok archived) :
      Archived f b now d archived

inductive Course (f : LogFiles) (b : Build) (maxArchives : Nat) (now : Timestamp) (d : Disk) :
    Except FileError Unit → Disk → Prop
  | idle (e : FileError) (hbegin : ¬f.CanBegin b now d) : Course f b maxArchives now d (.error e) d
  | stuck {path : String} {q : Path} (hdirectory : d.hasDirectory f.predecessor = true)
      (hpath : f.archiveFor b now d = .ok path) (hlocate : d.locate path = .ok q)
      (hfile : d.isDirectory q = false)
      (hstore : d.store path (.packed []) = .ok (d.put q (.packed []))) :
      Course f b maxArchives now d (.error .isDirectory) (d.put q (.packed []))
  | moved {archived renamed d' : Disk} {result : Except FileError Unit}
      (harchived : Archived f b now d archived)
      (hrename : archived.rename f.active f.predecessor = .ok renamed)
      (hprune : (f.prune maxArchives).perform renamed = (result, d')) :
      Course f b maxArchives now d result d'

/-! ## Places of archives -/

section
variable {f : LogFiles} {d : Disk} {name : String} {q : Path}

theorem archive_of_archiveFor {b : Build} {now : Timestamp} {path : String}
    (h : f.archiveFor b now d = .ok path) :
    ∃ name, path = f.pathOf name ∧ LogName.isArchive name.toList = true := by
  obtain ⟨names, -, hpath⟩ := archiveFor_eq_ok.mp h
  obtain ⟨-, rfl⟩ := newPath_eq_ok.mp hpath
  exact ⟨_, rfl, LogName.isArchive_nextArchive now names⟩

theorem archive_place (hname : LogName.isArchive name.toList = true)
    (hlocate : d.locate (f.pathOf name) = .ok q) :
    ∃ p last, q = p ++ [last] ∧ LogName.archiveEnd <:+ last.toList := by
  have hend : LogName.archiveEnd <:+ name.toList := by
    rw [LogName.isArchive, Bool.and_eq_true] at hname
    exact List.isSuffixOf_iff_suffix.mp hname.2
  have hjoin : name.toList <:+ (f.pathOf name).toList := by
    unfold pathOf Disk.join
    split_ifs
    · rw [String.toList_append]
      exact List.suffix_append _ _
    · rw [String.toList_append, String.toList_append]
      exact List.suffix_append _ _
  exact Disk.last_of_locate (by decide) (by decide) (hend.trans hjoin) hlocate

theorem ne_of_archive_place (hname : LogName.isArchive name.toList = true)
    (hlocate : d.locate (f.pathOf name) = .ok q) {r : Path} {other : String}
    (hother : ¬LogName.archiveEnd <:+ other.toList) : r ++ [other] ≠ q := by
  obtain ⟨p, last, rfl, hend⟩ := archive_place hname hlocate
  intro hsame
  obtain rfl : other = last := (List.append_inj' hsame rfl).2 |> List.singleton_inj.mp
  exact hother hend

theorem find_current_ne {d' : Disk} {current : String} {r : Path} {n : Node}
    (hcurrent : current = LogName.active ∨ current = LogName.predecessor)
    (hfind : d'.find (f.pathOf current) = .ok (r, n))
    (hname : LogName.isArchive name.toList = true) (hlocate : d.locate (f.pathOf name) = .ok q) :
    r ≠ q := by
  have hplain : Disk.IsPlainName current := by
    rcases hcurrent with rfl | rfl
    · exact LogName.isPlainName_active
    · exact LogName.isPlainName_predecessor
  obtain ⟨p, -, rfl, -⟩ := Disk.isFolder_of_find hplain hfind
  apply ne_of_archive_place hname hlocate
  rcases hcurrent with rfl | rfl <;> decide

end

/-! ## The steps -/

section
variable {f : LogFiles} {b : Build} {now : Timestamp} {d : Disk}

namespace Archived

variable {archived : Disk} (h : Archived f b now d archived)
include h

theorem canBegin {renamed : Disk} (hrename : archived.rename f.active f.predecessor = .ok renamed) :
    f.CanBegin b now d := by
  cases h with
  | free hfree =>
    rw [CanBegin, if_neg (by simp [hfree])]
    exact ⟨renamed, hrename⟩
  | packed hfind _ hpath _ _ hstore _ =>
    rw [CanBegin, if_pos (Disk.has_of_find hfind)]
    exact ⟨_, _, hpath, hstore⟩

theorem not_directory : d.hasDirectory f.predecessor = false := by
  rw [← Bool.not_eq_true]
  intro hdirectory
  obtain ⟨q, hthere⟩ := Disk.find_of_hasDirectory hdirectory
  cases h with
  | free hfree => exact absurd (Disk.has_of_find hthere) (by simp [hfree])
  | packed hfind hcontent =>
    rw [hthere] at hfind
    cases hfind
    cases hcontent

theorem find_active {a : Path} {n : Node} (hactive : d.find f.active = .ok (a, n)) :
    archived.find f.active = .ok (a, n) := by
  cases h with
  | free => exact hactive
  | @packed path q r m content _ hfind _ hpath hlocate hfile _ hremove =>
    obtain ⟨name, rfl, hname⟩ := archive_of_archiveFor hpath
    have hne : a ≠ q := find_current_ne (.inl rfl) hactive hname hlocate
    refine Disk.find_of_removeFile hremove (Disk.find_put hfile hactive hne _) ?_
    intro hsame
    obtain ⟨p, hp, rfl, -⟩ := Disk.isFolder_of_find LogName.isPlainName_active hactive
    obtain ⟨p', hp', rfl, -⟩ := Disk.isFolder_of_find LogName.isPlainName_predecessor hfind
    obtain rfl := hp.unique hp'
    have hplaces := Disk.locate_unique (Disk.find_eq_ok.mp hfind).1 hsame
    exact active_ne_predecessor (Disk.concat_inj hplaces).symm

theorem exists_rename {a : Path} {n : Node} (hactive : d.find f.active = .ok (a, n))
    (hthere : d.has f.predecessor = true) :
    ∃ renamed, archived.rename f.active f.predecessor = .ok renamed := by
  have hstays := h.find_active hactive
  cases h with
  | free hfree => exact absurd (hthere.symm.trans hfree) (by decide)
  | packed _ _ _ _ _ _ hremove =>
    obtain ⟨r, m, hfind, hm, rfl⟩ := Disk.removeFile_eq_ok hremove
    have hfile := Disk.isDirectory_of_find hfind hm
    have hkeeps := Disk.keepsDirectories_without hfile
    have hlocate := Disk.locate_of_keepsDirectories hkeeps (Disk.find_eq_ok.mp hfind).1
    have hfree := Disk.node?_without hfile r
    rw [if_pos rfl] at hfree
    obtain ⟨p, hp, rfl, -⟩ := Disk.isFolder_of_find LogName.isPlainName_predecessor hfind
    refine ⟨_, Disk.rename_of_free hstays hlocate ?_ hfree⟩
    rw [List.dropLast_concat]
    exact hkeeps p hp.isDirectory

end Archived

/-- A predecessor is archived, unless it cannot be read or its archive cannot be begun. -/
theorem archive_course (hthere : d.has f.predecessor = true) (b : Build) (now : Timestamp) :
    (∃ e, (f.archivePredecessor b now).perform d = (.error e, d) ∧ ¬f.CanBegin b now d) ∨
      (∃ path q,
        (f.archivePredecessor b now).perform d = (.error .isDirectory, d.put q (.packed [])) ∧
        d.hasDirectory f.predecessor = true ∧ f.archiveFor b now d = .ok path ∧
        d.locate path = .ok q ∧ d.isDirectory q = false ∧
        d.store path (.packed []) = .ok (d.put q (.packed []))) ∨
      ∃ archived, (f.archivePredecessor b now).perform d = (.ok (), archived) ∧
        Archived f b now d archived := by
  rw [archivePredecessor, OnDisk.perform_bind, OnDisk.perform_look]
  cases hpath : f.archiveFor b now d with
  | error e =>
    refine .inl ⟨e, rfl, ?_⟩
    simp [CanBegin, hthere, hpath]
  | ok path =>
    simp only
    rw [OnDisk.perform_bind]
    obtain ⟨r, n, hfind⟩ := Disk.exists_find_of_has hthere
    rcases OnDisk.pack_perform hfind path with
      ⟨e, hpack, hnone⟩ | ⟨q, hlocate, hfile, hstore, hpack⟩
    · rw [hpack]
      refine .inl ⟨e, rfl, ?_⟩
      simp [CanBegin, hthere, hpath, hnone]
    · rw [hpack]
      refine .inr ?_
      cases hcontent : n.content? with
      | none =>
        have hdirectory : d.hasDirectory f.predecessor = true := by
          cases n with
          | directory => simp [Disk.hasDirectory, hfind]
          | plain content => cases hcontent
          | packed content => cases hcontent
        exact .inl ⟨path, q, rfl, hdirectory, rfl, hlocate, hfile, hstore⟩
      | some content =>
        obtain ⟨name, rfl, hname⟩ := archive_of_archiveFor hpath
        have hne : r ≠ q := find_current_ne (.inr rfl) hfind hname hlocate
        have hremove := Disk.removeFile_of_find (Disk.find_put hfile hfind hne (.packed content))
          (by rintro rfl; cases hcontent)
        simp only
        rw [OnDisk.perform_change, hremove]
        exact .inr ⟨_, rfl, .packed hfind hcontent hpath hlocate hfile hstore hremove⟩

theorem rotate_course (hactive : d.has f.active = true) {maxArchives : Nat}
    {result : Except FileError Unit} {d' : Disk}
    (h : (f.rotate b maxArchives now).perform d = (result, d')) :
    Course f b maxArchives now d result d' := by
  rw [rotate_perform_of_has hactive] at h
  cases hthere : d.has f.predecessor with
  | false =>
    rw [hthere, if_neg Bool.false_ne_true, retireActive_perform] at h
    cases hrename : d.rename f.active f.predecessor with
    | error e =>
      rw [hrename] at h
      obtain ⟨rfl, rfl⟩ := Prod.mk.inj h
      refine .idle e ?_
      simp [CanBegin, hthere, hrename]
    | ok renamed =>
      rw [hrename] at h
      exact .moved (.free hthere) hrename h
  | true =>
    rw [hthere, if_pos rfl, OnDisk.perform_bind] at h
    rcases archive_course hthere b now with
      ⟨e, hperform, hbegin⟩ | ⟨path, q, hperform, hstuck⟩ | ⟨archived, hperform, harchived⟩
    · rw [hperform] at h
      obtain ⟨rfl, rfl⟩ := Prod.mk.inj h
      exact .idle e hbegin
    · rw [hperform] at h
      obtain ⟨rfl, rfl⟩ := Prod.mk.inj h
      obtain ⟨hdirectory, hpath, hlocate, hfile, hstore⟩ := hstuck
      exact .stuck hdirectory hpath hlocate hfile hstore
    · obtain ⟨a, m, hfound⟩ := Disk.exists_find_of_has hactive
      obtain ⟨renamed, hrename⟩ := harchived.exists_rename hfound hthere
      rw [hperform] at h
      simp only [retireActive_perform, hrename] at h
      exact .moved harchived hrename h

end

end DnsFilter.LogFiles
