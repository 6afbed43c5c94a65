import DnsFilter.Log.Files
import DnsFilter.Proofs.Log.ArchiveName
import DnsFilter.Proofs.Storage.Entries
/-!
# Retiring the active file

The steps of a rotation in the directory of a log, whatever its files hold: the predecessor is packed
under a new name and removed, the active file is renamed, and the oldest archives are removed.
-/
namespace DnsFilter

def LogName.IsLogFile (name : String) : Prop :=
  name = LogName.active ∨ name = LogName.predecessor ∨ LogName.isArchive name.toList = true

namespace LogFiles

theorem ne_of_isArchive {name : String} (hname : LogName.isArchive name.toList = true) :
    name ≠ LogName.active ∧ name ≠ LogName.predecessor := by
  constructor
  · rintro rfl
    exact absurd hname (by decide)
  · rintro rfl
    exact absurd hname (by decide)

theorem active_ne_predecessor : LogName.active ≠ LogName.predecessor := by decide

/-- The files of a log stand in its directory at `p`. No directory has the name of one of them, and
the paths of the active file and of its predecessor can be followed if they are there. -/
structure HasFiles (f : LogFiles) (p : Path) (d : Disk) : Prop where
  place : d.IsAt f.dir p
  files : ∀ name, LogName.IsLogFile name → d.entry p name ≠ some .directory
  active_fits : (d.entry p LogName.active).isSome = true → Disk.Fits f.dir LogName.active
  predecessor_fits :
    (d.entry p LogName.predecessor).isSome = true → Disk.Fits f.dir LogName.predecessor

def archivedAs (p : Path) (d : Disk) (name : String) : Disk :=
  match (d.entry p LogName.predecessor).bind Node.content? with
  | none => d
  | some content =>
    (d.put (p ++ [name]) (.packed content)).without (p ++ [LogName.predecessor])

/-- The disk once the active file is in the place of the predecessor. -/
def retired (p : Path) (d : Disk) : Disk :=
  d.moveTree (p ++ [LogName.active]) (p ++ [LogName.predecessor])

def nextPath (f : LogFiles) (now : Timestamp) (names : List String) : String :=
  f.pathOf (LogName.nextArchive now names)

def archivePredecessor (f : LogFiles) (b : Build) (now : Timestamp) : OnDisk Unit := do
  OnDisk.pack f.predecessor (← OnDisk.look (f.archiveFor b now))
  OnDisk.change (·.removeFile f.predecessor)

def retireActive (f : LogFiles) (maxArchives : Nat) : OnDisk Unit := do
  OnDisk.change (·.rename f.active f.predecessor)
  f.prune maxArchives

section
variable {f : LogFiles} {p : Path} {d : Disk}

/-! ## The path of the new archive -/

theorem newPath_released (f : LogFiles) (now : Timestamp) (names : List String) :
    f.newPath .released now names = .ok (f.nextPath now names) := if_neg (by simp)

theorem newPath_eq_ok {b : Build} {now : Timestamp} {names : List String} {path : String} :
    f.newPath b now names = .ok path ↔
      ¬(b = .checked ∧ LogName.runsOver now.stamp.toList names = true) ∧
        f.nextPath now names = path := by
  unfold newPath
  split_ifs with hover
  · simp [hover]
  · simp [hover, nextPath]

theorem archiveFor_of_archives {b : Build} {now : Timestamp} {names : List String}
    (h : f.archives d = .ok names) : f.archiveFor b now d = f.newPath b now names := by
  rw [archiveFor, h]
  rfl

theorem archiveFor_eq_ok {b : Build} {now : Timestamp} {path : String} :
    f.archiveFor b now d = .ok path ↔
      ∃ names, f.archives d = .ok names ∧ f.newPath b now names = .ok path := by
  cases hnames : f.archives d with
  | error e => simp [archiveFor, hnames, bind, Except.bind]
  | ok names => simp [archiveFor_of_archives hnames]

/-! ## The steps -/

/-- A rotation is these two steps, the first one where there is a predecessor. -/
theorem rotate_perform_of_has (hactive : d.has f.active = true) (b : Build) (maxArchives : Nat)
    (now : Timestamp) :
    (f.rotate b maxArchives now).perform d =
      if d.has f.predecessor then
        (f.archivePredecessor b now >>= fun _ => f.retireActive maxArchives).perform d
      else (f.retireActive maxArchives).perform d := by
  rw [rotate, OnDisk.perform_bind, OnDisk.perform_has, hactive]
  simp only [if_true]
  rw [OnDisk.perform_bind, OnDisk.perform_has]
  cases d.has f.predecessor with
  | false => rfl
  | true =>
    simp only [if_true, archivePredecessor, retireActive, bind_assoc]

theorem retireActive_perform (f : LogFiles) (maxArchives : Nat) (d : Disk) :
    (f.retireActive maxArchives).perform d =
      match d.rename f.active f.predecessor with
      | .ok d => (f.prune maxArchives).perform d
      | .error e => (.error e, d) := by
  rw [retireActive, OnDisk.perform_bind, OnDisk.perform_change]
  cases d.rename f.active f.predecessor <;> rfl

namespace HasFiles

variable (h : f.HasFiles p d)
include h

theorem has_active : d.has f.active = (d.entry p LogName.active).isSome :=
  Disk.has_join_of_fits h.place LogName.isPlainName_active h.active_fits

theorem has_predecessor : d.has f.predecessor = (d.entry p LogName.predecessor).isSome :=
  Disk.has_join_of_fits h.place LogName.isPlainName_predecessor h.predecessor_fits

/-! ## What changes leave as it is -/

theorem put_archive {name : String} (hname : LogName.isArchive name.toList = true)
    (hplain : Disk.IsPlainName name) (content : Bytes) :
    f.HasFiles p (d.put (p ++ [name]) (.packed content)) where
  place := h.place.of_sameFiles (Disk.sameBut_put d p _ _)
    (by simpa using ⟨hplain.no_slash, h.files name (.inr (.inr hname))⟩)
  files other hother := by
    rw [Disk.entry_put]
    split_ifs
    · simp
    · exact h.files other hother
  active_fits := by
    rw [Disk.entry_put, if_neg (ne_of_isArchive hname).1.symm]
    exact h.active_fits
  predecessor_fits := by
    rw [Disk.entry_put, if_neg (ne_of_isArchive hname).2.symm]
    exact h.predecessor_fits

theorem remove {name : String} (hname : LogName.IsLogFile name) (hplain : Disk.IsPlainName name) :
    f.HasFiles p (d.without (p ++ [name])) where
  place := h.place.of_sameFiles (Disk.sameBut_without d p _)
    (by simpa using ⟨hplain.no_slash, h.files name hname⟩)
  files other hother := by
    rw [Disk.entry_without]
    split_ifs
    · simp
    · exact h.files other hother
  active_fits := by
    rw [Disk.entry_without]
    split_ifs
    · simp
    · exact h.active_fits
  predecessor_fits := by
    rw [Disk.entry_without]
    split_ifs
    · simp
    · exact h.predecessor_fits

theorem retire (hnone : d.entry p LogName.predecessor = none)
    (hfits : Disk.Fits f.dir LogName.predecessor) : f.HasFiles p (retired p d) where
  place := h.place.of_sameFiles (Disk.sameBut_moveTree d) (by
    simp only [List.mem_cons, List.not_mem_nil, or_false, forall_eq_or_imp, forall_eq]
    exact ⟨⟨LogName.isPlainName_active.no_slash, h.files _ (.inl rfl)⟩,
      LogName.isPlainName_predecessor.no_slash, h.files _ (.inr (.inl rfl))⟩)
  files other hother := by
    rw [retired, Disk.entry_moveTree d active_ne_predecessor hnone]
    split_ifs
    · exact h.files _ (.inl rfl)
    · simp
    · exact h.files other hother
  active_fits := by
    rw [retired, Disk.entry_moveTree d active_ne_predecessor hnone,
      if_neg active_ne_predecessor, if_pos rfl]
    simp
  predecessor_fits _ := hfits

/-! ## The steps -/

theorem content_of_entry {name : String} (hname : LogName.IsLogFile name) {n : Node}
    (hentry : d.entry p name = some n) : ∃ content, n.content? = some content := by
  cases n with
  | directory => exact absurd hentry (h.files name hname)
  | plain content => exact ⟨content, rfl⟩
  | packed content => exact ⟨content, rfl⟩

theorem archivedAs_spec {name : String} (hname : LogName.isArchive name.toList = true)
    (hplain : Disk.IsPlainName name) :
    f.HasFiles p (archivedAs p d name) ∧
      (archivedAs p d name).entry p LogName.predecessor = none ∧
      (archivedAs p d name).entry p LogName.active = d.entry p LogName.active := by
  unfold archivedAs
  cases hentry : d.entry p LogName.predecessor with
  | none => exact ⟨h, hentry, rfl⟩
  | some n =>
    obtain ⟨content, hcontent⟩ := h.content_of_entry (.inr (.inl rfl)) hentry
    simp only [Option.bind_some, hcontent]
    refine ⟨(h.put_archive hname hplain content).remove (.inr (.inl rfl))
      LogName.isPlainName_predecessor, ?_, ?_⟩
    · rw [Disk.entry_without, if_pos rfl]
    · rw [Disk.entry_without, if_neg active_ne_predecessor, Disk.entry_put,
        if_neg (ne_of_isArchive hname).1.symm]

/-- The predecessor is packed, and then removed, unless the path of its archive is too long. -/
theorem archive_perform {n : Node} (hentry : d.entry p LogName.predecessor = some n)
    {names : List String} (hnames : f.archives d = .ok names) {now : Timestamp}
    (hplain : Disk.IsPlainName (LogName.nextArchive now names)) :
    (f.archivePredecessor .released now).perform d =
        (.ok (), archivedAs p d (LogName.nextArchive now names)) ∧
        Disk.Fits f.dir (LogName.nextArchive now names) ∨
      ∃ e, (f.archivePredecessor .released now).perform d = (.error e, d) ∧
        ¬Disk.Fits f.dir (LogName.nextArchive now names) := by
  have hname := LogName.isArchive_nextArchive now names
  have hpredecessorFits := h.predecessor_fits (by rw [hentry]; rfl)
  rw [archivePredecessor, OnDisk.perform_bind, OnDisk.perform_look, archiveFor_of_archives hnames,
    newPath_released]
  simp only [nextPath]
  generalize LogName.nextArchive now names = name at hname hplain
  rw [OnDisk.perform_bind]
  by_cases hfits : Disk.Fits f.dir name
  · obtain ⟨content, hcontent⟩ := h.content_of_entry (.inr (.inl rfl)) hentry
    have hpack := Disk.pack_join h.place LogName.isPlainName_predecessor hplain hpredecessorFits
      hfits hentry hcontent (h.files _ (.inr (.inr hname)))
    have hpacked := h.put_archive hname hplain content
    have hstays : (d.put (p ++ [name]) (.packed content)).entry p LogName.predecessor = some n := by
      rw [Disk.entry_put, if_neg (ne_of_isArchive hname).2.symm, hentry]
    have hfile : n ≠ .directory := by
      rintro rfl
      cases hcontent
    have hremove := Disk.removeFile_join hpacked.place LogName.isPlainName_predecessor
      hpredecessorFits hstays hfile
    rw [predecessor, pathOf, pathOf, hpack]
    simp only
    rw [OnDisk.perform_change, hremove, archivedAs, hentry, Option.bind_some, hcontent]
    exact .inl ⟨rfl, hfits⟩
  · obtain ⟨e, hpack⟩ := Disk.pack_join_fails h.place LogName.isPlainName_predecessor hplain
      hpredecessorFits hfits hentry
    rw [predecessor, pathOf, pathOf, hpack]
    exact .inr ⟨e, rfl, hfits⟩

theorem rename_active {n : Node} (hactive : d.entry p LogName.active = some n)
    (hfree : d.entry p LogName.predecessor = none) (hfits : Disk.Fits f.dir LogName.predecessor) :
    d.rename f.active f.predecessor = .ok (retired p d) :=
  Disk.rename_join h.place LogName.isPlainName_active (h.active_fits (by rw [hactive]; rfl)) hactive
    LogName.isPlainName_predecessor hfits active_ne_predecessor hfree

/-- A rotation goes as far as its last step, unless the path of the predecessor or of its archive is
too long to be followed. Then it does nothing. -/
theorem rotate_perform {n : Node} (hactive : d.entry p LogName.active = some n)
    {names : List String} (hnames : f.archives d = .ok names) {now : Timestamp}
    (hplain : Disk.IsPlainName (LogName.nextArchive now names)) (maxArchives : Nat) :
    (∃ e, (f.rotate .released maxArchives now).perform d = (.error e, d) ∧
        (¬Disk.Fits f.dir LogName.predecessor ∨
          (d.entry p LogName.predecessor).isSome = true ∧
            ¬Disk.Fits f.dir (LogName.nextArchive now names))) ∨
      (f.rotate .released maxArchives now).perform d = (f.prune maxArchives).perform
          (retired p (archivedAs p d (LogName.nextArchive now names))) ∧
        Disk.Fits f.dir LogName.predecessor ∧
        ((d.entry p LogName.predecessor).isSome = true →
          Disk.Fits f.dir (LogName.nextArchive now names)) := by
  have hactiveFits := h.active_fits (by rw [hactive]; rfl)
  have hactiveThere : d.has f.active = true := by rw [h.has_active, hactive]; rfl
  obtain ⟨harchived, hfree, hstays⟩ :=
    h.archivedAs_spec (LogName.isArchive_nextArchive now names) hplain
  rw [rotate_perform_of_has hactiveThere, h.has_predecessor]
  cases hentry : d.entry p LogName.predecessor with
  | none =>
    have hsame : archivedAs p d (LogName.nextArchive now names) = d := by
      rw [archivedAs, hentry, Option.bind_none]
    rw [hsame]
    simp only [Option.isSome_none, Bool.false_eq_true, if_false, false_imp_iff, and_true, false_and,
      or_false]
    rw [retireActive_perform]
    by_cases hfits : Disk.Fits f.dir LogName.predecessor
    · rw [h.rename_active hactive hentry hfits]
      exact .inr ⟨rfl, hfits⟩
    · obtain ⟨e, hrename⟩ := Disk.rename_join_fails h.place LogName.isPlainName_active
        LogName.isPlainName_predecessor hactiveFits hfits hactive
      rw [active, predecessor, pathOf, pathOf, hrename]
      exact .inl ⟨e, rfl, hfits⟩
  | some m =>
    have hpredecessorFits := h.predecessor_fits (by rw [hentry]; rfl)
    simp only [Option.isSome_some, if_true, forall_const, true_and]
    rw [OnDisk.perform_bind]
    rcases h.archive_perform hentry hnames hplain with ⟨hperform, hfits⟩ | ⟨e, hperform, hnot⟩
    · rw [hperform]
      simp only
      rw [retireActive_perform,
        harchived.rename_active (hstays.trans hactive) hfree hpredecessorFits]
      exact .inr ⟨rfl, hpredecessorFits, hfits⟩
    · rw [hperform]
      exact .inl ⟨e, rfl, .inr hnot⟩

end HasFiles

/-! ## Pruning -/

def removals (f : LogFiles) (names : List String) : OnDisk PUnit :=
  forIn names PUnit.unit fun name _ => do
    OnDisk.change (·.removeFile (f.pathOf name))
    pure (ForInStep.yield PUnit.unit)

theorem removals_cons (f : LogFiles) (name : String) (names : List String) (d : Disk) :
    (f.removals (name :: names)).perform d =
      match d.removeFile (f.pathOf name) with
      | .ok d => (f.removals names).perform d
      | .error e => (.error e, d) := by
  rw [removals, List.forIn_cons, OnDisk.perform_bind, OnDisk.perform_bind, OnDisk.perform_change]
  cases d.removeFile (f.pathOf name) <;> rfl

theorem prune_perform (f : LogFiles) (maxArchives : Nat) (d : Disk) :
    (f.prune maxArchives).perform d =
      match f.archives d with
      | .ok names => (f.removals (names.take (names.length - maxArchives))).perform d
      | .error e => (.error e, d) := by
  unfold prune
  rw [OnDisk.perform_bind, OnDisk.perform_look]
  cases f.archives d with
  | error e => rfl
  | ok names =>
    simp only [removals]
    rw [OnDisk.perform_bind]
    generalize OnDisk.perform (forIn (names.take (names.length - maxArchives)) _ _) d = result
    rcases result with ⟨_ | _, _⟩ <;> rfl

theorem prune_not_has {text : String} (h : d.has text = false) (maxArchives : Nat) :
    ((f.prune maxArchives).perform d).2.has text = false := by
  have hremovals (names : List String) : ((f.removals names).perform d).2.has text = false := by
    induction names generalizing d with
    | nil => exact h
    | cons name names ih =>
      rw [removals_cons]
      cases hremove : d.removeFile (f.pathOf name) with
      | ok d' => exact ih (Disk.has_of_removeFile hremove h)
      | error e => exact h
  rw [prune_perform]
  cases f.archives d with
  | ok names => exact hremovals _
  | error e => exact h

/-- Archives are removed one after the other, and everything else stays. -/
theorem HasFiles.removals_perform (h : f.HasFiles p d) {names : List String}
    (hnodup : names.Nodup)
    (hnames : ∀ name ∈ names, LogName.isArchive name.toList = true ∧ Disk.IsPlainName name ∧
      Disk.Fits f.dir name ∧ (d.entry p name).isSome = true) :
    ∃ d', (f.removals names).perform d = (.ok (), d') ∧ f.HasFiles p d' ∧
      Disk.SameBut p names d d' ∧
      (∀ name, d'.entry p name = if name ∈ names then none else d.entry p name) ∧
      ((d.children p).Nodup → (d'.children p).Nodup) := by
  induction names generalizing d with
  | nil => exact ⟨d, rfl, h, fun _ _ => rfl, by simp, id⟩
  | cons first names ih =>
    obtain ⟨hfirst, hrest⟩ := List.forall_mem_cons.mp hnames
    obtain ⟨hfirstName, hplain, hfits, hthere⟩ := hfirst
    obtain ⟨hnew, hnodup⟩ := List.nodup_cons.mp hnodup
    obtain ⟨n, hentry⟩ := Option.isSome_iff_exists.mp hthere
    have hfile : n ≠ .directory := by
      rintro rfl
      exact h.files first (.inr (.inr hfirstName)) hentry
    have hremove : d.removeFile (f.pathOf first) = .ok (d.without (p ++ [first])) :=
      Disk.removeFile_join h.place hplain hfits hentry hfile
    obtain ⟨d', hperform, hfiles, hsame, hentries, hchildren⟩ :=
      ih (h.remove (.inr (.inr hfirstName)) hplain) hnodup fun name hname => by
        obtain ⟨harchive, hplain, hfits, hthere⟩ := hrest name hname
        have hne : name ≠ first := ne_of_mem_of_not_mem hname hnew
        rw [Disk.entry_without, if_neg hne]
        exact ⟨harchive, hplain, hfits, hthere⟩
    refine ⟨d', ?_, hfiles, ?_, fun name => ?_, fun hnodup => ?_⟩
    · rw [removals_cons, hremove]
      exact hperform
    · intro r hr
      have hrfirst : ∀ name ∈ [first], ¬p ++ [name] <+: r := by
        simpa using hr first List.mem_cons_self
      rw [hsame r fun name hname => hr name (List.mem_cons_of_mem _ hname)]
      exact Disk.sameBut_without d p first r hrfirst
    · rw [hentries name, Disk.entry_without]
      by_cases hname : name = first
      · simp [hname]
      · simp [hname]
    · exact hchildren (Disk.nodup_children_without d p _ hnodup)

end

end LogFiles
end DnsFilter
