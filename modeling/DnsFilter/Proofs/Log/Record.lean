import DnsFilter.Proofs.Log.Accounting
import DnsFilter.Proofs.Log.Directory
import DnsFilter.Proofs.Log.Eager
import DnsFilter.Proofs.Log.Shelf
/-!
# The ordered record in the log files

The archives, the predecessor and the active file hold all lines that were ever appended, in their
order, but for whole archives that were pruned. This needs a clock that does not go back, and at
most 2^32 archives made in one millisecond: their counter has 32 bits. Where it runs over, a build
with checks panics, and in the released one the newest archive is then taken for the oldest one.
-/
namespace DnsFilter

/-- A history with the shelf that its files follow and the times at which archives were made. -/
structure LogRecord where
  history : LogHistory
  shelf : LogShelf := {}
  made : List Timestamp := []

namespace LogRecord

def files (r : LogRecord) : LogFiles := r.history.log.writer.files

def filled (r : LogRecord) (m : LogMove) : LogShelf :=
  r.shelf.append (r.history.log.appendedBy m r.history.disk)

/-- A move rotated the files if it made the active file go away. -/
def isRotated (r : LogRecord) (m : LogMove) : Bool :=
  (r.filled m).active.isSome && !(r.history.step m).disk.has r.files.active

def step (r : LogRecord) (m : LogMove) : LogRecord :=
  if r.isRotated m then
    { history := r.history.step m
      shelf := (r.filled m).rotate r.history.log.settings.maxArchives
      made := r.made ++ ((r.filled m).predecessor.map fun _ => m.now).toList }
  else { history := r.history.step m, shelf := r.filled m, made := r.made }

def run (r : LogRecord) (moves : List LogMove) : LogRecord := moves.foldl step r

theorem step_history (r : LogRecord) (m : LogMove) : (r.step m).history = r.history.step m := by
  unfold step
  split_ifs <;> rfl

theorem run_history (r : LogRecord) (moves : List LogMove) :
    (r.run moves).history = r.history.run moves := by
  induction moves generalizing r with
  | nil => rfl
  | cons m moves ih =>
    have hrest := ih (r.step m)
    rw [step_history] at hrest
    exact hrest

theorem step_made (r : LogRecord) (m : LogMove) :
    (r.step m).made = r.made ∨ (r.step m).made = r.made ++ [m.now] := by
  unfold step
  split_ifs
  · cases (r.filled m).predecessor with
    | none => exact .inl (List.append_nil _)
    | some _ => exact .inr rfl
  · exact .inl rfl

theorem made_isPrefix (r : LogRecord) (moves : List LogMove) : r.made <+: (r.run moves).made := by
  induction moves generalizing r with
  | nil => exact List.prefix_rfl
  | cons m moves ih =>
    refine List.IsPrefix.trans ?_ (ih (r.step m))
    rcases step_made r m with hsame | hmore
    · exact hsame ▸ List.prefix_rfl
    · exact hmore ▸ List.prefix_append _ _

theorem length_made_le (r : LogRecord) (moves : List LogMove) :
    (r.run moves).made.length ≤ r.made.length + moves.length := by
  induction moves generalizing r with
  | nil => exact Nat.le_refl _
  | cons m moves ih =>
    have hrest : (r.run (m :: moves)).made.length ≤ (r.step m).made.length + moves.length :=
      ih (r.step m)
    rcases step_made r m with hsame | hmore
    · rw [hsame] at hrest
      rw [List.length_cons]
      omega
    · rw [hmore, List.length_append, List.length_singleton] at hrest
      rw [List.length_cons]
      omega

/-! ## The folder follows the shelf -/

structure Follows (r : LogRecord) (x : LogFolder) : Prop where
  stores : r.files.Stores r.history.disk x
  shows : x.Shows r.shelf
  numbered : x.IsNumbered r.made

/-- At most 2^32 archives were made in one millisecond. -/
def KeepsCount (r : LogRecord) : Prop := ∀ t : Timestamp, r.made.countP (·.stamp = t.stamp) ≤ 2 ^ 32

/-- So few moves make no more archives than that at all. -/
theorem keepsCount_of_short {r : LogRecord} {moves : List LogMove}
    (h : r.made.length + moves.length ≤ 2 ^ 32) : (r.run moves).KeepsCount := fun _ =>
  Nat.le_trans List.countP_le_length (Nat.le_trans (length_made_le r moves) h)

section
variable {r : LogRecord} {y : LogFolder} {m : LogMove} (hshows : y.Shows (r.filled m))
include hshows

theorem isRotated_eq :
    r.isRotated m = (y.active.isSome && !(r.history.step m).disk.has r.files.active) := by
  rw [hshows.active, Option.isSome_map, isRotated]

variable (hfiles : (r.step m).files = r.files) (hnumbered : y.IsNumbered r.made)
include hfiles hnumbered

/-- Files that hold what the shelf is filled with were not rotated. -/
theorem follows_filled (hstores : r.files.Stores (r.history.step m).disk y) :
    (r.step m).Follows y := by
  have hnot : r.isRotated m = false := by
    rw [isRotated_eq hshows, hstores.has_active, Bool.and_not_self]
  have hstep : r.step m = { history := r.history.step m, shelf := r.filled m, made := r.made } := by
    rw [step, hnot]
    rfl
  refine ⟨?_, ?_, ?_⟩
  · rw [hfiles, step_history]
    exact hstores
  · rw [hstep]
    exact hshows
  · rw [hstep]
    exact hnumbered

theorem follows_rotated (hclock : Timestamp.IsClock (r.made ++ [m.now]))
    (hcount : (r.step m).KeepsCount) (hactive : y.active.isSome = true)
    (hascending : LogName.IsAscending y.names)
    (hgone : (r.history.step m).disk.has r.files.active = false) {p : Path}
    (hholds : ∀ all, LogFiles.Archives y m.now all → r.files.Holds p (r.history.step m).disk
      (y.shift r.history.log.settings.maxArchives all)) :
    (r.step m).Follows (y.shift r.history.log.settings.maxArchives (y.withNewest m.now)) := by
  have hrotated : r.isRotated m = true := by
    rw [isRotated_eq hshows, hactive, hgone]
    rfl
  have hmade : (r.step m).made = y.madeWithNewest r.made m.now := by
    rw [step, if_pos hrotated, LogFolder.madeWithNewest, hshows.predecessor]
    cases (r.filled m).predecessor <;> rfl
  have hnow : (y.madeWithNewest r.made m.now).countP (·.stamp = m.now.stamp) ≤ 2 ^ 32 :=
    hmade ▸ hcount m.now
  refine ⟨?_, ?_, ?_⟩
  · rw [hfiles, step_history]
    exact .inl ⟨p, hholds _ (LogFolder.archives_withNewest hnumbered hclock hnow hascending)⟩
  · rw [step, if_pos hrotated]
    exact hshows.shift (y.withNewest_contents m.now) _
  · rw [hmade]
    exact LogFolder.shift_isNumbered hnumbered hclock hnow _

end

theorem step_follows {r : LogRecord} {x : LogFolder} (h : r.Follows x) {m : LogMove}
    (hown : QueryLog.IsFilingMove m) (hfiles : (r.step m).files = r.files)
    (hclock : Timestamp.IsClock (r.made ++ [m.now])) (hcount : (r.step m).KeepsCount) :
    ∃ y, (r.step m).Follows y := by
  obtain ⟨d, hstores, hdisk⟩ := QueryLog.next_stores h.stores hown
  have hshows : (x.appendEntries (r.history.log.appendedBy m r.history.disk)).Shows (r.filled m) :=
    h.shows.appendEntries _
  have hnumbered : (x.appendEntries (r.history.log.appendedBy m r.history.disk)).IsNumbered
      r.made := h.numbered.appendEntries _
  generalize x.appendEntries (r.history.log.appendedBy m r.history.disk) = y at *
  let f := r.history.log.writer.files
  have hdisk : (r.history.step m).disk = d ∨ (r.history.step m).disk =
      ((f.rotate .released r.history.log.settings.maxArchives m.now).perform d).2 := hdisk
  have hkept (hsame : (r.history.step m).disk = d) : ∃ y, (r.step m).Follows y :=
    ⟨y, follows_filled hshows hfiles hnumbered (hsame ▸ hstores)⟩
  rcases hdisk with hsame | hrotate
  · exact hkept hsame
  cases hthere : y.active.isSome with
  | false =>
    have hnot : d.has f.active = false := hstores.has_active.trans hthere
    apply hkept
    rw [hrotate, LogFiles.rotate_of_not_has hnot]
  | true =>
    obtain ⟨hnow, hyear⟩ := hclock.valid m.now (by simp)
    obtain ⟨p, hholds⟩ := hstores.holds hthere
    rcases hholds.rotate (LogName.isPlainName_nextArchive hnow hyear y.names) hthere
      r.history.log.settings.maxArchives with ⟨hsame, -⟩ | ⟨hgone, hshifted⟩
    · exact hkept (hrotate.trans hsame)
    · rw [← hrotate] at hgone hshifted
      exact ⟨_, follows_rotated hshows hfiles hnumbered hclock hcount hthere hholds.ascending hgone
        hshifted⟩

theorem run_follows {r : LogRecord} {x : LogFolder} (h : r.Follows x) {moves : List LogMove}
    (hown : ∀ m ∈ moves, QueryLog.IsFilingMove m)
    (hfiles : ∀ n, (r.run (moves.take n)).files = r.files)
    (hclock : Timestamp.IsClock (r.made ++ moves.map (·.now)))
    (hcount : (r.run moves).KeepsCount) : ∃ y, (r.run moves).Follows y := by
  induction moves generalizing r x with
  | nil => exact ⟨x, h⟩
  | cons m moves ih =>
    obtain ⟨hm, hmoves⟩ := List.forall_mem_cons.mp hown
    have hstepFiles : (r.step m).files = r.files := hfiles 1
    have hstepCount : (r.step m).KeepsCount := fun t =>
      Nat.le_trans ((made_isPrefix (r.step m) moves).sublist.countP_le) (hcount t)
    have hnow : Timestamp.IsClock (r.made ++ [m.now]) :=
      hclock.sublist ((List.append_sublist_append_left _).mpr (by simp))
    obtain ⟨y, hy⟩ := step_follows h hm hstepFiles hnow hstepCount
    refine ih hy hmoves (fun n => ?_) ?_ hcount
    · rw [hstepFiles]
      exact hfiles (n + 1)
    · refine hclock.sublist ?_
      rcases step_made r m with hsame | hmore
      · rw [hsame]
        exact (List.append_sublist_append_left _).mpr (List.sublist_cons_self _ _)
      · rw [hmore, List.append_assoc]
        exact List.Sublist.refl _

/-! ## Nothing is lost but pruned archives -/

def IsComplete (r : LogRecord) : Prop :=
  r.shelf.pruned.flatten ++ r.shelf.entries = r.history.appended

theorem step_isComplete {r : LogRecord} (h : r.IsComplete) (m : LogMove) :
    (r.step m).IsComplete := by
  have hfilled : (r.filled m).pruned.flatten ++ (r.filled m).entries =
      (r.history.step m).appended := by
    rw [filled, LogShelf.append_entries, (r.shelf.append_rest _).1, ← List.append_assoc, h]
    rfl
  unfold IsComplete step
  split_ifs
  · rw [LogShelf.rotate_entries]
    exact hfilled
  · exact hfilled

theorem run_isComplete {r : LogRecord} (h : r.IsComplete) (moves : List LogMove) :
    (r.run moves).IsComplete := by
  induction moves generalizing r with
  | nil => exact h
  | cons m moves ih => exact ih (step_isComplete h m)

/-- From one moment to the next the predecessor may become an archive, and only the oldest archives
go, so many that those that stay are as many as the settings allow. -/
def PrunesOldest (r next : LogRecord) : Prop :=
  ∃ gone new, (new = [] ∨ new = r.shelf.predecessor.toList) ∧
    next.shelf.pruned = r.shelf.pruned ++ gone ∧
    gone ++ next.shelf.archives = r.shelf.archives ++ new ∧
    (gone ≠ [] → next.shelf.archives.length = r.history.log.settings.maxArchives)

theorem step_prunesOldest (r : LogRecord) (m : LogMove) : r.PrunesOldest (r.step m) := by
  obtain ⟨hpruned, harchives, hpredecessor⟩ :=
    r.shelf.append_rest (r.history.log.appendedBy m r.history.disk)
  rw [← filled] at hpruned harchives hpredecessor
  unfold PrunesOldest step
  split_ifs
  · refine ⟨_, (r.filled m).predecessor.toList, .inr (by rw [hpredecessor]),
      by rw [LogShelf.rotate, hpruned], ?_, ?_⟩
    · simp only [LogShelf.rotate, List.take_append_drop, harchives]
    · simp only [LogShelf.rotate, ne_eq, List.take_eq_nil_iff, not_or, List.length_drop]
      omega
  · exact ⟨[], [], .inl rfl, by simp [hpruned], by simp [harchives], by simp⟩

theorem run_prunesOldest (r : LogRecord) (moves : List LogMove) (n : Nat) :
    (r.run (moves.take n)).PrunesOldest (r.run (moves.take (n + 1))) := by
  have hrun : r.run (moves.take (n + 1)) = (r.run (moves.take n)).run moves[n]?.toList := by
    rw [List.take_add_one, run, List.foldl_append]
    rfl
  rw [hrun]
  cases moves[n]? with
  | none => exact ⟨[], [], .inl rfl, by simp [run], by simp [run], by simp⟩
  | some m => exact step_prunesOldest _ m

/-! ## The order of times -/

theorem acceptedBy_time {q : QueryLog} {m : LogMove} {e : LogEntry}
    (h : q.acceptedBy m = some e) : e.time = m.now := by
  rcases m with ⟨event, now⟩
  cases event with
  | add p =>
    simp only [QueryLog.acceptedBy] at h
    split_ifs at h
    unfold LogEntry.ofParams at h
    cases hsubject : p.subject with
    | error e =>
      rw [hsubject] at h
      cases h
    | ok subject =>
      rw [hsubject] at h
      cases h
      rfl
  | _ => cases h

theorem run_times (h : LogHistory) (moves : List LogMove) :
    ((h.run moves).accepted.map (·.time)).Sublist
      (h.accepted.map (·.time) ++ moves.map (·.now)) := by
  induction moves generalizing h with
  | nil => simp [LogHistory.run]
  | cons m moves ih =>
    have hstep : ((h.step m).accepted.map (·.time)).Sublist
        (h.accepted.map (·.time) ++ [m.now]) := by
      simp only [LogHistory.step, List.map_append]
      refine (List.append_sublist_append_left _).mpr ?_
      cases hacc : h.log.acceptedBy m with
      | none => exact List.nil_sublist _
      | some e => simp [acceptedBy_time hacc]
    refine (ih (h.step m)).trans ?_
    rw [List.map_cons, ← List.singleton_append, ← List.append_assoc]
    exact (List.append_sublist_append_right _).mpr hstep

end LogRecord

namespace QueryLog

/-- As long as no more than 2^32 archives are made in one millisecond, the files of a log that
started in an empty directory hold the last lines that were appended, in their order. What is
missing in front are whole archives, pruned where there were more than the settings allow, and the
times do not go back. -/
theorem files_are_ordered_record {q : QueryLog} (hq : q.IsEmpty) {d : Disk}
    (hempty : q.writer.files.StartsEmpty d) {moves : List LogMove}
    (hown : ∀ m ∈ moves, IsFilingMove m)
    (hfiles : LogHistory.KeepsFiles { log := q, disk := d } moves)
    (hclock : Timestamp.IsClock (moves.map (·.now))) :
    let start : LogRecord := { history := { log := q, disk := d } }
    let r := start.run moves
    r.KeepsCount →
      r.files.Reads r.history.disk (r.shelf.archives.map LogWriter.bytesOf)
          (r.shelf.predecessor.map LogWriter.bytesOf) (r.shelf.active.map LogWriter.bytesOf) ∧
        r.shelf.pruned.flatten ++ r.shelf.entries = r.history.appended ∧
        r.files.content r.history.disk <:+ LogWriter.bytesOf r.history.appended ∧
        (r.shelf.entries.map (·.time)).Pairwise Timestamp.NotAfter ∧
        ∀ n, (start.run (moves.take n)).PrunesOldest (start.run (moves.take (n + 1))) := by
  intro start r hcount
  have hstart : start.Follows {} := by
    refine ⟨.inr ⟨hempty, rfl⟩, ⟨rfl, rfl, rfl⟩, ?_⟩
    simp [LogFolder.IsNumbered, LogFolder.names]
  have hkeeps (n : Nat) : (start.run (moves.take n)).files = start.files := by
    rw [LogRecord.files, LogRecord.run_history]
    exact hfiles n
  obtain ⟨x, hx⟩ := LogRecord.run_follows hstart hown hkeeps hclock hcount
  have hcomplete : r.IsComplete := LogRecord.run_isComplete (by rfl : start.IsComplete) moves
  have hreads := hx.stores.reads
  rw [hx.shows.archives, hx.shows.predecessor, hx.shows.active] at hreads
  refine ⟨hreads, hcomplete, ?_, ?_, start.run_prunesOldest moves⟩
  · rw [hreads.content_eq, ← LogWriter.bytesOf_entries, ← hcomplete, LogWriter.bytesOf_append]
    exact List.suffix_append _ _
  · -- the entries on the shelf are some of those that were accepted, in their order
    have hhistory : r.history = LogHistory.run { log := q, disk := d } moves :=
      LogRecord.run_history start moves
    have haccounted := LogHistory.run_accounted (LogHistory.empty_accounted hq d) moves
    rw [← hhistory] at haccounted
    have hentries : r.shelf.entries.Sublist r.history.accepted := by
      refine List.Sublist.trans ?_ haccounted.keeps.in_order
      rw [LogHistory.kept_eq, ← hcomplete]
      exact (List.sublist_append_right _ _).trans (List.sublist_append_left _ _)
    have htimes := LogRecord.run_times { log := q, disk := d } moves
    rw [← hhistory] at htimes
    exact hclock.ordered.sublist ((hentries.map _).trans htimes)

/-- A log that files every entry alone and keeps one archive. -/
def eager : QueryLog :=
  fresh { dir := "log", memSize := 1, maxFileSize := 1, maxArchives := 1 } (fun _ => .ok none) false

def addOf (host : String) : LogMove := ⟨.add (.ofHost host), ⟨0, 0⟩⟩

theorem eager_startsEmpty : eager.writer.files.StartsEmpty {} :=
  ⟨by decide +kernel, by decide +kernel⟩

theorem eager_files : LogHistory.Files { log := eager, disk := {} } {} :=
  ⟨⟨fresh_isEmpty _ _ _, rfl, rfl, rfl, rfl, rfl, rfl⟩, .inr ⟨eager_startsEmpty, rfl⟩, rfl⟩

/-- A run that adds entries at one time, whatever their hosts, is one that the files follow. -/
theorem additions_allowed {moves : List LogMove} (h : ∀ m ∈ moves, ∃ host, m = addOf host) :
    (∀ m ∈ moves, IsFilingMove m) ∧ LogHistory.KeepsFiles { log := eager, disk := {} } moves ∧
      Timestamp.IsClock (moves.map (·.now)) := by
  refine ⟨fun m hm => ?_, LogHistory.keepsFiles_of_settings _ fun m hm s hs => ?_,
    Timestamp.isClock_of_all_eq (t := ⟨0, 0⟩) ⟨by decide, by decide⟩ fun t ht => ?_⟩
  · obtain ⟨host, rfl⟩ := h m hm
    simp [addOf, IsFilingMove]
  · obtain ⟨host, rfl⟩ := h m hm
    cases hs
  · obtain ⟨m, hm, rfl⟩ := List.mem_map.mp ht
    obtain ⟨host, rfl⟩ := h m hm
    rfl

theorem four_rotations_at_once_are_ordered :
    ∃ e, LogEntry.ofParams (.ofHost "a.example") ⟨0, 0⟩ = .ok e ∧
      let start : LogRecord := { history := { log := eager, disk := {} } }
      let r := start.run (List.replicate 4 (addOf "a.example"))
      r.KeepsCount ∧ r.history.appended = [e, e, e, e] ∧
        r.files.content r.history.disk = LogWriter.bytesOf [e, e] ∧
        r.files.content r.history.disk <:+ LogWriter.bytesOf r.history.appended := by
  obtain ⟨e, he⟩ : ∃ e, LogEntry.ofParams (.ofHost "a.example") ⟨0, 0⟩ = .ok e := ⟨_, rfl⟩
  refine ⟨e, he, ?_⟩
  intro start r
  have hcount : r.KeepsCount := LogRecord.keepsCount_of_short (by decide)
  have hsame : ∀ m ∈ List.replicate 4 (addOf "a.example"), ∃ host, m = addOf host :=
    fun m hm => ⟨_, List.eq_of_mem_replicate hm⟩
  obtain ⟨hown, hkeeps, hclock⟩ := additions_allowed hsame
  have hrecord := files_are_ordered_record eager_files.eager.toIsEmpty eager_startsEmpty hown hkeeps
    hclock hcount
  obtain ⟨hfiles, happended, -, -⟩ :=
    eager_files.add_many he (by decide) (by decide) (by decide) rfl (n := 2) (by decide)
  have hmoves : List.replicate (2 + 2) (addOf "a.example") = List.replicate 4 (addOf "a.example") :=
    rfl
  have hentries : [] ++ List.replicate (2 + 2) e = [e, e, e, e] := rfl
  have hhistory : r.history =
      LogHistory.run { log := eager, disk := {} } (List.replicate 4 (addOf "a.example")) :=
    LogRecord.run_history start _
  rw [← addOf, hmoves, ← hhistory] at hfiles happended
  refine ⟨hcount, ?_, ?_, hrecord.2.2.1⟩
  · rw [happended, hentries]
  · have hcontent := hfiles.content_eq
    simp only [List.map_cons, List.map_nil, List.flatten_cons, List.flatten_nil, List.append_nil,
      Option.getD_some, ← LogWriter.bytesOf_append, List.singleton_append] at hcontent
    rw [LogRecord.files, hcontent]

/-- After 2^32 archives in one millisecond the next one gets the counter 0. It is taken for the
oldest one and pruned, although its entry is newer than that of the archive that stays. A build with
checks panics in the rotation instead. -/
theorem counter_runs_over :
    let moves := List.replicate (2 ^ 32) (addOf "a.example") ++ [addOf "b.example"]
    let start : LogRecord := { history := { log := eager, disk := {} } }
    let full := start.run moves
    let r := full.step (addOf "c.example")
    eager.IsEmpty ∧ eager.writer.files.StartsEmpty {} ∧
      (∀ m ∈ moves ++ [addOf "c.example"], IsFilingMove m) ∧
      LogHistory.KeepsFiles { log := eager, disk := {} } (moves ++ [addOf "c.example"]) ∧
      Timestamp.IsClock ((moves ++ [addOf "c.example"]).map (·.now)) ∧
      ¬r.files.content r.history.disk <:+ LogWriter.bytesOf r.history.appended ∧
      ∃ c d, LogEntry.ofParams (.ofHost "c.example") ⟨0, 0⟩ = .ok c ∧
        (LogWriter.appendLines full.files [c]).perform full.history.disk = (.ok (), d) ∧
        (full.files.rotate .checked 1 ⟨0, 0⟩).perform d = (.error .overflow, d) := by
  obtain ⟨n, hn⟩ : ∃ n, n + 2 = 2 ^ 32 := ⟨2 ^ 32 - 2, by decide⟩
  rw [← hn]
  intro moves start full r
  have hmoves : ∀ m ∈ moves ++ [addOf "c.example"], ∃ host, m = addOf host := by
    intro m hm
    rcases List.mem_append.mp hm with hbefore | hlast
    · rcases List.mem_append.mp hbefore with hmany | hnext
      · exact ⟨_, List.eq_of_mem_replicate hmany⟩
      · exact ⟨_, List.mem_singleton.mp hnext⟩
    · exact ⟨_, List.mem_singleton.mp hlast⟩
  obtain ⟨hown, hkeeps, hclock⟩ := additions_allowed hmoves
  obtain ⟨a, b, c, ha, hb, hc, hlength, hne⟩ : ∃ a b c,
      LogEntry.ofParams (.ofHost "a.example") ⟨0, 0⟩ = .ok a ∧
        LogEntry.ofParams (.ofHost "b.example") ⟨0, 0⟩ = .ok b ∧
        LogEntry.ofParams (.ofHost "c.example") ⟨0, 0⟩ = .ok c ∧
        a.line.utf8ByteSize = b.line.utf8ByteSize ∧ a.line ≠ b.line :=
    ⟨_, _, _, rfl, rfl, rfl, by decide +kernel, by decide +kernel⟩
  obtain ⟨⟨happended, hcontent⟩, d, hwritten, hpanic⟩ :=
    eager_files.add_too_many ha (by decide) (by decide) (by decide) rfl hn hb hc
  have hfull : full.history = LogHistory.run { log := eager, disk := {} } moves :=
    LogRecord.run_history start moves
  refine ⟨eager_files.eager.toIsEmpty, eager_startsEmpty, hown, hkeeps, hclock, ?_, c, d, hc, ?_, ?_⟩
  · have hhistory : r.history = full.history.step (addOf "c.example") := full.step_history _
    intro hsuffix
    rw [LogRecord.files, hhistory, hfull] at hsuffix
    simp only [moves, addOf] at hsuffix
    rw [happended, hcontent, LogWriter.bytesOf_append, LogWriter.bytesOf_append,
      List.suffix_append_self_iff] at hsuffix
    have hbytes : (LogWriter.bytesOf [a]).length = (LogWriter.bytesOf [b]).length := by
      rw [LogWriter.length_bytesOf, LogWriter.length_bytesOf, hlength]
    have hsame := List.suffix_of_suffix_length_le hsuffix (List.suffix_append _ _)
      (Nat.le_of_eq hbytes)
    exact hne (LogWriter.line_eq_of_bytesOf (hsame.eq_of_length hbytes))
  · rw [LogRecord.files, hfull]
    exact hwritten
  · rw [LogRecord.files, hfull]
    exact hpanic

end QueryLog
end DnsFilter
