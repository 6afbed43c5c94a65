import DnsFilter.Proofs.Log.Directory
import DnsFilter.Proofs.Log.Moves
/-!
# Logs that file every entry alone

A log that holds one entry in memory, cannot schedule flushes and rotates files of any size writes
each entry into a file of its own and retires that file at once.
-/
namespace DnsFilter

structure QueryLog.IsEager (q : QueryLog) : Prop extends QueryLog.IsEmpty q where
  not_pending : q.buffer.isFlushPending = false
  enabled : q.settings.enabled = true
  filing : q.settings.fileEnabled = true
  one_entry : q.settings.memSize = 1
  any_size : q.settings.maxFileSize = 1
  no_scheduler : q.hasScheduler = false

structure LogHistory.Files (h : LogHistory) (x : LogFolder) : Prop where
  eager : h.log.IsEager
  stores : h.log.writer.files.Stores h.disk x
  no_active : x.active = none

namespace QueryLog

variable {q : QueryLog} (hq : q.IsEager)
include hq

theorem IsEager.acceptedBy {p : LogParams} {now : Timestamp} {e : LogEntry}
    (he : LogEntry.ofParams p now = .ok e) : q.acceptedBy ⟨.add p, now⟩ = some e := by
  simp [QueryLog.acceptedBy, hq.enabled, he, Except.toOption]

theorem IsEager.buffered_toList (e : LogEntry) : (q.buffered e).buffer.toList = [e] := by
  have hkeeps := buffered_keeps hq.ring_sound e
  rw [if_pos hq.filing, hq.held_nil] at hkeeps
  have hheld : (q.buffered e).held = [e] := hkeeps.eq.symm
  have hbacklog : (q.buffered e).writer.backlog = [] :=
    (List.append_eq_nil_iff.mp hq.held_nil).1
  rwa [held, hbacklog, List.nil_append] at hheld

theorem IsEager.asksForFlush (e : LogEntry) : q.asksForFlush e = true := by
  have hnil : q.buffer.ring.toList = [] :=
    (List.append_eq_nil_iff.mp (List.append_eq_nil_iff.mp hq.held_nil).2).2
  have hring : q.buffer.ring.Holds [] := hnil ▸ hq.ring_sound
  have hpos : ([] : List LogEntry).length < q.buffer.ring.capacity :=
    Nat.lt_of_le_of_lt (Nat.zero_le _) hring.head_lt
  have hlength : (q.buffered e).buffer.ring.length = 1 :=
    (Ring.append_holds_of_lt hring hpos e).1.length_eq
  have hpending : (q.buffered e).buffer.isFlushPending = false := hq.not_pending
  simp [QueryLog.asksForFlush, hq.filing, LogBuffer.isFlushDue, hpending, hq.one_entry, hlength]

theorem IsEager.flushedBy {p : LogParams} {now : Timestamp} {e : LogEntry}
    (he : LogEntry.ofParams p now = .ok e) :
    q.flushedBy ⟨.add p, now⟩ = some (q.buffered e).buffer := by
  simp [QueryLog.flushedBy, hq.acceptedBy he, hq.asksForFlush, hq.no_scheduler]

/-- Every entry is written at once, and the log is eager again. -/
theorem IsEager.add {p : LogParams} {now : Timestamp} {e : LogEntry}
    (he : LogEntry.ofParams p now = .ok e) {d : Disk}
    (happended : q.appendedBy ⟨.add p, now⟩ d = [e]) :
    (q.next ⟨.add p, now⟩ d).1.IsEager ∧
      (q.next ⟨.add p, now⟩ d).1.settings = q.settings := by
  have hkeeps := next_keeps hq.ring_sound ⟨.add p, now⟩ d
  have hlost : q.pushedOutBy ⟨.add p, now⟩ ++ q.clearedBy ⟨.add p, now⟩ = [] := by
    simp [pushedOutBy, hq.acceptedBy he, hq.filing, clearedBy]
  rw [hq.held_nil, hq.acceptedBy he, happended, hlost] at hkeeps
  have hheld : (q.next ⟨.add p, now⟩ d).1.held = [] := by simpa using hkeeps.eq
  have hsound := next_sound hq.ring_sound ⟨.add p, now⟩ d
  rw [next_add_of_flush (hq.acceptedBy he) (hq.asksForFlush e) hq.no_scheduler] at hheld hsound ⊢
  rw [flush_eq] at hheld hsound ⊢
  exact ⟨⟨⟨hsound, hheld⟩, rfl, hq.enabled, hq.filing, hq.one_entry, hq.any_size,
    hq.no_scheduler⟩, rfl⟩

end QueryLog

namespace LogWriter

theorem toByteArray_bytesOf (e : LogEntry) :
    (bytesOf [e]).toByteArray = (e.line ++ "\n").toByteArray := by
  rw [← String.ofList_toList (s := e.line ++ "\n"), String.toByteArray_ofList]
  simp [bytesOf, linesOf, Utf8.encode, List.utf8Encode]

theorem length_bytesOf (e : LogEntry) : (bytesOf [e]).length = e.line.utf8ByteSize + 1 := by
  rw [← List.size_toByteArray, toByteArray_bytesOf, String.size_toByteArray,
    String.utf8ByteSize_append]
  rfl

theorem line_eq_of_bytesOf {a b : LogEntry} (h : bytesOf [a] = bytesOf [b]) : a.line = b.line := by
  have hbytes := congrArg List.toByteArray h
  rw [toByteArray_bytesOf, toByteArray_bytesOf, String.toByteArray_inj] at hbytes
  exact (String.append_left_inj _).mp hbytes

end LogWriter

namespace LogFiles

theorem Holds.activeSize {f : LogFiles} {p : Path} {d : Disk} {x : LogFolder} (h : f.Holds p d x)
    {content : Bytes} (hcontent : x.active = some content) :
    f.activeSize d = .ok content.length := by
  have hfind := Disk.find_join h.place LogName.isPlainName_active
    (h.active_fits (by rw [hcontent]; rfl))
  rw [h.active, hcontent] at hfind
  rw [LogFiles.activeSize, active, pathOf, hfind]
  rfl

end LogFiles

namespace LogHistory

theorem Files.content_eq {h : LogHistory} {x : LogFolder} (hx : h.Files x) :
    h.log.writer.files.content h.disk =
      (x.archives.map (·.2)).flatten ++ x.predecessor.getD [] := by
  rw [hx.stores.reads.content_eq, hx.no_active]
  exact List.append_nil _

section
variable {h : LogHistory} {p : LogParams} {now : Timestamp} {e : LogEntry}
  (he : LogEntry.ofParams p now = .ok e) (hnow : now.IsWellFormed) (hyear : now.HasFourDigitYear)
  (hdir : h.log.writer.files.dir.utf8ByteSize + 1 + Disk.nameLimit < Disk.textLimit)
include he hnow hyear hdir

omit hnow hyear in
/-- The directory of the log is short enough for its active file, so that the entry is appended. -/
theorem Files.append {x : LogFolder} (hx : h.Files x) :
    h.log.appendedBy ⟨.add p, now⟩ h.disk = [e] ∧
      ∃ d place, (LogWriter.appendLines h.log.writer.files [e]).perform h.disk = (.ok (), d) ∧
        h.log.writer.files.Holds place d (x.append (LogWriter.bytesOf [e])) := by
  have hbacklog : h.log.writer.backlog = [] := (List.append_eq_nil_iff.mp hx.eager.held_nil).1
  obtain ⟨d, ⟨happend, place, hholds⟩ | ⟨_, _, _, hlong⟩⟩ := hx.stores.appendLines [e]
  · refine ⟨?_, d, place, happend, hholds⟩
    rw [QueryLog.appendedBy_of_flushed (hx.eager.flushedBy he), hx.eager.buffered_toList,
      LogWriter.appendedBy, hbacklog, List.nil_append, happend]
  · exact absurd (Disk.fits_of_short LogName.isPlainName_active hdir) hlong

omit hnow hyear in
theorem Files.add_log {x : LogFolder} (hx : h.Files x) :
    (h.step ⟨.add p, now⟩).log.IsEager ∧
      (h.step ⟨.add p, now⟩).appended = h.appended ++ [e] ∧
      (h.step ⟨.add p, now⟩).log.writer.files = h.log.writer.files ∧
      (h.step ⟨.add p, now⟩).log.settings = h.log.settings := by
  have happended := (hx.append he hdir).1
  obtain ⟨heager, hsettings⟩ := hx.eager.add he happended
  refine ⟨heager, ?_, ?_, hsettings⟩
  · rw [← happended]
    rfl
  · rcases QueryLog.next_files h.log ⟨.add p, now⟩ h.disk with hsame | ⟨_, hevent, _⟩
    · exact hsame
    · cases hevent

/-- An entry becomes the new predecessor, and what was the predecessor an archive. -/
theorem Files.add {x : LogFolder} (hx : h.Files x) {all : List (String × Bytes)}
    (hall : LogFiles.Archives x now all) :
    (h.step ⟨.add p, now⟩).Files
      { archives := all.drop (all.length - h.log.settings.maxArchives)
        predecessor := some (LogWriter.bytesOf [e]) } := by
  have hq := hx.eager
  have hplain := LogName.isPlainName_nextArchive hnow hyear
  have hfits {name : String} (hname : Disk.IsPlainName name) :
      Disk.Fits h.log.writer.files.dir name := Disk.fits_of_short hname hdir
  obtain ⟨-, d', place, happend, hholds⟩ := hx.append he hdir
  obtain ⟨heager, -, hfiles, -⟩ := hx.add_log he hdir
  have hactive : (x.append (LogWriter.bytesOf [e])).active = some (LogWriter.bytesOf [e]) := by
    simp [LogFolder.append, hx.no_active]
  have hdisk : (h.step ⟨.add p, now⟩).disk =
      ((h.log.writer.files.rotate .released h.log.settings.maxArchives now).perform d').2 := by
    have hlarge : h.log.policy.isTooLarge (LogWriter.bytesOf [e]).length = true := by
      simp [RotationPolicy.isTooLarge, QueryLog.policy, RotationPolicy.ofSettings, hq.any_size,
        LogWriter.length_bytesOf]
    have hwrite : (h.step ⟨.add p, now⟩).disk = _ := QueryLog.next_of_flushed (hq.flushedBy he) _
    have hbacklog : h.log.writer.backlog = [] := (List.append_eq_nil_iff.mp hq.held_nil).1
    rw [hwrite, hq.buffered_toList, LogWriter.write, hbacklog, List.nil_append,
      if_neg (List.cons_ne_nil e []), happend]
    simp only [LogWriter.rotateIfLarge, hholds.activeSize hactive, Except.toOption,
      Option.getD_some, hlarge, if_true]
    rfl
  refine ⟨heager, ?_, rfl⟩
  rcases hholds.rotate (hplain _) (by rw [hactive]; rfl) h.log.settings.maxArchives with
    ⟨_, hlong | hlong⟩ | ⟨-, hrotated⟩
  · exact absurd (hfits LogName.isPlainName_predecessor) hlong
  · exact absurd (hfits (hplain _)) hlong
  · have hstores := hrotated all hall
    rw [hfiles, hdisk]
    rw [LogFolder.shift, hactive] at hstores
    exact .inl ⟨place, hstores⟩

/-! ## One archive, and one time for all entries -/

variable (hmax : h.log.settings.maxArchives = 1)
include hmax

theorem Files.add_next {n : Nat} (hn : n + 1 < Text.limit32) {oldest last : Bytes}
    (hx : h.Files { archives := [(LogName.numbered now n, oldest)], predecessor := some last }) :
    (h.step ⟨.add p, now⟩).Files
      { archives := [(LogName.numbered now (n + 1), last)]
        predecessor := some (LogWriter.bytesOf [e]) } := by
  have hbefore : (LogName.order (LogName.numbered now n).toList).Before
      (LogName.order (LogName.numbered now (n + 1)).toList) := by
    rw [LogName.order_numbered hyear (Nat.lt_of_succ_lt hn), LogName.order_numbered hyear hn]
    exact .inr ⟨rfl, Nat.lt_succ_self n⟩
  have hall : LogFiles.Archives
      { archives := [(LogName.numbered now n, oldest)], predecessor := some last } now
      [(LogName.numbered now n, oldest), (LogName.numbered now (n + 1), last)] := by
    refine ⟨?_, ?_⟩
    · rw [← LogName.nextArchive_numbered_of_lt hyear hn]
      exact List.Perm.refl _
    · simpa [LogName.IsAscending] using hbefore
  have hadd := hx.add he hnow hyear hdir hall
  rw [hmax] at hadd
  exact hadd

/-- After the highest number the predecessor becomes an archive with the number zero, which is
pruned as the oldest one. -/
theorem Files.add_over {oldest last : Bytes}
    (hx : h.Files
      { archives := [(LogName.numbered now (Text.limit32 - 1), oldest)]
        predecessor := some last }) :
    (h.step ⟨.add p, now⟩).Files
      { archives := [(LogName.numbered now (Text.limit32 - 1), oldest)]
        predecessor := some (LogWriter.bytesOf [e]) } := by
  have hlimit : Text.limit32 - 1 + 1 = Text.limit32 := rfl
  have hlast : Text.limit32 - 1 < Text.limit32 := Nat.lt_succ_self _
  have hzero : (0 : Nat) < Text.limit32 := Nat.zero_lt_of_lt hlast
  have hname : LogName.nextArchive now [LogName.numbered now (Text.limit32 - 1)] =
      String.ofList (LogName.archive now.stamp.toList (some 0)) := by
    rw [LogName.nextArchive_numbered hyear hlast, hlimit, Nat.mod_self]
  have hbefore : (LogName.order (String.ofList
        (LogName.archive now.stamp.toList (some 0))).toList).Before
      (LogName.order (LogName.numbered now (Text.limit32 - 1)).toList) := by
    rw [String.toList_ofList, LogName.order_archive_some hzero, LogName.order_numbered hyear hlast]
    have hpos : 0 < Text.limit32 - 1 := by decide
    exact .inr ⟨rfl, hpos⟩
  have hall : LogFiles.Archives
      { archives := [(LogName.numbered now (Text.limit32 - 1), oldest)]
        predecessor := some last } now
      [(String.ofList (LogName.archive now.stamp.toList (some 0)), last),
        (LogName.numbered now (Text.limit32 - 1), oldest)] := by
    refine ⟨?_, ?_⟩
    · rw [← hname]
      exact List.Perm.swap _ _ _
    · simpa [LogName.IsAscending] using hbefore
  have hadd := hx.add he hnow hyear hdir hall
  rw [hmax] at hadd
  exact hadd

omit hmax hnow in
/-- After the highest number a build with checks for overflow panics in the rotation, behind the entry
that it has written. -/
theorem Files.add_panics {oldest last : Bytes}
    (hx : h.Files
      { archives := [(LogName.numbered now (Text.limit32 - 1), oldest)]
        predecessor := some last }) (maxArchives : Nat) :
    ∃ d, (LogWriter.appendLines h.log.writer.files [e]).perform h.disk = (.ok (), d) ∧
      (h.log.writer.files.rotate .checked maxArchives now).perform d = (.error .overflow, d) := by
  obtain ⟨-, d, place, happend, hholds⟩ := hx.append he hdir
  have hover : LogName.runsOver now.stamp.toList
      [LogName.numbered now (Text.limit32 - 1)] = true := by
    have hlast : Text.limit32 - 1 < Text.limit32 := Nat.lt_succ_self _
    have hfull : Text.limit32 ≤ Text.limit32 - 1 + 1 := Nat.le_refl _
    simp [LogName.runsOver, LogName.order_numbered hyear hlast, hfull]
  exact ⟨d, happend, LogFiles.rotate_panics maxArchives hholds.has_active hholds.has_predecessor
    hholds.archives_eq hover⟩

/-- Where one entry is added again and again, the archive that is there has the number of those
before it. -/
theorem Files.add_many (hx : h.Files {}) {n : Nat} (hn : n < Text.limit32) :
    let k := h.run (List.replicate (n + 2) ⟨.add p, now⟩)
    k.Files
        { archives := [(LogName.numbered now n, LogWriter.bytesOf [e])]
          predecessor := some (LogWriter.bytesOf [e]) } ∧
      k.appended = h.appended ++ List.replicate (n + 2) e ∧
      k.log.writer.files = h.log.writer.files ∧ k.log.settings = h.log.settings := by
  induction n with
  | zero =>
    have hfirst := hx.add he hnow hyear hdir (show LogFiles.Archives {} now [] from rfl)
    obtain ⟨-, happended, hfiles, hsettings⟩ := hx.add_log he hdir
    rw [List.drop_nil] at hfirst
    rw [← hfiles] at hdir
    have hsecond := hfirst.add he hnow hyear hdir
      (show LogFiles.Archives _ now [(LogName.nextArchive now [], LogWriter.bytesOf [e])] from
        ⟨List.Perm.refl _, List.pairwise_singleton _ _⟩)
    obtain ⟨-, happended', hfiles', hsettings'⟩ := hfirst.add_log he hdir
    rw [hsettings, hmax] at hsecond
    rw [happended, List.append_assoc] at happended'
    exact ⟨hsecond, happended', hfiles'.trans hfiles, hsettings'.trans hsettings⟩
  | succ n ih =>
    obtain ⟨hk, happended, hfiles, hsettings⟩ := ih (Nat.lt_of_succ_lt hn)
    rw [← hfiles] at hdir
    rw [← hsettings] at hmax
    have hnext := hk.add_next he hnow hyear hdir hmax hn
    obtain ⟨-, happended', hfiles', hsettings'⟩ := hk.add_log he hdir
    rw [happended, List.append_assoc, ← List.replicate_succ'] at happended'
    rw [List.replicate_succ', run, List.foldl_append]
    exact ⟨hnext, happended', hfiles'.trans hfiles, hsettings'.trans hsettings⟩

/-- After one archive for each number the last but one entry is gone, or its rotation panics. -/
theorem Files.add_too_many (hx : h.Files {}) {n : Nat} (hn : n + 2 = Text.limit32)
    {p₁ p₂ : LogParams} {e₁ e₂ : LogEntry} (he₁ : LogEntry.ofParams p₁ now = .ok e₁)
    (he₂ : LogEntry.ofParams p₂ now = .ok e₂) :
    let full := h.run (List.replicate (n + 2) ⟨.add p, now⟩ ++ [⟨.add p₁, now⟩])
    let k := full.step ⟨.add p₂, now⟩
    (k.appended = h.appended ++ List.replicate (n + 2) e ++ [e₁] ++ [e₂] ∧
        k.log.writer.files.content k.disk = LogWriter.bytesOf [e] ++ LogWriter.bytesOf [e₂]) ∧
      ∃ d, (LogWriter.appendLines full.log.writer.files [e₂]).perform full.disk = (.ok (), d) ∧
        (full.log.writer.files.rotate .checked 1 now).perform d = (.error .overflow, d) := by
  have hnumber : n + 1 = Text.limit32 - 1 := by omega
  obtain ⟨hmany, happended, hfiles, hsettings⟩ :=
    hx.add_many he hnow hyear hdir hmax (by omega : n < Text.limit32)
  rw [run, List.foldl_append, ← run]
  rw [← hfiles] at hdir
  rw [← hsettings] at hmax
  have hlast := hmany.add_next he₁ hnow hyear hdir hmax (hn ▸ Nat.lt_succ_self _)
  obtain ⟨-, happended₁, hfiles₁, hsettings₁⟩ := hmany.add_log he₁ hdir
  rw [← hfiles₁] at hdir
  rw [← hsettings₁] at hmax
  rw [hnumber] at hlast
  have hover := hlast.add_over he₂ hnow hyear hdir hmax
  obtain ⟨-, happended₂, -, -⟩ := hlast.add_log he₂ hdir
  rw [happended₁, happended] at happended₂
  refine ⟨⟨happended₂, ?_⟩, hlast.add_panics he₂ hyear hdir 1⟩
  have hcontent := hover.content_eq
  simp only [List.map_cons, List.map_nil, List.flatten_cons, List.flatten_nil, List.append_nil,
    Option.getD_some] at hcontent
  exact hcontent

end

end LogHistory
end DnsFilter
