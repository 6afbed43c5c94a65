import DnsFilter.Log.Writer
import DnsFilter.Proofs.Log.RotationSteps
import DnsFilter.Proofs.Text.Blank
import DnsFilter.Proofs.Text.Utf8
/-!
# Rotations that are due

A file is old by the time of its first record. A file that does not begin with a record is not rotated
however large it is, since its size is not asked for.
-/
namespace DnsFilter

namespace LogFiles

/-- The record in the first line of a file, if there is one. -/
def firstRecord? (content : Bytes) : Option LogEntry :=
  (Utf8.decode? (firstLine content)).bind fun line =>
    LogEntry.parse? (String.ofList (Text.trimEnd line))

section
variable {f : LogFiles} {now : Timestamp} {d d' : Disk}

/-! ## The active file is retired -/

theorem prune_find {current : String}
    (hcurrent : current = LogName.active ∨ current = LogName.predecessor) {r : Path} {n : Node}
    (h : d.find (f.pathOf current) = .ok (r, n)) (maxArchives : Nat) :
    ((f.prune maxArchives).perform d).2.find (f.pathOf current) = .ok (r, n) := by
  have hremovals (names : List String)
      (hnames : ∀ name ∈ names, LogName.isArchive name.toList = true) :
      ((f.removals names).perform d).2.find (f.pathOf current) = .ok (r, n) := by
    induction names generalizing d with
    | nil => exact h
    | cons name names ih =>
      obtain ⟨hname, hrest⟩ := List.forall_mem_cons.mp hnames
      rw [removals_cons]
      cases hremove : d.removeFile (f.pathOf name) with
      | error e => exact h
      | ok d' =>
        refine ih (Disk.find_of_removeFile hremove h fun hlocate => ?_) hrest
        exact find_current_ne hcurrent h hname hlocate rfl
  rw [prune_perform]
  cases hnames : f.archives d with
  | error e => exact h
  | ok names =>
    refine hremovals _ fun name hname => ?_
    obtain ⟨p, -, rfl⟩ := isAt_of_archives hnames
    exact (LogName.mem_archives.mp (List.mem_of_mem_take hname)).2

theorem rotate_retires {a : Path} {content : Bytes}
    (hactive : d.find f.active = .ok (a, .plain content)) {maxArchives : Nat}
    (h : (f.rotate .released maxArchives now).perform d = (.ok (), d')) :
    d'.has f.active = false ∧ d'.read f.predecessor = .ok content := by
  have hcourse := rotate_course (Disk.has_of_find hactive) h
  cases hcourse with
  | @moved archived renamed _ _ harchived hrename hprune =>
    obtain ⟨p, hp, -, hentry⟩ :=
      Disk.isFolder_of_find LogName.isPlainName_active (harchived.find_active hactive)
    have hgone := Disk.not_has_of_rename LogName.isPlainName_active
      LogName.isPlainName_predecessor active_ne_predecessor hrename
    obtain ⟨-, hread, -⟩ := hp.rename_join LogName.isPlainName_active hentry
      LogName.isPlainName_predecessor active_ne_predecessor hrename
    have hpruned := prune_not_has (f := f) hgone maxArchives
    rw [hprune] at hpruned
    obtain ⟨r, n, hfind⟩ := Disk.exists_find_of_read hread
    have hstays := prune_find (.inr rfl) hfind maxArchives
    rw [hprune] at hstays
    refine ⟨hpruned, ?_⟩
    rw [← hread]
    exact Disk.read_of_find_eq (hstays.trans hfind.symm)

/-! ## The age of the active file -/

theorem isText_firstLine {content : Bytes} (h : Utf8.IsText content) :
    Utf8.IsText (firstLine content) := by
  have hsplit : firstLine content ++ content.dropWhile (· ≠ 10) = content :=
    List.takeWhile_append_dropWhile
  cases hrest : content.dropWhile (· ≠ 10) with
  | nil =>
    rw [hrest, List.append_nil] at hsplit
    rwa [hsplit]
  | cons b rest =>
    have hb : b = 10 := by
      have hnot := List.head?_dropWhile_not (· ≠ 10) content
      rw [hrest] at hnot
      simpa using hnot
    rw [← hsplit, hrest] at h
    exact Utf8.isText_of_append (by rw [hb]; decide) h

theorem parse?_blank : LogEntry.parse? "" = none := by decide +kernel

/-- The age is that of the first record, and a file that begins with none has no age. -/
theorem activeStartedAt_eq {content : Bytes} (hread : d.read f.active = .ok content)
    (htext : Utf8.IsText content) :
    f.activeStartedAt d = .ok ((firstRecord? content).map (·.time)) := by
  obtain ⟨line, hline⟩ := Option.isSome_iff_exists.mp (isText_firstLine htext)
  unfold activeStartedAt firstRecord?
  rw [hread, hline]
  simp only [hline, Option.bind_some]
  split_ifs with hblank
  · rw [Text.trimEnd_of_allBlank (Text.allBlank_of_trim hblank), String.ofList_nil, parse?_blank]
    rfl
  · rfl

end

end LogFiles

/-- A file of some content is to be rotated: it is too large, or its first record is old. -/
def RotationPolicy.wantsRotation (p : RotationPolicy) (now : Timestamp) (content : Bytes) : Bool :=
  p.isTooLarge content.length || (LogFiles.firstRecord? content).any fun e =>
    decide ((p.interval.nanos : Int) ≤ now.nanosSince e.time)

namespace LogWriter

/-- Where a rotation succeeds, the look at a readable active file performs it, and retires the file,
if the file is too large or its first record is old, provided that there is a first record. Otherwise
nothing is changed. So what is wanted is done unless a file is too large that begins with no
record. -/
theorem rotates_when_due_iff {w : LogWriter} {p : RotationPolicy} {now : Timestamp} {d d' : Disk}
    {a : Path} {content : Bytes} (hactive : d.find w.files.active = .ok (a, .plain content))
    (htext : Utf8.IsText content)
    (hrotate : (w.files.rotate .released p.maxArchives now).perform d = (.ok (), d')) :
    (w.rotateIfDue p now d =
        if (LogFiles.firstRecord? content).isSome && p.wantsRotation now content then (.ok true, d')
        else (.ok false, d)) ∧
      d'.has w.files.active = false ∧ d'.read w.files.predecessor = .ok content ∧
      ((w.rotateIfDue p now d =
          if p.wantsRotation now content then (.ok true, d') else (.ok false, d)) ↔
        (p.isTooLarge content.length = true → (LogFiles.firstRecord? content).isSome = true)) := by
  have hread : d.read w.files.active = .ok content := by
    rw [Disk.read, hactive]
    rfl
  have hsize : w.files.activeSize d = .ok content.length := by
    rw [LogFiles.activeSize, hactive]
  have hlook : w.rotateIfDue p now d =
      if (LogFiles.firstRecord? content).isSome && p.wantsRotation now content then (.ok true, d')
      else (.ok false, d) := by
    rw [rotateIfDue, LogFiles.activeStartedAt_eq hread htext, RotationPolicy.wantsRotation]
    cases LogFiles.firstRecord? content with
    | none => rfl
    | some e =>
      simp only [Option.map_some, hsize, hrotate, RotationPolicy.isDue, Option.isSome_some,
        Option.any_some, Bool.true_and]
  obtain ⟨hgone, hretired⟩ := LogFiles.rotate_retires hactive hrotate
  refine ⟨hlook, hgone, hretired, ?_⟩
  rw [hlook]
  cases hfirst : LogFiles.firstRecord? content with
  | some e => simp
  | none =>
    cases hlarge : p.isTooLarge content.length <;>
      simp [RotationPolicy.wantsRotation, hfirst, hlarge]

/-- A directory with an active file, and what a rotation makes of it. -/
def activeOnly (content : Bytes) : Disk :=
  ⟨[(["log"], .directory), (["log", "querylog.json"], .plain content)]⟩

def predecessorOnly (content : Bytes) : Disk :=
  ⟨[(["log"], .directory), (["log", "querylog.json.1"], .plain content)]⟩

/-- A file whose first record is a day old is rotated. -/
theorem day_old_file_is_rotated :
    let content : Bytes := Utf8.encode ("\x7b\"time\":\"2024-01-01T00:00:00Z\",\"qh\":\"a\",\"qt\":\"A\"," ++
      "\"qc\":\"IN\",\"ip\":\"1.1.1.1\",\"verdict\":\x7b\"reason\":\"no_match\"\x7d," ++
      "\"elapsed_us\":0\x7d\n").toList
    (ofDir "log").rotateIfDue ⟨.ofDays 1, 0, 10⟩ ⟨1704153600, 0⟩ (activeOnly content) =
      (.ok true, predecessorOnly content) := by
  intro content
  have hactive : (activeOnly content).find (ofDir "log").files.active =
      .ok (["log", "querylog.json"], .plain content) := by decide +kernel
  have hrotate : ((ofDir "log").files.rotate .released 10 ⟨1704153600, 0⟩).perform (activeOnly content) =
      (.ok (), predecessorOnly content) := by decide +kernel
  have hwanted : ((LogFiles.firstRecord? content).isSome &&
      RotationPolicy.wantsRotation ⟨.ofDays 1, 0, 10⟩ ⟨1704153600, 0⟩ content) = true := by
    decide +kernel
  obtain ⟨hlook, -⟩ := rotates_when_due_iff (p := ⟨.ofDays 1, 0, 10⟩) hactive
    (by decide +kernel) hrotate
  rw [hlook, if_pos hwanted]

/-- A file that has reached the limit is not rotated if its first line is no record. -/
theorem large_file_without_record_stays :
    let p : RotationPolicy := ⟨.ofDays 1, 1, 10⟩
    p.isTooLarge [98, 10].length = true ∧ Utf8.IsText [98, 10] ∧
      ((ofDir "log").files.rotate .released 10 ⟨1704153600, 0⟩).perform (activeOnly [98, 10]) =
        (.ok (), predecessorOnly [98, 10]) ∧
      (ofDir "log").rotateIfDue p ⟨1704153600, 0⟩ (activeOnly [98, 10]) =
        (.ok false, activeOnly [98, 10]) := by
  decide +kernel

end LogWriter
end DnsFilter
