import DnsFilter.Proofs.Log.Conservation
import DnsFilter.Proofs.Log.Folder
/-!
# What reaches the active file

A move of a log that flushes entries puts their lines behind all that the active file held, and then
rotates the files if that one is too large. A move that appends nothing makes at most the directory
of the files, or rotates them.
-/
namespace DnsFilter

namespace LogFiles

/-- The disk once the directory of the files was made, as far as that succeeds. -/
def withDirectory (f : LogFiles) (d : Disk) : Disk := ((OnDisk.makeDirectories f.dir).perform d).2

/-- The active file holds `old`, which is all that it held before, and `more` behind that. But for the
directory nothing else was written. -/
structure Extends (f : LogFiles) (old more : Bytes) (d d' : Disk) : Prop where
  kept : ∀ bytes, d.read f.active = .ok bytes → bytes = old
  opened : (f.withDirectory d).read f.active = .ok old ∨
    (f.withDirectory d).read f.active = .error .missing ∧ old = []
  written : (f.withDirectory d).write f.active (old ++ more) = .ok d'
  read : d'.read f.active = .ok (old ++ more)

inductive Writes (f : LogFiles) (p : RotationPolicy) (now : Timestamp) (d : Disk) :
    List LogEntry → Disk → Prop
  | nothing : Writes f p now d [] d
  | directory : Writes f p now d [] (f.withDirectory d)
  | rotation : Writes f p now d [] ((f.rotate .released p.maxArchives now).perform d).2
  | lines {entries : List LogEntry} {old : Bytes} {d' : Disk} (hsome : entries ≠ [])
      (h : f.Extends old (LogWriter.bytesOf entries) d d') :
      Writes f p now d entries (LogWriter.rotateIfLarge f p now d')

theorem extends_of_append {f : LogFiles} {d d' : Disk} {more : Bytes}
    (h : (f.withDirectory d).append f.active more = .ok d') : ∃ old, f.Extends old more d d' := by
  obtain ⟨old, hold, hread⟩ := Disk.read_of_append h
  have hmade := OnDisk.makeDirectories_within f.dir d
  refine ⟨old, ?_, hold, ?_, hread⟩
  · intro bytes hbytes
    have hthere : (f.withDirectory d).read f.active = .ok bytes := Disk.read_within hmade hbytes
    rcases hold with hsame | ⟨hmissing, -⟩
    · exact Except.ok.inj (hthere.symm.trans hsame)
    · rw [hmissing] at hthere
      cases hthere
  · unfold Disk.append at h
    rcases hold with hsame | ⟨hmissing, rfl⟩
    · rw [hsame] at h
      exact h
    · rw [hmissing] at h
      exact h

/-- Entries are all of a file that was not there before and has no limit to its size. -/
theorem Writes.read_new {f : LogFiles} {p : RotationPolicy} {now : Timestamp} {d d' : Disk}
    {entries : List LogEntry} (h : f.Writes p now d entries d') (hsome : entries ≠ [])
    (hlimit : p.maxFileSize = 0) (hnew : (f.withDirectory d).read f.active = .error .missing) :
    d'.read f.active = .ok (LogWriter.bytesOf entries) := by
  cases h with
  | lines _ hext =>
    have hlarge (size : Nat) : p.isTooLarge size = false := by
      simp [RotationPolicy.isTooLarge, hlimit]
    rw [LogWriter.rotateIfLarge, hlarge, if_neg Bool.false_ne_true, hext.read]
    rcases hext.opened with hthere | ⟨-, rfl⟩
    · rw [hnew] at hthere
      cases hthere
    · rfl
  | nothing => exact absurd rfl hsome
  | directory => exact absurd rfl hsome
  | rotation => exact absurd rfl hsome

end LogFiles

namespace LogWriter

/-- Lines are appended once the directory is made, or they are not written at all. -/
theorem appendLines_cases (f : LogFiles) (entries : List LogEntry) (d : Disk) :
    (∃ e, (appendLines f entries).perform d = (.error e, f.withDirectory d)) ∨
      ∃ old d', (appendLines f entries).perform d = (.ok (), d') ∧
        f.Extends old (bytesOf entries) d d' := by
  unfold appendLines
  rw [OnDisk.perform_bind]
  rcases hmake : (OnDisk.makeDirectories f.dir).perform d with ⟨e | _, d₁⟩
  · have hmade : f.withDirectory d = d₁ := congrArg Prod.snd hmake
    exact .inl ⟨e, by rw [hmade]⟩
  · have hmade : f.withDirectory d = d₁ := congrArg Prod.snd hmake
    simp only [OnDisk.perform_change]
    cases happ : d₁.append f.active (Utf8.encode (linesOf entries)) with
    | error e => exact .inl ⟨e, by rw [hmade]⟩
    | ok d' =>
      rw [← hmade] at happ
      obtain ⟨old, hold⟩ := LogFiles.extends_of_append happ
      exact .inr ⟨old, d', rfl, hold⟩

theorem write_writes (w : LogWriter) (entries : List LogEntry) (p : RotationPolicy)
    (now : Timestamp) (d : Disk) :
    w.files.Writes p now d (w.appendedBy entries d) (w.write entries p now d).2.2 := by
  unfold write appendedBy
  by_cases hnil : w.backlog ++ entries = []
  · simp only [hnil, if_true]
    split <;> exact .nothing
  · rw [if_neg hnil]
    rcases appendLines_cases w.files (w.backlog ++ entries) d with ⟨e, happ⟩ | ⟨old, d', happ, hold⟩
    · rw [happ]
      exact .directory
    · rw [happ]
      exact .lines hnil hold

theorem rotateIfDue_cases (w : LogWriter) (p : RotationPolicy) (now : Timestamp) (d : Disk) :
    (w.rotateIfDue p now d).2 = d ∨
      (w.rotateIfDue p now d).2 = ((w.files.rotate .released p.maxArchives now).perform d).2 := by
  unfold rotateIfDue
  split
  · exact .inl rfl
  · exact .inl rfl
  · split
    · exact .inl rfl
    · split_ifs
      · rcases (w.files.rotate .released p.maxArchives now).perform d with ⟨_ | _, _⟩ <;> exact .inr rfl
      · exact .inl rfl

end LogWriter

namespace QueryLog

/-- The log makes the move itself, and keeps its current files. -/
def IsFilingMove (m : LogMove) : Prop := m.event ≠ .clear ∧ ∀ d, m.event ≠ .disturb d

/-- A move that flushes nothing rotates the files, or leaves the disk as it is. -/
theorem next_of_not_flushed {q : QueryLog} {m : LogMove} (hown : IsFilingMove m)
    (h : q.flushedBy m = none) (d : Disk) :
    (q.next m d).2 = d ∨
      (q.next m d).2 = ((q.writer.files.rotate .released q.settings.maxArchives m.now).perform d).2 := by
  have hdue (now : Timestamp) : (q.rotateIfDue now d).2 = d ∨
      (q.rotateIfDue now d).2 =
        ((q.writer.files.rotate .released q.settings.maxArchives now).perform d).2 := by
    unfold rotateIfDue
    split_ifs
    · exact q.writer.rotateIfDue_cases q.policy now d
    · exact .inl rfl
  rcases m with ⟨event, now⟩
  cases event with
  | add p =>
    left
    simp only [next, add_eq]
    cases hacc : q.acceptedBy ⟨.add p, now⟩ with
    | none => rfl
    | some e =>
      have hnot : (q.asksForFlush e && !q.hasScheduler) = false := by
        simpa [flushedBy, hacc] using h
      simp only [accept_eq]
      split_ifs with hasks
      · have hsched : q.hasScheduler = true := by simpa [hasks] using hnot
        simp [schedule, buffered, hsched]
      · rfl
  | runScheduled =>
    left
    have hzero : q.scheduled = 0 := by simpa [flushedBy] using h
    simp [next, runScheduled, hzero]
  | close =>
    left
    have hnot : q.isShutDown = false → q.settings.fileEnabled = false := by
      simpa [flushedBy] using h
    cases hs : q.isShutDown with
    | true => simp [next, close, hs]
    | false => simp [next, close, hs, hnot hs]
  | setSettings s =>
    left
    simp only [next]
    cases q.setSettings s <;> rfl
  | rotateIfDue => exact hdue now
  | look =>
    simp only [next, look]
    split_ifs
    · exact hdue now
    · exact .inl rfl
  | flush => cases h
  | clear => exact absurd rfl hown.1
  | disturb d' => exact absurd rfl (hown.2 d')
  | start => exact .inl rfl
  | moveCallers hasScheduler => exact .inl rfl

theorem next_writes {q : QueryLog} {m : LogMove} (hown : IsFilingMove m) (d : Disk) :
    q.writer.files.Writes q.policy m.now d (q.appendedBy m d) (q.next m d).2 := by
  cases hflushed : q.flushedBy m with
  | none =>
    rw [appendedBy_of_not_flushed hflushed]
    rcases next_of_not_flushed hown hflushed d with hsame | hrotated
    · rw [hsame]
      exact .nothing
    · rw [hrotated]
      exact .rotation
  | some b =>
    rw [appendedBy_of_flushed hflushed, next_of_flushed hflushed]
    exact q.writer.write_writes b.toList q.policy m.now d

theorem appendedBy_of_not_filing {q : QueryLog} {m : LogMove} (h : ¬IsFilingMove m) (d : Disk) :
    q.appendedBy m d = [] := by
  apply appendedBy_of_not_flushed
  rcases m with ⟨event, now⟩
  cases event with
  | clear => rfl
  | disturb d' => rfl
  | _ => simp [IsFilingMove] at h

end QueryLog

namespace LogHistory

/-- At each of some moves the entries that count as appended, and no others, were written to the
active file. A move that clears the files or is not the log's own appends nothing. -/
def IsFiled (h : LogHistory) (moves : List LogMove) : Prop :=
  ∀ front m back, moves = front ++ m :: back →
    let g := h.run front
    let entries := g.log.appendedBy m g.disk
    (QueryLog.IsFilingMove m →
        g.log.writer.files.Writes g.log.policy m.now g.disk entries (g.step m).disk) ∧
      (¬QueryLog.IsFilingMove m → entries = [])

theorem isFiled (h : LogHistory) (moves : List LogMove) : h.IsFiled moves := by
  intro front m back _ g entries
  exact ⟨fun hown => QueryLog.next_writes hown g.disk,
    fun hnot => QueryLog.appendedBy_of_not_filing hnot g.disk⟩

end LogHistory
end DnsFilter
