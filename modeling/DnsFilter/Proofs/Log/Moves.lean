import DnsFilter.Proofs.Log.Appending
import DnsFilter.Proofs.Log.Rotation
/-!
# What a move makes of the folder of a log

A move of the log itself appends the entries that it flushes, or none of them, and then rotates the
files at most once.
-/
namespace DnsFilter

namespace LogFolder

def appendEntries (x : LogFolder) (entries : List LogEntry) : LogFolder :=
  if entries = [] then x else x.append (LogWriter.bytesOf entries)

end LogFolder

namespace LogWriter

theorem rotateIfLarge_cases (f : LogFiles) (p : RotationPolicy) (now : Timestamp) (d : Disk) :
    rotateIfLarge f p now d = d ∨
      rotateIfLarge f p now d = ((f.rotate .released p.maxArchives now).perform d).2 := by
  unfold rotateIfLarge
  split_ifs
  · exact .inr rfl
  · exact .inl rfl

theorem write_stores {w : LogWriter} {d : Disk} {x : LogFolder} (h : w.files.Stores d x)
    (entries : List LogEntry) (p : RotationPolicy) (now : Timestamp) :
    ∃ d', w.files.Stores d' (x.appendEntries (w.appendedBy entries d)) ∧
      ((w.write entries p now d).2.2 = d' ∨
        (w.write entries p now d).2.2 = ((w.files.rotate .released p.maxArchives now).perform d').2) := by
  unfold write appendedBy
  by_cases hnil : w.backlog ++ entries = []
  · refine ⟨d, ?_, .inl ?_⟩
    · rw [hnil]
      split <;> exact h
    · simp only [if_pos hnil]
  · obtain ⟨d', ⟨happend, p', hholds⟩ | ⟨e, happend, hstores, -⟩⟩ :=
      h.appendLines (w.backlog ++ entries)
    · simp only [if_neg hnil, happend, LogFolder.appendEntries]
      exact ⟨d', .inl ⟨p', hholds⟩, rotateIfLarge_cases w.files p now d'⟩
    · simp only [if_neg hnil, happend]
      exact ⟨d', hstores, .inl rfl⟩

end LogWriter

namespace QueryLog

theorem next_stores {q : QueryLog} {m : LogMove} {d : Disk} {x : LogFolder}
    (h : q.writer.files.Stores d x) (hown : IsFilingMove m) :
    ∃ d', q.writer.files.Stores d' (x.appendEntries (q.appendedBy m d)) ∧
      ((q.next m d).2 = d' ∨
        (q.next m d).2 =
          ((q.writer.files.rotate .released q.settings.maxArchives m.now).perform d').2) := by
  cases hflushed : q.flushedBy m with
  | none =>
    rw [appendedBy_of_not_flushed hflushed]
    exact ⟨d, h, next_of_not_flushed hown hflushed d⟩
  | some b =>
    rw [appendedBy_of_flushed hflushed, next_of_flushed hflushed]
    exact LogWriter.write_stores h b.toList q.policy m.now

end QueryLog
end DnsFilter
