import DnsFilter.Proofs.Log.Conservation
/-!
# The directory of a log

A log stays with the files of one directory unless its settings name another one.
-/
namespace DnsFilter

namespace QueryLog

@[simp] theorem write_files (w : LogWriter) (entries : List LogEntry) (p : RotationPolicy)
    (now : Timestamp) (d : Disk) : (w.write entries p now d).2.1.files = w.files := by
  unfold LogWriter.write
  by_cases hnil : w.backlog ++ entries = []
  · simp only [if_pos hnil]
  · simp only [if_neg hnil]
    rcases (LogWriter.appendLines w.files (w.backlog ++ entries)).perform d with ⟨_ | _, _⟩ <;> rfl

@[simp] theorem flush_files (q : QueryLog) (now : Timestamp) (d : Disk) :
    (q.flush now d).2.1.writer.files = q.writer.files := by
  rw [flush_eq]
  exact write_files _ _ _ _ _

theorem next_files (q : QueryLog) (m : LogMove) (d : Disk) :
    (q.next m d).1.writer.files = q.writer.files ∨
      ∃ s, m.event = .setSettings s ∧ (q.next m d).1.writer = q.writer.setDir s.dir := by
  rcases m with ⟨event, now⟩
  cases event with
  | setSettings s =>
    simp only [next, setSettings_eq]
    cases s.validate with
    | error _ => exact .inl rfl
    | ok _ => exact .inr ⟨s, rfl, rfl⟩
  | add p =>
    left
    simp only [next, add_eq]
    cases q.acceptedBy ⟨.add p, now⟩ with
    | none => rfl
    | some e =>
      simp only [accept_eq, schedule]
      split_ifs
      · rfl
      · exact flush_files _ now d
      · rfl
  | runScheduled =>
    left
    simp only [next, runScheduled]
    split_ifs
    · rfl
    · exact flush_files _ now d
  | close =>
    left
    simp only [next, close]
    split_ifs
    · rfl
    · exact flush_files q now d
    · rfl
  | clear =>
    left
    change (q.writer.clear d).2.1.files = q.writer.files
    unfold LogWriter.clear
    rcases q.writer.files.removeCurrent.perform d with ⟨_ | _, _⟩ <;> rfl
  | start =>
    left
    simp only [next, start]
    cases q.state <;> rfl
  | flush => exact .inl (flush_files q now d)
  | rotateIfDue => exact .inl rfl
  | look => exact .inl rfl
  | moveCallers b => exact .inl rfl
  | disturb d' => exact .inl rfl

end QueryLog

namespace LogHistory

/-- The log wrote to one directory before and after each of the moves. -/
def KeepsFiles (h : LogHistory) (moves : List LogMove) : Prop :=
  ∀ n, (h.run (moves.take n)).log.writer.files = h.log.writer.files

theorem keepsFiles_of_settings (h : LogHistory) {moves : List LogMove}
    (hmoves : ∀ m ∈ moves, ∀ s, m.event = .setSettings s →
      Disk.parts h.log.writer.files.dir = Disk.parts s.dir) : h.KeepsFiles moves := by
  induction moves generalizing h with
  | nil =>
    intro n
    rw [List.take_nil]
    rfl
  | cons m moves ih =>
    obtain ⟨hm, hrest⟩ := List.forall_mem_cons.mp hmoves
    have hstep : (h.step m).log.writer.files = h.log.writer.files := by
      rcases QueryLog.next_files h.log m h.disk with hsame | ⟨s, hs, hnext⟩
      · exact hsame
      · have hdir : (h.step m).log.writer = h.log.writer.setDir s.dir := hnext
        rw [hdir, LogWriter.setDir, if_pos (hm s hs)]
    intro n
    cases n with
    | zero => rfl
    | succ n =>
      have hkeeps := ih (h.step m) (by rw [hstep]; exact hrest) n
      rw [hstep] at hkeeps
      exact hkeeps

end LogHistory

end DnsFilter
