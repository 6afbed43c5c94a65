import DnsFilter.Proofs.Log.Accounting
/-!
# Closing the query log

The first call of `close` leaves nothing behind in a log that writes files. The log is shut down
then for good: every later call changes nothing, although entries are still accepted and the log can
be started again.
-/
namespace DnsFilter

theorem LogWriter.write_backlog {w : LogWriter} {entries : List LogEntry} {p : RotationPolicy}
    {now : Timestamp} {d : Disk} {n : Nat} (h : (w.write entries p now d).1 = .ok n) :
    (w.write entries p now d).2.1.backlog = [] := by
  unfold write at h ⊢
  by_cases hnil : w.backlog ++ entries = []
  · simp only [if_pos hnil]
    exact (List.append_eq_nil_iff.mp hnil).1
  · simp only [if_neg hnil] at h ⊢
    rcases happ : (appendLines w.files (w.backlog ++ entries)).perform d with ⟨_ | _, d'⟩
    · rw [happ] at h
      cases h
    · rfl

namespace QueryLog

theorem flush_backlog {q : QueryLog} {now : Timestamp} {d : Disk} {n : Nat}
    (h : (q.flush now d).1 = .ok n) : (q.flush now d).2.1.writer.backlog = [] := by
  rw [flush_eq] at h ⊢
  exact LogWriter.write_backlog h

theorem next_isShutDown (q : QueryLog) (m : LogMove) (d : Disk) :
    (q.next m d).1.isShutDown = true ↔ q.isShutDown = true ∨ m.event = .close := by
  rcases m with ⟨event, now⟩
  cases event with
  | add p =>
    simp only [next, add_eq]
    cases q.acceptedBy ⟨.add p, now⟩ with
    | none => simp
    | some e =>
      simp only [accept_eq, schedule]
      split_ifs <;> simp [buffered]
  | runScheduled =>
    simp only [next, runScheduled]
    split_ifs <;> simp
  | close =>
    simp only [next, close]
    split_ifs <;> simp_all
  | setSettings s =>
    simp only [next, setSettings_eq]
    cases s.validate <;> simp [Except.map]
  | start =>
    simp only [next, start]
    cases q.state <;> simp
  | clear => simp [next, clear]
  | _ => simp [next]

end QueryLog

namespace LogHistory

/-- Nothing waits in a stopped log: all that was accepted was appended or given up before. -/
structure IsSettled (h : LogHistory) : Prop where
  ring_nil : h.log.buffer.ring.toList = []
  spilled_nil : h.log.buffer.spilled = []
  backlog_nil : h.log.writer.backlog = []
  all_appended : h.accepted.Perm (h.appended ++ (h.pushedOut ++ h.cleared))
  stopped : h.log.state = .stopped

theorem Accounted.isSettled {h : LogHistory} (hh : h.Accounted) (hheld : h.log.held = [])
    (hstate : h.log.state = .stopped) : h.IsSettled := by
  have hcomplete := hh.keeps.complete
  rw [kept_eq, hheld, List.append_nil] at hcomplete
  obtain ⟨hbacklog, hbuffer⟩ := List.append_eq_nil_iff.mp hheld
  obtain ⟨hspilled, hring⟩ := List.append_eq_nil_iff.mp hbuffer
  exact ⟨hring, hspilled, hbacklog, hcomplete, hstate⟩

theorem run_isShutDown (h : LogHistory) (moves : List LogMove) :
    (h.run moves).log.isShutDown = true ↔
      h.log.isShutDown = true ∨ ∃ m ∈ moves, m.event = .close := by
  induction moves generalizing h with
  | nil => simp [run]
  | cons m moves ih =>
    have hstep := QueryLog.next_isShutDown h.log m h.disk
    rw [List.exists_mem_cons_iff, ← or_assoc, ← hstep]
    exact ih (h.step m)

theorem step_close_of_isShutDown {h : LogHistory} (hs : h.log.isShutDown = true)
    (now : Timestamp) : h.step ⟨.close, now⟩ = h := by
  simp [step, QueryLog.next, QueryLog.close, QueryLog.acceptedBy, QueryLog.appendedBy,
    QueryLog.flushedBy, QueryLog.pushedOutBy, QueryLog.clearedBy, hs]

theorem step_close_isSettled {h : LogHistory} (hh : h.Accounted)
    (hs : h.log.isShutDown = false) (hfile : h.log.settings.fileEnabled = true) {now : Timestamp}
    {n : Nat} (hflush : (h.log.flush now h.disk).1 = .ok n) :
    (h.step ⟨.close, now⟩).IsSettled := by
  have hclose : (h.step ⟨.close, now⟩).log =
      { (h.log.flush now h.disk).2.1 with isShutDown := true, state := .stopped } := by
    change (h.log.close now h.disk).1 = _
    simp only [QueryLog.close_eq hs, hfile, if_true]
  apply (step_accounted hh ⟨.close, now⟩).isSettled
  · have hbuffer : h.log.buffer.clear.toList = [] := LogBuffer.clear_toList hh.ring_sound
    rw [hclose]
    simp [QueryLog.held, QueryLog.flush_backlog hflush, hbuffer]
  · rw [hclose]

/-- With files written, and a write that succeeds, `close` settles the log exactly if it is the
first call, or if the log was settled before. What counts as appended then is in the files. -/
theorem close_settles_iff {s : LogSettings} {clients : ClientLookup} {hasScheduler : Bool}
    {q : QueryLog} (hq : QueryLog.ofSettings s clients hasScheduler = .ok q) (d : Disk)
    (moves : List LogMove) (now : Timestamp) {n : Nat} :
    let start : LogHistory := { log := q, disk := d }
    let h := start.run moves
    h.log.settings.fileEnabled = true → (h.log.flush now h.disk).1 = .ok n →
      ((h.step ⟨.close, now⟩).IsSettled ↔ (∀ m ∈ moves, m.event ≠ .close) ∨ h.IsSettled) ∧
        start.IsFiled (moves ++ [⟨.close, now⟩]) := by
  intro start h hfile hflush
  have hfresh : q = .fresh s clients hasScheduler := by
    rw [QueryLog.ofSettings_eq] at hq
    cases hv : s.validate <;> rw [hv] at hq <;> cases hq
    rfl
  have haccounted : h.Accounted :=
    run_accounted (empty_accounted (hfresh ▸ QueryLog.fresh_isEmpty s clients hasScheduler) d) moves
  have hshut : h.log.isShutDown = true ↔ ∃ m ∈ moves, m.event = .close := by
    rw [run_isShutDown]
    simp [hfresh, start, QueryLog.fresh]
  refine ⟨⟨?_, ?_⟩, start.isFiled _⟩
  · intro hsettled
    by_cases hs : h.log.isShutDown = true
    · rw [step_close_of_isShutDown hs] at hsettled
      exact .inr hsettled
    · left
      intro m hm hclose
      exact hs (hshut.mpr ⟨m, hm, hclose⟩)
  · intro hcases
    cases hs : h.log.isShutDown with
    | false => exact step_close_isSettled haccounted hs hfile hflush
    | true =>
      rcases hcases with hfirst | hsettled
      · obtain ⟨m, hm, hclose⟩ := hshut.mp hs
        exact absurd hclose (hfirst m hm)
      · rw [step_close_of_isShutDown hs]
        exact hsettled

def startedLog : LogHistory :=
  run { log := .fresh { memSize := 2 } (fun _ => .ok none) true, disk := {} } [⟨.start, default⟩]

theorem first_close_settles :
    let h := startedLog.run [⟨.add (.ofHost "a.example"), default⟩]
    h.log.held.length = 1 ∧ (h.step ⟨.close, default⟩).IsSettled ∧
      (h.step ⟨.close, default⟩).disk.read h.log.writer.files.active =
        .ok (LogWriter.bytesOf h.accepted) := by
  intro h
  have hflush : (h.log.flush default h.disk).1 = .ok 1 := by decide +kernel
  have hmade : QueryLog.ofSettings { memSize := 2 } (fun _ => .ok none) true =
      .ok (.fresh { memSize := 2 } (fun _ => .ok none) true) := rfl
  let moves : List LogMove := [⟨.start, default⟩, ⟨.add (.ofHost "a.example"), default⟩]
  obtain ⟨hiff, hfiled⟩ := close_settles_iff hmade {} moves default rfl hflush
  refine ⟨by decide +kernel, hiff.mpr (.inl (by simp [moves])), ?_⟩
  have hwritten := (hfiled moves ⟨.close, default⟩ [] rfl).1 ⟨nofun, nofun⟩
  have happended : h.accepted = h.log.appendedBy ⟨.close, default⟩ h.disk := by decide +kernel
  rw [happended]
  exact hwritten.read_new (by decide +kernel) (by decide +kernel) (by decide +kernel)

/-- An entry that comes between two calls of `close` stays in the ring, and a log that was started
between them stays running. -/
theorem second_close_leaves_entry_and_state :
    let filled := startedLog.run [⟨.close, default⟩, ⟨.add (.ofHost "a.example"), default⟩]
    let started := startedLog.run [⟨.close, default⟩, ⟨.start, default⟩]
    filled.log.settings.fileEnabled = true ∧
      (filled.log.flush default filled.disk).1 = .ok 1 ∧
      ((filled.step ⟨.close, default⟩).log.buffer.ring.toList.map (·.host) = ["a.example"] ∧
        (filled.step ⟨.close, default⟩).appended = []) ∧
      (started.log.flush default started.disk).1 = .ok 0 ∧
      (started.step ⟨.close, default⟩).log.state = .running := by
  decide +kernel

end LogHistory
end DnsFilter
