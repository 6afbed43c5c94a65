import DnsFilter.Proofs.Log.Appending
/-!
# Accounting for log entries

Every accepted entry was appended to a file, waits in the log, was pushed out of the ring while no
files were written, or was cleared. Those that were appended or wait keep the order of their
arrival.
-/
namespace DnsFilter

namespace LogHistory

theorem kept_eq (h : LogHistory) : h.kept = h.appended ++ h.log.held := by
  simp [kept, QueryLog.held, LogBuffer.toList]

structure Accounted (h : LogHistory) : Prop where
  ring_sound : h.log.buffer.ring.IsSound
  keeps : Keeps h.accepted h.kept (h.pushedOut ++ h.cleared)

theorem empty_accounted {q : QueryLog} (hq : q.IsEmpty) (d : Disk) :
    Accounted { log := q, disk := d } := by
  constructor
  · exact hq.ring_sound
  · have hkept : kept { log := q, disk := d } = [] := by rw [kept_eq]; exact hq.held_nil
    rw [hkept]
    exact Keeps.refl []

theorem step_accounted {h : LogHistory} (hh : h.Accounted) (m : LogMove) :
    (h.step m).Accounted := by
  constructor
  · exact QueryLog.next_sound hh.ring_sound m h.disk
  · have hbefore := hh.keeps.append_right (h.log.acceptedBy m).toList
    have hmove := (QueryLog.next_keeps hh.ring_sound m h.disk).append_left h.appended
    rw [kept_eq, List.append_assoc] at hbefore
    have hboth := hbefore.trans hmove
    have hkept : (h.step m).kept =
        h.appended ++ (h.log.appendedBy m h.disk ++ (h.log.next m h.disk).1.held) := by
      rw [kept_eq, ← List.append_assoc]
      rfl
    rw [hkept]
    -- each of the two lists of what is lost grows by its own part
    refine hboth.perm ?_
    simp only [step, List.append_assoc]
    refine List.Perm.append_left _ ?_
    rw [← List.append_assoc, ← List.append_assoc]
    exact List.perm_append_comm.append_right _

theorem run_accounted {h : LogHistory} (hh : h.Accounted) (moves : List LogMove) :
    (h.run moves).Accounted := by
  induction moves generalizing h with
  | nil => exact hh
  | cons m moves ih => exact ih (step_accounted hh m)

theorem run_cleared (h : LogHistory) {moves : List LogMove}
    (hclear : ∀ m ∈ moves, m.event ≠ .clear) : (h.run moves).cleared = h.cleared := by
  induction moves generalizing h with
  | nil => rfl
  | cons m moves ih =>
    obtain ⟨hm, hmoves⟩ := List.forall_mem_cons.mp hclear
    have hnone : h.log.clearedBy m = [] := by
      unfold QueryLog.clearedBy
      split
      · contradiction
      · rfl
    have hstep : (h.step m).cleared = h.cleared := by simp [step, hnone]
    exact (ih (h.step m) hmoves).trans hstep

theorem run_pushedOut {h : LogHistory} {moves : List LogMove} (hfiling : h.IsFiling moves) :
    (h.run moves).pushedOut = h.pushedOut := by
  induction moves generalizing h with
  | nil => rfl
  | cons m moves ih =>
    have hnone : h.log.pushedOutBy m = [] :=
      QueryLog.pushedOutBy_of_filing (hfiling 0) (hfiling 1)
    have hstep : (h.step m).pushedOut = h.pushedOut := by simp [step, hnone]
    have hrest : (h.step m).IsFiling moves := fun n => hfiling (n + 1)
    exact (ih hrest).trans hstep

/-- Files are written all the time where all settings say so. -/
theorem isFiling_of_settings {h : LogHistory} (hh : h.log.settings.fileEnabled = true)
    {moves : List LogMove}
    (hmoves : ∀ m ∈ moves, ∀ s, m.event = .setSettings s → s.fileEnabled = true) :
    h.IsFiling moves := by
  induction moves generalizing h with
  | nil =>
    intro n
    rw [List.take_nil]
    exact hh
  | cons m moves ih =>
    obtain ⟨hm, hrest⟩ := List.forall_mem_cons.mp hmoves
    have hstep : (h.step m).log.settings.fileEnabled = true := by
      rcases QueryLog.next_settings h.log m h.disk with hsame | ⟨s, hs, -, hnew⟩
      · exact (congrArg _ hsame).trans hh
      · exact (congrArg _ hnew).trans (hm s hs)
    intro n
    cases n with
    | zero => exact hh
    | succ n => exact ih hstep hrest n

end LogHistory

namespace QueryLog

/-- No entry is lost, duplicated or reordered on its way to the files, and those that count as
appended reached the active file, each behind all that was there. Where files are not written all the
time, the entries that are missing are those that were pushed out of the ring meanwhile. -/
theorem entries_kept_in_order {q : QueryLog} (hq : q.IsEmpty) (d : Disk) {moves : List LogMove}
    (hclear : ∀ m ∈ moves, m.event ≠ .clear) :
    let start : LogHistory := { log := q, disk := d }
    let h := start.run moves
    (start.IsFiling moves → h.kept = h.accepted) ∧
      h.kept.Sublist h.accepted ∧ h.accepted.Perm (h.kept ++ h.pushedOut) ∧
      start.IsFiled moves := by
  intro start h
  have hkeeps := (LogHistory.run_accounted (LogHistory.empty_accounted hq d) moves).keeps
  have hcleared : h.cleared = [] := LogHistory.run_cleared start hclear
  rw [hcleared, List.append_nil] at hkeeps
  refine ⟨fun hfiling => ?_, hkeeps.in_order, hkeeps.complete, start.isFiled moves⟩
  have hpushed : h.pushedOut = [] := LogHistory.run_pushedOut hfiling
  rw [hpushed] at hkeeps
  exact hkeeps.eq.symm

/-- Three entries go through a ring of two, the fourth one waits in a ring of one. -/
def spillingMoves : List LogMove :=
  [⟨.add (.ofHost "a.example"), default⟩, ⟨.add (.ofHost "b.example"), default⟩,
    ⟨.add (.ofHost "c.example"), default⟩, ⟨.runScheduled, default⟩,
    ⟨.add (.ofHost "d.example"), default⟩, ⟨.setSettings { memSize := 1 }, default⟩]

theorem spilled_entries_kept_in_order :
    let start : LogHistory := { log := fresh { memSize := 2 } (fun _ => .ok none) true, disk := {} }
    let full := start.run (spillingMoves.take 3)
    let h := start.run spillingMoves
    start.IsFiling spillingMoves ∧ h.kept = h.accepted ∧
      h.appended.map (·.host) = ["a.example", "b.example", "c.example"] ∧
      h.accepted.map (·.host) = ["a.example", "b.example", "c.example", "d.example"] ∧
      (full.step ⟨.runScheduled, default⟩).disk.read full.log.writer.files.active =
        .ok (LogWriter.bytesOf h.appended) := by
  intro start full h
  have hclear : ∀ m ∈ spillingMoves, m.event ≠ .clear := by simp [spillingMoves]
  have hfiling : start.IsFiling spillingMoves := by
    apply LogHistory.isFiling_of_settings rfl
    simp [spillingMoves]
  obtain ⟨hkept, -, -, hfiled⟩ := entries_kept_in_order (fresh_isEmpty _ _ _) start.disk hclear
  refine ⟨hfiling, hkept hfiling, by decide +kernel, by decide +kernel, ?_⟩
  have hwritten := (hfiled (spillingMoves.take 3) ⟨.runScheduled, default⟩ (spillingMoves.drop 4)
    rfl).1 ⟨nofun, nofun⟩
  have happended : h.appended = full.log.appendedBy ⟨.runScheduled, default⟩ full.disk := by
    decide +kernel
  rw [happended]
  exact hwritten.read_new (by decide +kernel) (by decide +kernel) (by decide +kernel)

end QueryLog
end DnsFilter
