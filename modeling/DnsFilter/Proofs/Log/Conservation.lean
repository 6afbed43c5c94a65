import Mathlib.Data.List.Perm.Basic
import DnsFilter.Proofs.Log.History
import DnsFilter.Proofs.Storage.Changes
/-!
# Conservation of log entries

What one event does to the entries that wait in a query log. A flush appends them or leaves them in
the backlog, a new entry goes behind them, and only what is pushed out of the ring while no files
are written, or cleared, is lost.
-/
namespace DnsFilter

/-- The elements of a list are kept in their order, but for some that are lost. -/
structure Keeps {α : Type} (whole kept lost : List α) : Prop where
  in_order : kept.Sublist whole
  complete : whole.Perm (kept ++ lost)

namespace Keeps

variable {α : Type} {a b c e f : List α}

theorem refl (a : List α) : Keeps a a [] := ⟨List.Sublist.refl a, by simp⟩

theorem of_eq (h : a = b) : Keeps a b [] := h ▸ refl a

theorem of_append (h : c ++ b = a) : Keeps a b c := by
  subst h
  exact ⟨List.sublist_append_right c b, List.perm_append_comm⟩

theorem eq (h : Keeps a b []) : a = b := by
  have hlen := h.complete.length_eq
  rw [List.append_nil] at hlen
  exact (h.in_order.eq_of_length hlen.symm).symm

theorem append_left (p : List α) (h : Keeps a b c) : Keeps (p ++ a) (p ++ b) c := by
  constructor
  · exact (List.append_sublist_append_left p).mpr h.in_order
  · rw [List.append_assoc]
    exact h.complete.append_left p

theorem append_right (h : Keeps a b c) (s : List α) : Keeps (a ++ s) (b ++ s) c := by
  constructor
  · exact (List.append_sublist_append_right s).mpr h.in_order
  · have hswap : (b ++ c ++ s).Perm (b ++ s ++ c) := by
      rw [List.append_assoc, List.append_assoc]
      exact List.perm_append_comm.append_left b
    exact (h.complete.append_right s).trans hswap

theorem trans (h : Keeps a b c) (k : Keeps b e f) : Keeps a e (c ++ f) := by
  constructor
  · exact k.in_order.trans h.in_order
  · have hswap : (e ++ f ++ c).Perm (e ++ (c ++ f)) := by
      rw [List.append_assoc]
      exact List.perm_append_comm.append_left e
    exact h.complete.trans ((k.complete.append_right c).trans hswap)

theorem perm (h : Keeps a b c) (hc : c.Perm e) : Keeps a b e :=
  ⟨h.in_order, h.complete.trans (hc.append_left b)⟩

end Keeps

namespace LogBuffer

/-- An entry comes last. Where entries that no longer fit are not kept, the oldest one may go. -/
theorem append_last {b : LogBuffer} (hb : b.ring.IsSound) (keepsAll : Bool) (e : LogEntry) :
    ∃ kept, (b.append keepsAll e).toList = kept ++ [e] ∧
      Keeps b.toList kept (if keepsAll then [] else (b.ring.append e).2.toList) := by
  obtain ⟨hholds, hout⟩ := Ring.append_holds hb e
  have hpos : 0 < b.ring.capacity := Nat.lt_of_le_of_lt (Nat.zero_le _) hb.head_lt
  have hle : b.ring.toList.length + 1 - b.ring.capacity ≤ b.ring.toList.length := by omega
  have hring : (b.ring.append e).1.toList =
      b.ring.toList.drop (b.ring.toList.length + 1 - b.ring.capacity) ++ [e] := by
    rw [Ring.toList_eq hholds, List.drop_append_of_le_length hle]
  cases keepsAll with
  | true =>
    refine ⟨b.toList, ?_, Keeps.refl _⟩
    simp only [append, toList, if_true, List.append_assoc, Ring.toList_append hb e]
  | false =>
    refine ⟨b.spilled ++ b.ring.toList.drop (b.ring.toList.length + 1 - b.ring.capacity), ?_, ?_⟩
    · simp only [append, toList, Bool.false_eq_true, if_false, hring, List.append_assoc]
    · simp only [Bool.false_eq_true, if_false, hout, toList]
      exact (Keeps.of_append (List.take_append_drop _ _)).append_left b.spilled

theorem append_sound {b : LogBuffer} (hb : b.ring.IsSound) (keepsAll : Bool) (e : LogEntry) :
    (b.append keepsAll e).ring.IsSound :=
  (Ring.append_holds hb e).1.isSound

theorem resize_keeps {b : LogBuffer} (hb : b.ring.IsSound) (keepsAll : Bool) {n : Nat}
    (hn : 1 ≤ n) : Keeps b.toList (b.resize keepsAll n).toList
      (if keepsAll then [] else b.ring.toList.take (b.ring.length - n)) := by
  have hring := Ring.toList_resize hb hn
  unfold resize
  split_ifs with hcap hall hall
  · exact Keeps.refl _
  · -- a ring of this capacity has nothing that does not fit
    have hfit : b.ring.length - n = 0 := by
      have hle := hb.length_le
      rw [← hb.length_eq, hcap] at hle
      exact Nat.sub_eq_zero_of_le hle
    rw [hfit, List.take_zero]
    exact Keeps.refl _
  · apply Keeps.of_eq
    simp only [toList, List.append_assoc, hring]
  · simp only [toList]
    exact (Keeps.of_append hring).append_left b.spilled

theorem resize_sound {b : LogBuffer} (hb : b.ring.IsSound) (keepsAll : Bool) (n : Nat) :
    (b.resize keepsAll n).ring.IsSound := by
  unfold resize
  split_ifs
  · exact hb
  · exact (Ring.resize_holds hb n).1.isSound
  · exact (Ring.resize_holds hb n).1.isSound

theorem clear_toList {b : LogBuffer} (hb : b.ring.IsSound) : b.clear.toList = [] := by
  simp [clear, toList, Ring.toList_clear hb]

theorem clear_sound {b : LogBuffer} (hb : b.ring.IsSound) : b.clear.ring.IsSound :=
  (Ring.clear_holds hb).isSound

end LogBuffer

namespace LogWriter

/-- A write appends the backlog and the new entries, or puts all of them into the backlog. -/
theorem write_conserves (w : LogWriter) (entries : List LogEntry) (p : RotationPolicy)
    (now : Timestamp) (d : Disk) :
    w.appendedBy entries d ++ (w.write entries p now d).2.1.backlog = w.backlog ++ entries := by
  unfold write appendedBy
  by_cases hnil : w.backlog ++ entries = []
  · have hback : w.backlog = [] := (List.append_eq_nil_iff.mp hnil).1
    simp only [hnil, if_true]
    split <;> simp [hback]
  · rw [if_neg hnil]
    rcases happ : (appendLines w.files (w.backlog ++ entries)).perform d with ⟨_ | _, d'⟩
    · simp
    · simp

end LogWriter

namespace QueryLog

theorem flush_eq (q : QueryLog) (now : Timestamp) (d : Disk) :
    q.flush now d =
      let written := q.writer.write q.buffer.toList q.policy now d
      (written.1,
        { q with
          buffer := q.buffer.clear
          writer := written.2.1
          metrics := q.metrics.afterFlush written.1 },
        written.2.2) := by
  unfold flush
  rcases q.writer.write q.buffer.toList q.policy now d with ⟨_ | _, _, _⟩ <;> rfl

@[simp] theorem flush_buffer (q : QueryLog) (now : Timestamp) (d : Disk) :
    (q.flush now d).2.1.buffer = q.buffer.clear := by
  rw [flush_eq]

@[simp] theorem flush_settings (q : QueryLog) (now : Timestamp) (d : Disk) :
    (q.flush now d).2.1.settings = q.settings := by
  rw [flush_eq]

@[simp] theorem flush_isShutDown (q : QueryLog) (now : Timestamp) (d : Disk) :
    (q.flush now d).2.1.isShutDown = q.isShutDown := by
  rw [flush_eq]

theorem flush_conserves {q : QueryLog} (hq : q.buffer.ring.IsSound) (now : Timestamp) (d : Disk) :
    q.writer.appendedBy q.buffer.toList d ++ (q.flush now d).2.1.held = q.held := by
  have hwrite := q.writer.write_conserves q.buffer.toList q.policy now d
  rw [flush_eq, held, LogBuffer.clear_toList hq, List.append_nil]
  exact hwrite

/-- Asking for a flush writes the buffer at once where flushes cannot be scheduled, and otherwise
leaves everything where it is. -/
theorem schedule_conserves {q : QueryLog} (hq : q.buffer.ring.IsSound) (now : Timestamp)
    (d : Disk) :
    (if q.hasScheduler then [] else q.writer.appendedBy q.buffer.toList d) ++
      (q.schedule now d).1.held = q.held := by
  unfold schedule
  by_cases hs : q.hasScheduler = true
  · simp [hs, held, LogBuffer.toList]
  · simp only [if_neg hs]
    exact flush_conserves (q := { q with buffer := { q.buffer with isFlushPending := true } })
      hq now d

theorem schedule_sound {q : QueryLog} (hq : q.buffer.ring.IsSound) (now : Timestamp) (d : Disk) :
    (q.schedule now d).1.buffer.ring.IsSound := by
  unfold schedule
  by_cases hs : q.hasScheduler = true
  · simpa [hs] using hq
  · simp only [hs, Bool.false_eq_true, if_false, flush_buffer]
    exact (Ring.clear_holds hq).isSound

theorem accept_eq (q : QueryLog) (e : LogEntry) (now : Timestamp) (d : Disk) :
    q.accept e now d =
      if q.asksForFlush e then (q.buffered e).schedule now d else (q.buffered e, d) := rfl

theorem add_eq (q : QueryLog) (p : LogParams) (now : Timestamp) (d : Disk) :
    q.add p now d = match q.acceptedBy ⟨.add p, now⟩ with
      | some e => q.accept e now d
      | none => (q, d) := by
  unfold add acceptedBy
  by_cases hen : q.settings.enabled = true
  · cases hp : LogEntry.ofParams p now <;> simp [hen, hp, Except.toOption]
  · simp [hen]

/-- An entry goes behind the others. What it pushes out is lost only where no files are written. -/
theorem buffered_last {q : QueryLog} (hq : q.buffer.ring.IsSound) (e : LogEntry) :
    ∃ kept, (q.buffered e).held = kept ++ [e] ∧
      Keeps q.held kept
        (if q.settings.fileEnabled then [] else (q.buffer.ring.append e).2.toList) := by
  obtain ⟨kept, hlast, hkeeps⟩ := LogBuffer.append_last hq q.settings.fileEnabled e
  refine ⟨q.writer.backlog ++ kept, ?_, hkeeps.append_left q.writer.backlog⟩
  rw [List.append_assoc, ← hlast]
  rfl

theorem buffered_keeps {q : QueryLog} (hq : q.buffer.ring.IsSound) (e : LogEntry) :
    Keeps (q.held ++ [e]) (q.buffered e).held
      (if q.settings.fileEnabled then [] else (q.buffer.ring.append e).2.toList) := by
  obtain ⟨kept, hlast, hkeeps⟩ := buffered_last hq e
  rw [hlast]
  exact hkeeps.append_right [e]

theorem buffered_sound {q : QueryLog} (hq : q.buffer.ring.IsSound) (e : LogEntry) :
    (q.buffered e).buffer.ring.IsSound :=
  LogBuffer.append_sound hq q.settings.fileEnabled e

theorem accept_conserves {q : QueryLog} (hq : q.buffer.ring.IsSound) (e : LogEntry)
    (now : Timestamp) (d : Disk) :
    (if q.asksForFlush e && !q.hasScheduler then
        q.writer.appendedBy (q.buffered e).buffer.toList d else []) ++
      (q.accept e now d).1.held = (q.buffered e).held := by
  have hschedule := schedule_conserves (buffered_sound hq e) now d
  rw [accept_eq]
  by_cases hasks : q.asksForFlush e = true
  · rw [if_pos hasks]
    cases hs : q.hasScheduler <;> simpa [hasks, hs, buffered] using hschedule
  · simp [hasks]

theorem accept_sound {q : QueryLog} (hq : q.buffer.ring.IsSound) (e : LogEntry) (now : Timestamp)
    (d : Disk) : (q.accept e now d).1.buffer.ring.IsSound := by
  rw [accept_eq]
  by_cases hasks : q.asksForFlush e = true
  · rw [if_pos hasks]
    exact schedule_sound (buffered_sound hq e) now d
  · rw [if_neg hasks]
    exact buffered_sound hq e

@[simp] theorem accept_settings (q : QueryLog) (e : LogEntry) (now : Timestamp) (d : Disk) :
    (q.accept e now d).1.settings = q.settings := by
  rw [accept_eq, schedule]
  split_ifs <;> simp [buffered]

theorem one_le_memSize {s : LogSettings} (h : s.validate = .ok ()) : 1 ≤ s.memSize := by
  unfold LogSettings.validate at h
  split_ifs at h with hz
  omega

theorem setSettings_eq (q : QueryLog) (s : LogSettings) :
    q.setSettings s = s.validate.map fun _ =>
      { q with
        settings := s
        buffer := q.buffer.resize s.fileEnabled s.memSize
        writer := q.writer.setDir s.dir } := by
  unfold setSettings
  cases s.validate <;> rfl

@[simp] theorem setDir_backlog (w : LogWriter) (dir : String) :
    (w.setDir dir).backlog = w.backlog := by
  unfold LogWriter.setDir
  split_ifs <;> rfl

theorem close_eq {q : QueryLog} (h : q.isShutDown = false) (now : Timestamp) (d : Disk) :
    q.close now d =
      let (q, d) := if q.settings.fileEnabled then (q.flush now d).2 else (q, d)
      ({ q with isShutDown := true, state := .stopped }, d) := by
  simp [close, h]

theorem appendedBy_of_flushed {q : QueryLog} {m : LogMove} {b : LogBuffer}
    (h : q.flushedBy m = some b) (d : Disk) : q.appendedBy m d = q.writer.appendedBy b.toList d := by
  simp [appendedBy, h]

theorem appendedBy_of_not_flushed {q : QueryLog} {m : LogMove} (h : q.flushedBy m = none)
    (d : Disk) : q.appendedBy m d = [] := by
  simp [appendedBy, h]

theorem appendedBy_add {q : QueryLog} {p : LogParams} {now : Timestamp} {e : LogEntry}
    (h : q.acceptedBy ⟨.add p, now⟩ = some e) (d : Disk) :
    q.appendedBy ⟨.add p, now⟩ d =
      if q.asksForFlush e && !q.hasScheduler then
        q.writer.appendedBy (q.buffered e).buffer.toList d else [] := by
  by_cases hflush : (q.asksForFlush e && !q.hasScheduler) = true
  · rw [if_pos hflush]
    apply appendedBy_of_flushed
    simp only [flushedBy, h, Option.bind_some, if_pos hflush]
  · rw [if_neg hflush]
    apply appendedBy_of_not_flushed
    simp only [flushedBy, h, Option.bind_some, if_neg hflush]

theorem add_keeps {q : QueryLog} (hq : q.buffer.ring.IsSound) (p : LogParams) (now : Timestamp)
    (d : Disk) :
    Keeps (q.held ++ (q.acceptedBy ⟨.add p, now⟩).toList)
      (q.appendedBy ⟨.add p, now⟩ d ++ (q.add p now d).1.held)
      (q.pushedOutBy ⟨.add p, now⟩) := by
  rw [add_eq]
  unfold pushedOutBy
  cases hacc : q.acceptedBy ⟨.add p, now⟩ with
  | none =>
    have hnot : q.flushedBy ⟨.add p, now⟩ = none := by simp [flushedBy, hacc]
    rw [appendedBy_of_not_flushed hnot]
    exact Keeps.of_eq (List.append_nil _)
  | some e =>
    rw [appendedBy_add hacc]
    simp only [accept_conserves hq e now d]
    exact buffered_keeps hq e

theorem keeps_of_held {q : QueryLog} {m : LogMove} {d : Disk}
    (hacc : q.acceptedBy m = none) (hout : q.pushedOutBy m = []) (hclear : q.clearedBy m = [])
    (hheld : q.appendedBy m d ++ (q.next m d).1.held = q.held) :
    Keeps (q.held ++ (q.acceptedBy m).toList) (q.appendedBy m d ++ (q.next m d).1.held)
      (q.pushedOutBy m ++ q.clearedBy m) := by
  rw [hacc, hout, hclear, hheld]
  exact Keeps.of_eq (List.append_nil _)

theorem runScheduled_conserves {q : QueryLog} (hq : q.buffer.ring.IsSound) (now : Timestamp)
    (d : Disk) : q.appendedBy ⟨.runScheduled, now⟩ d ++ (q.runScheduled now d).1.held = q.held := by
  unfold runScheduled
  by_cases hz : q.scheduled = 0
  · rw [if_pos hz, appendedBy_of_not_flushed (by simp [flushedBy, hz])]
    exact List.nil_append _
  · have hflushed : q.flushedBy ⟨.runScheduled, now⟩ = some q.buffer := by simp [flushedBy, hz]
    rw [if_neg hz, appendedBy_of_flushed hflushed]
    exact flush_conserves (q := { q with scheduled := q.scheduled - 1 }) hq now d

theorem close_conserves {q : QueryLog} (hq : q.buffer.ring.IsSound) (now : Timestamp)
    (d : Disk) : q.appendedBy ⟨.close, now⟩ d ++ (q.close now d).1.held = q.held := by
  cases hs : q.isShutDown with
  | true =>
    rw [appendedBy_of_not_flushed (by simp [flushedBy, hs])]
    simp [close, hs]
  | false =>
    rw [close_eq hs]
    cases hf : q.settings.fileEnabled with
    | true =>
      have hflushed : q.flushedBy ⟨.close, now⟩ = some q.buffer := by simp [flushedBy, hs, hf]
      rw [appendedBy_of_flushed hflushed]
      exact flush_conserves hq now d
    | false =>
      rw [appendedBy_of_not_flushed (by simp [flushedBy, hf])]
      exact List.nil_append _

theorem setSettings_keeps {q : QueryLog} (hq : q.buffer.ring.IsSound) (s : LogSettings)
    (now : Timestamp) (d : Disk) :
    Keeps q.held (q.next ⟨.setSettings s, now⟩ d).1.held
      (q.pushedOutBy ⟨.setSettings s, now⟩) := by
  simp only [next, pushedOutBy, setSettings_eq]
  cases hv : s.validate with
  | error _ => exact Keeps.refl _
  | ok _ =>
    have hbuffer := LogBuffer.resize_keeps hq s.fileEnabled (one_le_memSize hv)
    simpa [Except.map, held] using hbuffer.append_left q.writer.backlog

theorem clear_held {q : QueryLog} (hq : q.buffer.ring.IsSound) (d : Disk) :
    (q.clear d).2.1.held = [] := by
  have hbuffer := LogBuffer.clear_toList hq
  unfold clear LogWriter.clear
  rcases q.writer.files.removeCurrent.perform d with ⟨_ | _, _⟩ <;> simp [held, hbuffer]

theorem start_held (q : QueryLog) : q.start.held = q.held := by
  unfold start
  cases q.state <;> rfl

/-- Entries move on in their order at every event, but for those that are pushed out or cleared. -/
theorem next_keeps {q : QueryLog} (hq : q.buffer.ring.IsSound) (m : LogMove) (d : Disk) :
    Keeps (q.held ++ (q.acceptedBy m).toList) (q.appendedBy m d ++ (q.next m d).1.held)
      (q.pushedOutBy m ++ q.clearedBy m) := by
  rcases m with ⟨event, now⟩
  cases event with
  | add p =>
    simp only [clearedBy, List.append_nil]
    exact add_keeps hq p now d
  | runScheduled => exact keeps_of_held rfl rfl rfl (runScheduled_conserves hq now d)
  | flush => exact keeps_of_held rfl rfl rfl (flush_conserves hq now d)
  | close => exact keeps_of_held rfl rfl rfl (close_conserves hq now d)
  | clear =>
    have hheld : (q.next ⟨.clear, now⟩ d).1.held = [] := clear_held hq d
    simpa [hheld, acceptedBy, appendedBy, flushedBy, pushedOutBy, clearedBy] using
      Keeps.of_append (List.append_nil q.held)
  | setSettings s =>
    simpa [acceptedBy, appendedBy, flushedBy, clearedBy] using setSettings_keeps hq s now d
  | start => exact keeps_of_held rfl rfl rfl (start_held q)
  | rotateIfDue => exact keeps_of_held rfl rfl rfl (List.nil_append _)
  | look => exact keeps_of_held rfl rfl rfl (List.nil_append _)
  | moveCallers b => exact keeps_of_held rfl rfl rfl (List.nil_append _)
  | disturb d' => exact keeps_of_held rfl rfl rfl (List.nil_append _)

theorem next_sound {q : QueryLog} (hq : q.buffer.ring.IsSound) (m : LogMove) (d : Disk) :
    (q.next m d).1.buffer.ring.IsSound := by
  rcases m with ⟨event, now⟩
  have hclear := LogBuffer.clear_sound hq
  cases event with
  | add p =>
    simp only [next, add_eq]
    cases q.acceptedBy ⟨.add p, now⟩ with
    | none => exact hq
    | some e => exact accept_sound hq e now d
  | runScheduled =>
    simp only [next, runScheduled]
    split_ifs
    · exact hq
    · rw [flush_buffer]
      exact hclear
  | flush =>
    simp only [next, flush_buffer]
    exact hclear
  | close =>
    simp only [next, close]
    split_ifs
    · exact hq
    · simp only [flush_buffer]
      exact hclear
    · exact hq
  | clear => exact hclear
  | setSettings s =>
    simp only [next, setSettings_eq]
    cases s.validate with
    | error _ => exact hq
    | ok _ => exact LogBuffer.resize_sound hq s.fileEnabled s.memSize
  | start =>
    simp only [next, start]
    cases q.state <;> exact hq
  | rotateIfDue => exact hq
  | look => exact hq
  | moveCallers b => exact hq
  | disturb d' => exact hq

theorem next_settings (q : QueryLog) (m : LogMove) (d : Disk) :
    (q.next m d).1.settings = q.settings ∨
      ∃ s, m.event = .setSettings s ∧ s.validate = .ok () ∧ (q.next m d).1.settings = s := by
  rcases m with ⟨event, now⟩
  cases event with
  | setSettings s =>
    simp only [next, setSettings_eq]
    cases hv : s.validate with
    | error _ => exact .inl rfl
    | ok _ => exact .inr ⟨s, rfl, hv, rfl⟩
  | add p =>
    left
    simp only [next, add_eq]
    cases q.acceptedBy ⟨.add p, now⟩ <;> simp
  | runScheduled =>
    left
    simp only [next, runScheduled]
    split_ifs <;> simp
  | close =>
    left
    simp only [next, close]
    split_ifs <;> simp
  | start =>
    left
    simp only [next, start]
    cases q.state <;> rfl
  | flush => exact .inl (flush_settings q now d)
  | clear => exact .inl rfl
  | rotateIfDue => exact .inl rfl
  | look => exact .inl rfl
  | moveCallers b => exact .inl rfl
  | disturb d' => exact .inl rfl

/-- While files are written nothing is pushed out for good. -/
theorem pushedOutBy_of_filing {q : QueryLog} {m : LogMove} {d : Disk}
    (hq : q.settings.fileEnabled = true) (hnext : (q.next m d).1.settings.fileEnabled = true) :
    q.pushedOutBy m = [] := by
  rcases m with ⟨event, now⟩
  cases event with
  | add p =>
    unfold pushedOutBy
    cases q.acceptedBy ⟨.add p, now⟩ <;> simp [hq]
  | setSettings s =>
    simp only [next, setSettings_eq] at hnext
    simp only [pushedOutBy]
    cases hv : s.validate with
    | error _ => rfl
    | ok _ =>
      rw [hv] at hnext
      have hfile : s.fileEnabled = true := hnext
      simp [hfile]
  | _ => rfl

theorem flushedBy_add {q : QueryLog} {p : LogParams} {now : Timestamp} {b : LogBuffer}
    (h : q.flushedBy ⟨.add p, now⟩ = some b) :
    ∃ e, q.acceptedBy ⟨.add p, now⟩ = some e ∧ q.asksForFlush e = true ∧
      q.hasScheduler = false ∧ b = (q.buffered e).buffer := by
  obtain ⟨e, hacc, hflush⟩ := Option.bind_eq_some_iff.mp h
  split_ifs at hflush with hasks
  simp only [Bool.and_eq_true, Bool.not_eq_true'] at hasks
  exact ⟨e, hacc, hasks.1, hasks.2, (Option.some.inj hflush).symm⟩

theorem flush_disk (q : QueryLog) (now : Timestamp) (d : Disk) :
    (q.flush now d).2.2 = (q.writer.write q.buffer.toList q.policy now d).2.2 := by
  rw [flush_eq]

/-- An entry that makes a flush due is flushed at once where flushes cannot be scheduled. -/
theorem next_add_of_flush {q : QueryLog} {p : LogParams} {now : Timestamp} {e : LogEntry}
    (hacc : q.acceptedBy ⟨.add p, now⟩ = some e) (hasks : q.asksForFlush e = true)
    (hsched : q.hasScheduler = false) (d : Disk) :
    q.next ⟨.add p, now⟩ d =
      (QueryLog.flush { q.buffered e with
        buffer := { (q.buffered e).buffer with isFlushPending := true } } now d).2 := by
  simp only [next, add_eq, hacc, accept_eq, hasks, if_true, schedule]
  exact if_neg (by simp [buffered, hsched])

/-- An event that flushes a buffer writes it to the disk, and does nothing else there. -/
theorem next_of_flushed {q : QueryLog} {m : LogMove} {b : LogBuffer} (h : q.flushedBy m = some b)
    (d : Disk) : (q.next m d).2 = (q.writer.write b.toList q.policy m.now d).2.2 := by
  rcases m with ⟨event, now⟩
  cases event with
  | add p =>
    obtain ⟨e, hacc, hasks, hsched, rfl⟩ := flushedBy_add h
    rw [next_add_of_flush hacc hasks hsched, flush_disk]
    rfl
  | runScheduled =>
    simp only [flushedBy] at h
    split_ifs at h with hz
    cases h
    simp only [next, runScheduled, if_neg hz, flush_disk]
    rfl
  | flush =>
    cases h
    exact flush_disk q now d
  | close =>
    simp only [flushedBy] at h
    split_ifs at h with hc
    cases h
    simp only [Bool.or_eq_true, Bool.not_eq_true', not_or, Bool.not_eq_true,
      Bool.not_eq_false] at hc
    simp only [next, close_eq hc.1, hc.2, if_true, flush_disk]
  | _ => cases h

end QueryLog
end DnsFilter
