import DnsFilter.Proofs.Log.Accounting
import DnsFilter.Proofs.Log.Folder
import DnsFilter.Proofs.Log.Line
import DnsFilter.Proofs.Log.Scheduling
/-!
# What the counters count

The counters of a query log agree with its history. An entry is counted when it is accepted, and
its line when it is appended to a file, however many flushes failed before.
-/
namespace DnsFilter

theorem Metrics.addIf_eq {p : Prop} [Decidable p] {x : UInt64} {n : Nat} (h : x = .ofNat n) :
    addIf p x = .ofNat (n + if p then 1 else 0) := by
  unfold addIf
  split_ifs
  · rw [UInt64.ofNat_add, h]
    rfl
  · exact h

/-- Words that tell how often each key came, as far as they do not wrap. -/
structure Tallies {α : Type} [DecidableEq α] (counts : List (α × UInt64)) (keys : List α) :
    Prop where
  each : ∀ a, (counts.lookup a).getD 0 = .ofNat (keys.count a)
  total : (counts.map (·.2.toNat)).sum % 2 ^ 64 = keys.length % 2 ^ 64
  total_le : (counts.map (·.2.toNat)).sum ≤ keys.length

namespace Tallies

variable {α : Type} [DecidableEq α]

theorem nil : Tallies ([] : List (α × UInt64)) [] := ⟨fun _ => rfl, rfl, Nat.le_refl 0⟩

/-- So few keys make no word wrap. -/
theorem sum_eq {counts : List (α × UInt64)} {keys : List α} (h : Tallies counts keys)
    (hshort : keys.length < 2 ^ 64) : (counts.map (·.2.toNat)).sum = keys.length := by
  have htotal := h.total
  rwa [Nat.mod_eq_of_lt (Nat.lt_of_le_of_lt h.total_le hshort), Nat.mod_eq_of_lt hshort] at htotal

theorem getD_lookup_cons (a b : α) (n : UInt64) (counts : List (α × UInt64)) :
    (((a, n) :: counts).lookup b).getD 0 = if a = b then n else (counts.lookup b).getD 0 := by
  rw [List.lookup_cons]
  by_cases hab : a = b
  · simp [hab]
  · have hne : (b == a) = false := by simpa using Ne.symm hab
    rw [hne, if_neg hab]

theorem lookup_tally (a b : α) (counts : List (α × UInt64)) :
    ((Metrics.tally a counts).lookup b).getD 0 =
      Metrics.addIf (a = b) ((counts.lookup b).getD 0) := by
  induction counts with
  | nil =>
    rw [Metrics.tally, getD_lookup_cons]
    rfl
  | cons entry counts ih =>
    obtain ⟨c, n⟩ := entry
    by_cases hca : c = a
    · subst hca
      rw [Metrics.tally, if_pos rfl, getD_lookup_cons, getD_lookup_cons]
      by_cases hcb : c = b <;> simp [hcb, Metrics.addIf]
    · rw [Metrics.tally, if_neg hca, getD_lookup_cons, getD_lookup_cons, ih]
      by_cases hcb : c = b
      · have hab : a ≠ b := fun hab => hca (hcb.trans hab.symm)
        simp [hcb, hab, Metrics.addIf]
      · simp [hcb]

/-- One more of a key adds one to the sum, or takes a word that is full from it. -/
theorem sum_tally (a : α) (counts : List (α × UInt64)) :
    ((Metrics.tally a counts).map (·.2.toNat)).sum % 2 ^ 64 =
        ((counts.map (·.2.toNat)).sum + 1) % 2 ^ 64 ∧
      ((Metrics.tally a counts).map (·.2.toNat)).sum ≤ (counts.map (·.2.toNat)).sum + 1 := by
  induction counts with
  | nil => exact ⟨rfl, Nat.le_refl 1⟩
  | cons entry counts ih =>
    obtain ⟨c, n⟩ := entry
    by_cases hca : c = a
    · have hword : (n + 1).toNat = (n.toNat + 1) % 2 ^ 64 := UInt64.toNat_add n 1
      simp only [Metrics.tally, if_pos hca, List.map_cons, List.sum_cons, hword]
      omega
    · simp only [Metrics.tally, if_neg hca, List.map_cons, List.sum_cons]
      omega

theorem tally {counts : List (α × UInt64)} {keys : List α} (h : Tallies counts keys) (a : α) :
    Tallies (Metrics.tally a counts) (keys ++ [a]) := by
  obtain ⟨hsum, hle⟩ := sum_tally a counts
  have htotal := h.total
  have htotal_le := h.total_le
  have hlength : (keys ++ [a]).length = keys.length + 1 := List.length_append
  constructor
  · intro b
    rw [lookup_tally, Metrics.addIf_eq (h.each b), List.count_append, List.count_singleton]
    simp
  · omega
  · omega

end Tallies

/-! ## The counters after some entries and flushes -/

namespace Metrics

/-- The counters after these entries, so many lines and so many flushes that failed. -/
structure Describes (x : Metrics) (accepted : List LogEntry) (lines failed : Nat) : Prop where
  entries : x.entries = .ofNat accepted.length
  blocked : x.blocked = .ofNat (accepted.countP (·.verdict.action? = some .block))
  allowed : x.allowed = .ofNat (accepted.countP (·.verdict.action? = some .allow))
  cached : x.cached = .ofNat (accepted.countP (·.cached))
  elapsed : x.elapsedMicros = .ofNat (accepted.map (·.elapsedMicros)).sum
  types : Tallies x.types (accepted.map (·.type))
  upstreams : Tallies x.upstreams (accepted.filterMap (·.upstream))
  flushed : x.flushedEntries = .ofNat lines
  failed : x.failedFlushes = .ofNat failed

/-- The counters as numbers, as they are before 2^64 entries were accepted. -/
structure IsExact (x : Metrics) (accepted : List LogEntry) (lines : Nat) : Prop where
  entries : x.entries.toNat = accepted.length
  types : (x.types.map (·.2.toNat)).sum = x.entries.toNat
  type : ∀ t, (x.typeCount t).toNat = accepted.countP (·.type = t)
  upstreams : (x.upstreams.map (·.2.toNat)).sum = accepted.countP (·.upstream.isSome)
  upstream : ∀ u, (x.upstreamCount u).toNat = accepted.countP (·.upstream = some u)
  blocked : x.blocked.toNat = accepted.countP (·.verdict.action? = some .block)
  allowed : x.allowed.toNat = accepted.countP (·.verdict.action? = some .allow)
  cached : x.cached.toNat = accepted.countP (·.cached)
  flushed : x.flushedEntries.toNat = lines

namespace Describes

variable {x : Metrics} {accepted : List LogEntry} {lines failed : Nat}

theorem empty : Describes {} [] 0 0 := by
  constructor
  · rfl
  · rfl
  · rfl
  · rfl
  · rfl
  · exact Tallies.nil
  · exact Tallies.nil
  · rfl
  · rfl

theorem addEntry (h : x.Describes accepted lines failed) (e : LogEntry) :
    (x.addEntry e).Describes (accepted ++ [e]) lines failed := by
  constructor
  · simp [Metrics.addEntry, h.entries, UInt64.ofNat_add]
  · simp [Metrics.addEntry, addIf_eq h.blocked, List.countP_append, List.countP_singleton]
  · simp [Metrics.addEntry, addIf_eq h.allowed, List.countP_append, List.countP_singleton]
  · simp [Metrics.addEntry, addIf_eq h.cached, List.countP_append, List.countP_singleton]
  · simp [Metrics.addEntry, h.elapsed, List.sum_append, UInt64.ofNat_add]
  · rw [List.map_append]
    exact h.types.tally e.type
  · rw [List.filterMap_append]
    cases hupstream : e.upstream with
    | none => simpa [Metrics.addEntry, hupstream] using h.upstreams
    | some u => simpa [Metrics.addEntry, hupstream] using h.upstreams.tally u
  · exact h.flushed
  · exact h.failed

theorem addFlush (h : x.Describes accepted lines failed) (n : Nat) :
    (x.addFlush n).Describes accepted (lines + n) failed :=
  { h with flushed := by simp [Metrics.addFlush, h.flushed, UInt64.ofNat_add] }

theorem addFailedFlush (h : x.Describes accepted lines failed) :
    x.addFailedFlush.Describes accepted lines (failed + 1) :=
  { h with failed := by simp [Metrics.addFailedFlush, h.failed, UInt64.ofNat_add] }

theorem typeCount_eq (h : x.Describes accepted lines failed) (t : RecordType) :
    x.typeCount t = .ofNat (accepted.countP (·.type = t)) := by
  rw [Metrics.typeCount, h.types.each, List.count_eq_countP, List.countP_map]
  rfl

theorem upstreamCount_eq (h : x.Describes accepted lines failed) (u : String) :
    x.upstreamCount u = .ofNat (accepted.countP (·.upstream = some u)) := by
  rw [Metrics.upstreamCount, h.upstreams.each, List.count_filterMap]
  simp only [beq_eq_decide]

theorem isExact (h : x.Describes accepted lines failed) (hshort : accepted.length < 2 ^ 64)
    (hlines : lines ≤ accepted.length) : x.IsExact accepted lines := by
  have hexact {word : UInt64} {n : Nat} (hword : word = .ofNat n) (hn : n ≤ accepted.length) :
      word.toNat = n := by
    rw [hword, UInt64.toNat_ofNat_of_lt' (Nat.lt_of_le_of_lt hn hshort)]
  have hentries : x.entries.toNat = accepted.length := hexact h.entries (Nat.le_refl _)
  have hcount (p : LogEntry → Bool) : accepted.countP p ≤ accepted.length := List.countP_le_length
  have hupstreams : (accepted.filterMap (·.upstream)).length = accepted.countP (·.upstream.isSome) :=
    List.length_filterMap_eq_countP
  constructor
  case entries => exact hentries
  case types => rw [h.types.sum_eq (by rwa [List.length_map]), List.length_map, hentries]
  case type => exact fun t => hexact (h.typeCount_eq t) (hcount _)
  case upstreams =>
    rw [h.upstreams.sum_eq (hupstreams ▸ Nat.lt_of_le_of_lt (hcount _) hshort), hupstreams]
  case upstream => exact fun u => hexact (h.upstreamCount_eq u) (hcount _)
  case blocked => exact hexact h.blocked (hcount _)
  case allowed => exact hexact h.allowed (hcount _)
  case cached => exact hexact h.cached (hcount _)
  case flushed => exact hexact h.flushed hlines

end Describes
end Metrics

/-! ## What an event counts -/

namespace LogWriter

/-- A write reports how many lines it appended, with those of the backlog, or it fails and appended
none. -/
theorem write_reports (w : LogWriter) (entries : List LogEntry) (p : RotationPolicy)
    (now : Timestamp) (d : Disk) :
    (w.write entries p now d).1 = .ok (w.appendedBy entries d).length ∨
      ∃ e, (w.write entries p now d).1 = .error e ∧ w.appendedBy entries d = [] := by
  unfold write appendedBy
  by_cases hbatch : w.backlog ++ entries = []
  · -- with nothing to write no file is opened, so it does not matter whether one could be
    rw [if_pos hbatch, hbatch]
    left
    split <;> rfl
  · rw [if_neg hbatch]
    rcases (appendLines w.files (w.backlog ++ entries)).perform d with ⟨e | _, d'⟩
    · exact .inr ⟨_, rfl, rfl⟩
    · exact .inl rfl

/-- In the bytes of some entries there is one line feed for each. -/
theorem count_newline_bytesOf (entries : List LogEntry) :
    (bytesOf entries).count 10 = entries.length := by
  induction entries with
  | nil => rfl
  | cons e entries ih =>
    have hcons : bytesOf (e :: entries) = Utf8.encode e.line.toList ++ 10 :: bytesOf entries := by
      simp [bytesOf, linesOf, Utf8.encode, String.utf8EncodeChar]
    rw [hcons, List.count_append, List.count_eq_zero_of_not_mem e.newline_not_mem_line,
      List.count_cons_self, ih]
    exact Nat.zero_add _

end LogWriter

namespace QueryLog

def writtenBy (q : QueryLog) (m : LogMove) (d : Disk) : Option (Except Failure Nat) :=
  (q.flushedBy m).map fun b => (q.writer.write b.toList q.policy m.now d).1

/-- Whether an event flushes and the write fails. -/
def failsBy (q : QueryLog) (m : LogMove) (d : Disk) : Bool := (q.writtenBy m d).any (!·.isOk)

theorem flush_metrics (q : QueryLog) (now : Timestamp) (d : Disk) :
    (q.flush now d).2.1.metrics =
      q.metrics.afterFlush (q.writer.write q.buffer.toList q.policy now d).1 := by
  rw [flush_eq]

/-- An event counts the entry that is accepted and then the flush, if there are any. -/
theorem next_metrics (q : QueryLog) (m : LogMove) (d : Disk) :
    (q.next m d).1.metrics =
      let counted := (q.acceptedBy m).elim q.metrics q.metrics.addEntry
      (q.writtenBy m d).elim counted counted.afterFlush := by
  rcases m with ⟨event, now⟩
  cases event with
  | add p =>
    simp only [next, add_eq]
    cases hacc : q.acceptedBy ⟨.add p, now⟩ with
    | none => simp [writtenBy, flushedBy, hacc]
    | some e =>
      simp only [writtenBy, flushedBy, hacc, Option.bind_some, accept_eq]
      by_cases hasks : q.asksForFlush e = true
      · rw [if_pos hasks, schedule]
        have hsched : (q.buffered e).hasScheduler = q.hasScheduler := rfl
        cases hs : q.hasScheduler with
        | true => simp [hasks, hs, buffered]
        | false =>
          -- the mark of the pending flush is no part of what is written
          simp only [hasks, hs, hsched, Bool.false_eq_true, if_false, Bool.not_false, Bool.and_true,
            if_true, flush_metrics]
          rfl
      · simp [hasks, buffered]
  | runScheduled =>
    simp only [next, runScheduled, writtenBy, flushedBy]
    by_cases hz : q.scheduled = 0
    · simp [hz, acceptedBy]
    · simp only [if_neg hz, flush_metrics]
      rfl
  | flush => exact flush_metrics q now d
  | close =>
    simp only [next, writtenBy, flushedBy]
    cases hs : q.isShutDown with
    | true => simp [close, hs, acceptedBy]
    | false =>
      rw [close_eq hs]
      cases hf : q.settings.fileEnabled with
      | true =>
        simp only [if_true, flush_metrics]
        rfl
      | false => rfl
  | setSettings s =>
    simp only [next, setSettings_eq]
    cases s.validate <;> rfl
  | start =>
    simp only [next, start]
    cases q.state <;> rfl
  | clear => rfl
  | rotateIfDue => rfl
  | look => rfl
  | moveCallers b => rfl
  | disturb d' => rfl

end QueryLog

/-! ## Runs -/

namespace LogHistory

/-- How many flushes of a run fail to write. -/
def failedFlushes (h : LogHistory) : List LogMove → Nat
  | [] => 0
  | m :: moves => (h.log.failsBy m h.disk).toNat + (h.step m).failedFlushes moves

def IsCounted (h : LogHistory) (failed : Nat) : Prop :=
  h.log.metrics.Describes h.accepted h.appended.length failed

theorem step_counted {h : LogHistory} {failed : Nat} (hh : h.IsCounted failed) (m : LogMove) :
    (h.step m).IsCounted (failed + (h.log.failsBy m h.disk).toNat) := by
  -- the entry is counted before the flush that it causes
  have hentry : ((h.log.acceptedBy m).elim h.log.metrics h.log.metrics.addEntry).Describes
      (h.step m).accepted h.appended.length failed := by
    rw [step]
    cases h.log.acceptedBy m with
    | none => simpa [IsCounted] using hh
    | some e => exact hh.addEntry e
  rw [IsCounted]
  have hmetrics : (h.step m).log.metrics = _ := h.log.next_metrics m h.disk
  have hlines : (h.step m).appended.length =
      h.appended.length + (h.log.appendedBy m h.disk).length := List.length_append
  rw [hmetrics, hlines, QueryLog.failsBy, QueryLog.writtenBy]
  cases hflushed : h.log.flushedBy m with
  | none => simpa [QueryLog.appendedBy_of_not_flushed hflushed] using hentry
  | some b =>
    rw [QueryLog.appendedBy_of_flushed hflushed]
    rcases h.log.writer.write_reports b.toList h.log.policy m.now h.disk with
      hwritten | ⟨e, hwritten, hnone⟩
    · simpa [hwritten, Except.isOk, Except.toBool, Metrics.afterFlush] using hentry.addFlush _
    · simpa [hwritten, hnone, Except.isOk, Except.toBool, Metrics.afterFlush] using
        hentry.addFailedFlush

theorem run_counted {h : LogHistory} {failed : Nat} (hh : h.IsCounted failed)
    (moves : List LogMove) : (h.run moves).IsCounted (failed + h.failedFlushes moves) := by
  induction moves generalizing h failed with
  | nil => exact hh
  | cons m moves ih =>
    rw [failedFlushes, ← Nat.add_assoc]
    exact ih (step_counted hh m)

end LogHistory

namespace QueryLog

/-- The counters count every accepted entry once, under its type and its upstream, every flush that
fails to write, and every line once, when it is appended to the active file. A line that waits in the
backlog after a flush failed is not counted before it is written. Counters are words, which are exact
before 2^64 entries were accepted. -/
theorem counters_count_once {s : LogSettings} {clients : ClientLookup} {hasScheduler : Bool}
    {q : QueryLog} (hq : ofSettings s clients hasScheduler = .ok q) (d : Disk)
    (moves : List LogMove) :
    let start : LogHistory := { log := q, disk := d }
    let h := start.run moves
    let x := h.log.metrics
    x.entries = .ofNat h.accepted.length ∧
      (x.types.map (·.2.toNat)).sum % 2 ^ 64 = x.entries.toNat ∧
      (∀ t, x.typeCount t = .ofNat (h.accepted.countP (·.type = t))) ∧
      (x.upstreams.map (·.2.toNat)).sum % 2 ^ 64 =
        h.accepted.countP (·.upstream.isSome) % 2 ^ 64 ∧
      (∀ u, x.upstreamCount u = .ofNat (h.accepted.countP (·.upstream = some u))) ∧
      x.blocked = .ofNat (h.accepted.countP (·.verdict.action? = some .block)) ∧
      x.allowed = .ofNat (h.accepted.countP (·.verdict.action? = some .allow)) ∧
      x.cached = .ofNat (h.accepted.countP (·.cached)) ∧
      x.elapsedMicros = .ofNat (h.accepted.map (·.elapsedMicros)).sum ∧
      x.failedFlushes = .ofNat (start.failedFlushes moves) ∧
      x.flushedEntries = .ofNat h.appended.length ∧
      (h.accepted.length < 2 ^ 64 → x.IsExact h.accepted h.appended.length) ∧
      (LogWriter.bytesOf h.appended).count 10 = h.appended.length ∧
      (h.appended ++ h.log.held).Sublist h.accepted ∧
      start.IsFiled moves := by
  intro start h x
  obtain ⟨-, rfl⟩ := fresh_of_ofSettings hq
  have hx : x.Describes h.accepted h.appended.length (start.failedFlushes moves) := by
    have hstart : start.IsCounted 0 := Metrics.Describes.empty
    have hrun := LogHistory.run_counted hstart moves
    rwa [Nat.zero_add] at hrun
  have hkeeps : (h.appended ++ h.log.held).Sublist h.accepted := by
    rw [← h.kept_eq]
    exact (LogHistory.run_accounted
      (LogHistory.empty_accounted (fresh_isEmpty s clients hasScheduler) d) moves).keeps.in_order
  have hlines : h.appended.length ≤ h.accepted.length :=
    ((List.sublist_append_left _ _).trans hkeeps).length_le
  refine ⟨hx.entries, ?types, hx.typeCount_eq, ?upstreams, hx.upstreamCount_eq, hx.blocked,
    hx.allowed, hx.cached, hx.elapsed, hx.failed, hx.flushed, fun hshort => hx.isExact hshort hlines,
    LogWriter.count_newline_bytesOf _, hkeeps, start.isFiled moves⟩
  case types => rw [hx.types.total, List.length_map, hx.entries, UInt64.toNat_ofNat']
  case upstreams => rw [hx.upstreams.total, List.length_filterMap_eq_countP]

/-- An entry whose first flush fails, and one that goes into the file with it. -/
def retriedMoves : List LogMove :=
  [⟨.add (.ofHost "a.example"), default⟩, ⟨.disturb ⟨[(["data"], .plain [])]⟩, default⟩,
    ⟨.flush, default⟩, ⟨.add (.ofHost "b.example"), default⟩, ⟨.disturb {}, default⟩,
    ⟨.flush, default⟩]

theorem retried_lines_count_once :
    let start : LogHistory := { log := fresh {} (fun _ => .ok none) true, disk := {} }
    let h := start.run retriedMoves
    ofSettings {} (fun _ => .ok none) true = .ok start.log ∧
      h.log.metrics.entries = 2 ∧ h.log.metrics.typeCount .a = 2 ∧
      h.log.metrics.failedFlushes = 1 ∧ h.log.metrics.flushedEntries = 2 ∧
      h.appended.map (·.host) = ["a.example", "b.example"] := by
  intro start h
  have hmade : ofSettings {} (fun _ => .ok none) true = .ok start.log := rfl
  obtain ⟨haccepted, happended, htypes, hfailed⟩ : h.accepted.length = 2 ∧
      h.appended.map (·.host) = ["a.example", "b.example"] ∧
      h.accepted.countP (·.type = .a) = 2 ∧ start.failedFlushes retriedMoves = 1 := by
    decide +kernel
  have hlength : h.appended.length = 2 := by simpa using congrArg List.length happended
  obtain ⟨hentries, -, htype, -, -, -, -, -, -, hflushes, hlines, -⟩ :=
    counters_count_once hmade start.disk retriedMoves
  refine ⟨hmade, ?_, ?_, ?_, ?_, happended⟩
  · rw [hentries, haccepted]
    rfl
  · rw [htype, htypes]
    rfl
  · rw [hflushes, hfailed]
    rfl
  · rw [hlines, hlength]
    rfl

end QueryLog
end DnsFilter
