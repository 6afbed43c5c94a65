import DnsFilter.Proofs.Log.Conservation
/-!
# Scheduled flushes

A full buffer asks for a flush and is marked. The flush that was scheduled for it takes the mark
back when it runs, and so does every other call that empties the buffer; then the scheduled flush
stays in line with nothing pending. So a pending flush is always in line, and what else is in line
are the flushes that were overtaken and have not run.
-/
namespace DnsFilter

theorem Ring.length_append_pos {α : Type} {r : Ring α} (h : 1 ≤ r.capacity) (a : α) :
    1 ≤ (r.append a).1.length := by
  unfold append
  split_ifs with hroom
  · exact Nat.le_add_left 1 r.length
  · exact Nat.le_trans h (Nat.le_of_not_lt hroom)

namespace LogBuffer

theorem isFlushDue_iff (b : LogBuffer) (size : Nat) :
    b.isFlushDue size = true ↔ b.isFlushPending = false ∧ size ≤ b.ring.length := by
  simp [isFlushDue]

theorem resize_isFlushPending (b : LogBuffer) (keepsAll : Bool) (n : Nat) :
    (b.resize keepsAll n).isFlushPending = b.isFlushPending := by
  unfold resize
  split_ifs <;> rfl

theorem resize_capacity {b : LogBuffer} (hb : b.ring.IsSound) (keepsAll : Bool) {n : Nat}
    (hn : 1 ≤ n) : (b.resize keepsAll n).ring.capacity = n := by
  have hresized : (b.ring.resize n).capacity = n :=
    (Ring.resize_holds hb n).2.trans (Nat.max_eq_left hn)
  unfold resize
  split_ifs with hsame
  · exact hsame
  · exact hresized
  · exact hresized

end LogBuffer

namespace QueryLog

/-- A call empties the buffer before the pending flush has run. -/
def overtakes (q : QueryLog) (m : LogMove) : Bool :=
  q.buffer.isFlushPending &&
    match m.event with
    | .flush => true
    | .clear => true
    | .close => !q.isShutDown && q.settings.fileEnabled
    | _ => false

/-- A scheduled flush runs that was overtaken. -/
def runsLate (q : QueryLog) (m : LogMove) : Bool :=
  match m.event with
  | .runScheduled => !q.buffer.isFlushPending && q.scheduled != 0
  | _ => false

inductive MovesLine (q : QueryLog) (m : LogMove) (q' : QueryLog) : Prop
  | keeps : q'.buffer.isFlushPending = q.buffer.isFlushPending → q'.scheduled = q.scheduled →
      q.overtakes m = false → q.runsLate m = false → MovesLine q m q'
  | schedules : q.hasScheduler = true → q.buffer.isFlushPending = false →
      q'.buffer.isFlushPending = true → q'.scheduled = q.scheduled + 1 →
      q.overtakes m = false → q.runsLate m = false → MovesLine q m q'
  | runs : q'.buffer.isFlushPending = false → q'.scheduled + 1 = q.scheduled →
      q.overtakes m = false → q.runsLate m = !q.buffer.isFlushPending → MovesLine q m q'
  | empties : q'.buffer.isFlushPending = false → q'.scheduled = q.scheduled →
      q.overtakes m = q.buffer.isFlushPending → q.runsLate m = false → MovesLine q m q'

@[simp] theorem flush_scheduled (q : QueryLog) (now : Timestamp) (d : Disk) :
    (q.flush now d).2.1.scheduled = q.scheduled := by
  rw [flush_eq]

@[simp] theorem flush_hasScheduler (q : QueryLog) (now : Timestamp) (d : Disk) :
    (q.flush now d).2.1.hasScheduler = q.hasScheduler := by
  rw [flush_eq]

theorem asksForFlush_iff (q : QueryLog) (e : LogEntry) :
    q.asksForFlush e = true ↔ q.settings.fileEnabled = true ∧
      q.buffer.isFlushPending = false ∧
        q.settings.memSize ≤ (q.buffer.ring.append e).1.length := by
  rw [asksForFlush, Bool.and_eq_true, LogBuffer.isFlushDue_iff]
  rfl

theorem schedule_of_scheduler {q : QueryLog} (h : q.hasScheduler = true) (now : Timestamp)
    (d : Disk) : q.schedule now d =
      ({ q with
          buffer := { q.buffer with isFlushPending := true }
          scheduled := q.scheduled + 1 }, d) := by
  simp [schedule, h]

theorem schedule_of_none {q : QueryLog} (h : q.hasScheduler = false) (now : Timestamp)
    (d : Disk) : q.schedule now d =
      (flush { q with buffer := { q.buffer with isFlushPending := true } } now d).2 := by
  simp [schedule, h]

theorem add_movesLine (q : QueryLog) (p : LogParams) (now : Timestamp) (d : Disk) :
    q.MovesLine ⟨.add p, now⟩ (q.add p now d).1 := by
  have hnever : q.overtakes ⟨.add p, now⟩ = false := Bool.and_false _
  rw [add_eq]
  cases q.acceptedBy ⟨.add p, now⟩ with
  | none => exact .keeps rfl rfl hnever rfl
  | some e =>
    simp only [accept_eq]
    by_cases hasks : q.asksForFlush e = true
    · obtain ⟨-, hnone, -⟩ := (q.asksForFlush_iff e).mp hasks
      rw [if_pos hasks]
      cases hs : q.hasScheduler with
      | true =>
        rw [schedule_of_scheduler (q := q.buffered e) hs]
        exact .schedules hs hnone rfl rfl hnever rfl
      | false =>
        -- the flush runs at once and takes the mark back
        rw [schedule_of_none (q := q.buffered e) hs]
        refine .keeps ?_ ?_ hnever rfl
        · rw [flush_buffer, hnone]
          rfl
        · rw [flush_scheduled]
          rfl
    · rw [if_neg hasks]
      exact .keeps rfl rfl hnever rfl

theorem runScheduled_movesLine (q : QueryLog) (now : Timestamp) (d : Disk) :
    q.MovesLine ⟨.runScheduled, now⟩ (q.runScheduled now d).1 := by
  have hnever : q.overtakes ⟨.runScheduled, now⟩ = false := Bool.and_false _
  unfold runScheduled
  by_cases hz : q.scheduled = 0
  · rw [if_pos hz]
    refine .keeps rfl rfl hnever ?_
    simp [runsLate, hz]
  · rw [if_neg hz]
    refine .runs ?_ ?_ hnever ?_
    · rw [flush_buffer]
      rfl
    · rw [flush_scheduled]
      exact Nat.sub_add_cancel (Nat.pos_of_ne_zero hz)
    · simp [runsLate, hz]

theorem close_movesLine (q : QueryLog) (now : Timestamp) (d : Disk) :
    q.MovesLine ⟨.close, now⟩ (q.close now d).1 := by
  cases hs : q.isShutDown with
  | true =>
    have hsame : q.close now d = (q, d) := by simp [close, hs]
    rw [hsame]
    exact .keeps rfl rfl (by simp [overtakes, hs]) rfl
  | false =>
    rw [close_eq hs]
    cases hf : q.settings.fileEnabled with
    | true =>
      refine .empties ?_ ?_ (by simp [overtakes, hs, hf]) rfl
      · simp only [if_true, flush_buffer]
        rfl
      · simp only [if_true, flush_scheduled]
    | false => exact .keeps rfl rfl (by simp [overtakes, hf]) rfl

theorem setSettings_movesLine (q : QueryLog) (s : LogSettings) (now : Timestamp) (d : Disk) :
    q.MovesLine ⟨.setSettings s, now⟩ (q.next ⟨.setSettings s, now⟩ d).1 := by
  have hnever : q.overtakes ⟨.setSettings s, now⟩ = false := Bool.and_false _
  simp only [next, setSettings_eq]
  cases s.validate with
  | error _ => exact .keeps rfl rfl hnever rfl
  | ok _ => exact .keeps (q.buffer.resize_isFlushPending s.fileEnabled s.memSize) rfl hnever rfl

theorem next_movesLine (q : QueryLog) (m : LogMove) (d : Disk) :
    q.MovesLine m (q.next m d).1 := by
  rcases m with ⟨event, now⟩
  cases event with
  | add p => exact add_movesLine q p now d
  | runScheduled => exact runScheduled_movesLine q now d
  | close => exact close_movesLine q now d
  | setSettings s => exact setSettings_movesLine q s now d
  | flush =>
    refine .empties ?_ ?_ (Bool.and_true _) rfl
    · simp only [next, flush_buffer]
      rfl
    · simp only [next, flush_scheduled]
  | clear => exact .empties rfl rfl (Bool.and_true _) rfl
  | start =>
    refine .keeps ?_ ?_ (Bool.and_false _) rfl <;>
      · simp only [next, start]
        cases q.state <;> rfl
  | rotateIfDue => exact .keeps rfl rfl (Bool.and_false _) rfl
  | look => exact .keeps rfl rfl (Bool.and_false _) rfl
  | moveCallers b => exact .keeps rfl rfl (Bool.and_false _) rfl
  | disturb d' => exact .keeps rfl rfl (Bool.and_false _) rfl

/-! ## The ring and the settings -/

theorem accept_capacity (q : QueryLog) (e : LogEntry) (now : Timestamp) (d : Disk) :
    (q.accept e now d).1.buffer.ring.capacity = q.buffer.ring.capacity := by
  have hbuffered : (q.buffered e).buffer.ring.capacity = q.buffer.ring.capacity :=
    Ring.capacity_append q.buffer.ring e
  rw [accept_eq]
  split_ifs with hasks
  · cases hs : q.hasScheduler with
    | true =>
      rw [schedule_of_scheduler (q := q.buffered e) hs]
      exact hbuffered
    | false =>
      rw [schedule_of_none (q := q.buffered e) hs, flush_buffer]
      exact (Ring.capacity_clear _).trans hbuffered
  · exact hbuffered

theorem next_capacity {q : QueryLog} (hring : q.buffer.ring.IsSound)
    (hq : q.buffer.ring.capacity = q.settings.memSize) (m : LogMove) (d : Disk) :
    (q.next m d).1.buffer.ring.capacity = (q.next m d).1.settings.memSize := by
  have hclear : q.buffer.clear.ring.capacity = q.settings.memSize :=
    (Ring.capacity_clear _).trans hq
  rcases m with ⟨event, now⟩
  cases event with
  | add p =>
    simp only [next, add_eq]
    cases q.acceptedBy ⟨.add p, now⟩ with
    | none => exact hq
    | some e =>
      rw [accept_settings, accept_capacity]
      exact hq
  | runScheduled =>
    simp only [next, runScheduled]
    split_ifs
    · exact hq
    · rw [flush_buffer, flush_settings]
      exact hclear
  | flush =>
    simp only [next, flush_buffer, flush_settings]
    exact hclear
  | close =>
    simp only [next, close]
    split_ifs
    · exact hq
    · simp only [flush_buffer, flush_settings]
      exact hclear
    · exact hq
  | clear => exact hclear
  | setSettings s =>
    simp only [next, setSettings_eq]
    cases hv : s.validate with
    | error _ => exact hq
    | ok _ => exact LogBuffer.resize_capacity hring s.fileEnabled (one_le_memSize hv)
  | start =>
    simp only [next, start]
    cases q.state <;> exact hq
  | rotateIfDue => exact hq
  | look => exact hq
  | moveCallers b => exact hq
  | disturb d' => exact hq

/-- The ring is as large as the settings say, and a pending flush is in line. -/
structure IsInOrder (q : QueryLog) : Prop where
  ring_sound : q.buffer.ring.IsSound
  capacity_eq : q.buffer.ring.capacity = q.settings.memSize
  memSize_pos : 1 ≤ q.settings.memSize
  in_line : q.buffer.isFlushPending = true → 1 ≤ q.scheduled

theorem fresh_inOrder {s : LogSettings} (hs : s.validate = .ok ()) (clients : ClientLookup)
    (hasScheduler : Bool) : (fresh s clients hasScheduler).IsInOrder where
  ring_sound := (Ring.ofCapacity_holds s.memSize).isSound
  capacity_eq := (Ring.capacity_ofCapacity s.memSize).trans (Nat.max_eq_left (one_le_memSize hs))
  memSize_pos := one_le_memSize hs
  in_line := by
    intro hpending
    cases hpending

theorem fresh_of_ofSettings {s : LogSettings} {clients : ClientLookup} {hasScheduler : Bool}
    {q : QueryLog} (h : ofSettings s clients hasScheduler = .ok q) :
    s.validate = .ok () ∧ q = fresh s clients hasScheduler := by
  rw [ofSettings_eq] at h
  cases hv : s.validate with
  | error _ =>
    rw [hv] at h
    cases h
  | ok _ =>
    rw [hv] at h
    exact ⟨rfl, (Except.ok.inj h).symm⟩

theorem next_inOrder {q : QueryLog} (hq : q.IsInOrder) (m : LogMove) (d : Disk) :
    (q.next m d).1.IsInOrder := by
  constructor
  · exact next_sound hq.ring_sound m d
  · exact next_capacity hq.ring_sound hq.capacity_eq m d
  · rcases next_settings q m d with hsame | ⟨s, -, hv, hnew⟩
    · rw [hsame]
      exact hq.memSize_pos
    · rw [hnew]
      exact one_le_memSize hv
  · intro hpending
    cases q.next_movesLine m d with
    | keeps hmark hline _ _ =>
      rw [hline]
      exact hq.in_line (hmark ▸ hpending)
    | schedules _ _ _ hline _ _ =>
      rw [hline]
      exact Nat.le_add_left 1 q.scheduled
    | runs hmark _ _ _ =>
      rw [hmark] at hpending
      cases hpending
    | empties hmark _ _ _ =>
      rw [hmark] at hpending
      cases hpending

/-- Behind an entry in a log that writes files a flush is pending, or there is room in the ring.
Where flushes cannot be scheduled, one that was not pending before is not pending then. -/
theorem accept_leaves_room {q : QueryLog} (hpos : 1 ≤ q.settings.memSize)
    (hfile : q.settings.fileEnabled = true) (e : LogEntry) (now : Timestamp) (d : Disk) :
    let after := (q.accept e now d).1
    (after.buffer.isFlushPending = true ∨ after.buffer.ring.length < q.settings.memSize) ∧
      (q.hasScheduler = false → q.buffer.isFlushPending = false →
        after.buffer.ring.length < q.settings.memSize) := by
  intro after
  by_cases hasks : q.asksForFlush e = true
  · cases hs : q.hasScheduler with
    | true =>
      have hafter : after.buffer.isFlushPending = true := by
        simp only [after, accept_eq, if_pos hasks,
          schedule_of_scheduler (q := q.buffered e) hs]
      exact ⟨.inl hafter, by simp⟩
    | false =>
      have hempty : after.buffer.ring.length = 0 := by
        simp only [after, accept_eq, if_pos hasks,
          schedule_of_none (q := q.buffered e) hs, flush_buffer]
        rfl
      rw [hempty]
      exact ⟨.inr hpos, fun _ _ => hpos⟩
  · have hafter : after = q.buffered e := by simp only [after, accept_eq, if_neg hasks]
    rw [asksForFlush_iff, hfile] at hasks
    have hroom : q.buffer.isFlushPending = false →
        after.buffer.ring.length < q.settings.memSize := by
      intro hnone
      rw [hafter]
      exact Nat.lt_of_not_le fun hfull => hasks ⟨rfl, hnone, hfull⟩
    refine ⟨?_, fun _ => hroom⟩
    cases hpending : q.buffer.isFlushPending with
    | true =>
      left
      rw [hafter]
      exact hpending
    | false => exact .inr (hroom hpending)

structure IsUnscheduled (q : QueryLog) : Prop where
  no_scheduler : q.hasScheduler = false
  none_pending : q.buffer.isFlushPending = false

theorem next_hasScheduler {q : QueryLog} (hq : q.hasScheduler = false) {m : LogMove}
    (hm : m.event ≠ .moveCallers true) (d : Disk) : (q.next m d).1.hasScheduler = false := by
  rcases m with ⟨event, now⟩
  cases event with
  | add p =>
    simp only [next, add_eq]
    cases q.acceptedBy ⟨.add p, now⟩ with
    | none => exact hq
    | some e =>
      simp only [accept_eq]
      split_ifs
      · rw [schedule_of_none (q := q.buffered e) hq, flush_hasScheduler]
        exact hq
      · exact hq
  | runScheduled =>
    simp only [next, runScheduled]
    split_ifs
    · exact hq
    · rw [flush_hasScheduler]
      exact hq
  | close =>
    simp only [next, close]
    split_ifs
    · exact hq
    · simpa only [flush_hasScheduler] using hq
    · exact hq
  | flush => simpa only [next, flush_hasScheduler] using hq
  | setSettings s =>
    simp only [next, setSettings_eq]
    cases s.validate <;> exact hq
  | start =>
    simp only [next, start]
    cases q.state <;> exact hq
  | moveCallers b =>
    have hb : b = false := by simpa using hm
    exact hb
  | clear => exact hq
  | rotateIfDue => exact hq
  | look => exact hq
  | disturb d' => exact hq

theorem next_unscheduled {q : QueryLog} (hq : q.IsUnscheduled) {m : LogMove}
    (hm : m.event ≠ .moveCallers true) (d : Disk) : (q.next m d).1.IsUnscheduled := by
  refine ⟨next_hasScheduler hq.no_scheduler hm d, ?_⟩
  cases q.next_movesLine m d with
  | keeps hmark _ _ _ => rw [hmark, hq.none_pending]
  | schedules hs _ _ _ _ _ => exact absurd (hq.no_scheduler.symm.trans hs) (by simp)
  | runs hmark _ _ _ => exact hmark
  | empties hmark _ _ _ => exact hmark

end QueryLog

namespace LogHistory

def countMoves (p : QueryLog → LogMove → Bool) (h : LogHistory) : List LogMove → Nat
  | [] => 0
  | m :: moves => (p h.log m).toNat + countMoves p (h.step m) moves

def overtaken (h : LogHistory) (moves : List LogMove) : Nat := h.countMoves QueryLog.overtakes moves

/-- How many of the flushes that were overtaken have run. -/
def ranLate (h : LogHistory) (moves : List LogMove) : Nat := h.countMoves QueryLog.runsLate moves

theorem step_line (h : LogHistory) (m : LogMove) :
    (h.step m).log.scheduled + (h.log.runsLate m).toNat + h.log.buffer.isFlushPending.toNat =
      h.log.scheduled + (h.log.overtakes m).toNat +
        (h.step m).log.buffer.isFlushPending.toNat := by
  change (h.log.next m h.disk).1.scheduled + _ + _ =
    _ + _ + (h.log.next m h.disk).1.buffer.isFlushPending.toNat
  cases h.log.next_movesLine m h.disk with
  | keeps hmark hline hover hlate => rw [hmark, hline, hover, hlate]
  | schedules _ hbefore hmark hline hover hlate =>
    rw [hbefore, hmark, hline, hover, hlate]
    rfl
  | runs hmark hline hover hlate =>
    rw [hmark, hover, hlate]
    cases h.log.buffer.isFlushPending <;> simpa using hline
  | empties hmark hline hover hlate =>
    rw [hmark, hline, hover, hlate]
    rfl

theorem run_line (h : LogHistory) (moves : List LogMove) :
    (h.run moves).log.scheduled + h.ranLate moves + h.log.buffer.isFlushPending.toNat =
      h.log.scheduled + h.overtaken moves + (h.run moves).log.buffer.isFlushPending.toNat := by
  induction moves generalizing h with
  | nil => rfl
  | cons m moves ih =>
    have hstep := h.step_line m
    have hrest := ih (h.step m)
    have hlate : h.ranLate (m :: moves) = (h.log.runsLate m).toNat + (h.step m).ranLate moves := rfl
    have hover : h.overtaken (m :: moves) =
        (h.log.overtakes m).toNat + (h.step m).overtaken moves := rfl
    have hrun : h.run (m :: moves) = (h.step m).run moves := rfl
    rw [hlate, hover, hrun]
    omega

theorem run_inOrder {h : LogHistory} (hh : h.log.IsInOrder) (moves : List LogMove) :
    (h.run moves).log.IsInOrder := by
  induction moves generalizing h with
  | nil => exact hh
  | cons m moves ih => exact ih (QueryLog.next_inOrder hh m h.disk)

theorem run_unscheduled {h : LogHistory} (hh : h.log.IsUnscheduled) {moves : List LogMove}
    (hmoves : ∀ m ∈ moves, m.event ≠ .moveCallers true) : (h.run moves).log.IsUnscheduled := by
  induction moves generalizing h with
  | nil => exact hh
  | cons m moves ih =>
    obtain ⟨hm, hrest⟩ := List.forall_mem_cons.mp hmoves
    exact ih (QueryLog.next_unscheduled hh hm h.disk) hrest

variable {s : LogSettings} {clients : ClientLookup} {hasScheduler : Bool} {q : QueryLog}

/-- The flushes in line are the pending one and those that were overtaken and have not run. So there
is at most one exactly if no more were overtaken than have run, or one more while none is
pending. -/
theorem scheduled_flushes_counted (hq : QueryLog.ofSettings s clients hasScheduler = .ok q)
    (d : Disk) (moves : List LogMove) :
    let start : LogHistory := { log := q, disk := d }
    let h := start.run moves
    let pending := h.log.buffer.isFlushPending.toNat
    h.log.scheduled + start.ranLate moves = pending + start.overtaken moves ∧
      (h.log.scheduled ≤ 1 ↔ pending + start.overtaken moves ≤ 1 + start.ranLate moves) ∧
      h.log.scheduled ≤ 1 + start.overtaken moves := by
  intro start h pending
  obtain ⟨-, rfl⟩ := QueryLog.fresh_of_ofSettings hq
  have hcount : h.log.scheduled + start.ranLate moves + 0 = 0 + start.overtaken moves + pending :=
    start.run_line moves
  have hpending : pending ≤ 1 := Bool.toNat_le _
  refine ⟨by omega, ?_, by omega⟩
  constructor <;>
    · intro _
      omega

/-- One entry fills the ring, and its flush is overtaken, twice. -/
def overtakingMoves : List LogMove :=
  [⟨.add (.ofHost "a.example"), default⟩, ⟨.flush, default⟩,
    ⟨.add (.ofHost "b.example"), default⟩, ⟨.clear, default⟩, ⟨.runScheduled, default⟩]

theorem overtaken_flush_waits_in_line :
    let start : LogHistory :=
      { log := .fresh { memSize := 1 } (fun _ => .ok none) true, disk := {} }
    let h := start.run overtakingMoves
    QueryLog.ofSettings { memSize := 1 } (fun _ => .ok none) true = .ok start.log ∧
      start.overtaken overtakingMoves = 2 ∧ start.ranLate overtakingMoves = 1 ∧
      h.log.buffer.isFlushPending = false ∧ h.log.scheduled = 1 := by
  intro start h
  have hmade : QueryLog.ofSettings { memSize := 1 } (fun _ => .ok none) true = .ok start.log := rfl
  obtain ⟨hover, hlate, hnone⟩ : start.overtaken overtakingMoves = 2 ∧
      start.ranLate overtakingMoves = 1 ∧ h.log.buffer.isFlushPending = false := by
    decide +kernel
  have hcount := (scheduled_flushes_counted hmade {} overtakingMoves).1
  have hline : h.log.scheduled + 1 = 0 + 2 := by
    rw [← hlate, ← hover, hcount, hnone]
    rfl
  exact ⟨hmade, hover, hlate, hnone, Nat.succ.inj hline⟩

/-- A flush on demand takes the mark of the one that is in line, and the next entry asks for another
one. -/
theorem two_flushes_in_line :
    let start : LogHistory :=
      { log := .fresh { memSize := 1 } (fun _ => .ok none) true, disk := {} }
    (start.run (overtakingMoves.take 3)).log.scheduled = 2 := by
  decide +kernel

structure IsFilledByOne (h : LogHistory) : Prop where
  in_order : h.log.IsInOrder
  settings : h.log.settings = { memSize := 1 }
  has_scheduler : h.log.hasScheduler = true
  none_pending : h.log.buffer.isFlushPending = false

theorem IsFilledByOne.round {h : LogHistory} (hh : h.IsFilledByOne) :
    let next := h.run (overtakingMoves.take 2)
    next.IsFilledByOne ∧ next.log.scheduled = h.log.scheduled + 1 := by
  intro next
  obtain ⟨e, he⟩ : ∃ e, h.log.acceptedBy ⟨.add (.ofHost "a.example"), default⟩ = some e := by
    have hsome : (LogEntry.ofParams (.ofHost "a.example") default).toOption.isSome = true := by
      decide +kernel
    simp only [QueryLog.acceptedBy, hh.settings, if_true]
    exact Option.isSome_iff_exists.mp hsome
  have hasks : h.log.asksForFlush e = true := by
    rw [QueryLog.asksForFlush_iff, hh.settings]
    refine ⟨rfl, hh.none_pending, Ring.length_append_pos ?_ e⟩
    rw [hh.in_order.capacity_eq]
    exact hh.in_order.memSize_pos
  have hadded : (h.step ⟨.add (.ofHost "a.example"), default⟩).log =
      { h.log.buffered e with
        buffer := { (h.log.buffered e).buffer with isFlushPending := true }
        scheduled := h.log.scheduled + 1 } := by
    change (h.log.add _ _ h.disk).1 = _
    rw [QueryLog.add_eq, he]
    simp only [QueryLog.accept_eq, if_pos hasks]
    rw [QueryLog.schedule_of_scheduler (q := h.log.buffered e) hh.has_scheduler]
    rfl
  have hflushed : next.log =
      ((h.step ⟨.add (.ofHost "a.example"), default⟩).log.flush default
        (h.step ⟨.add (.ofHost "a.example"), default⟩).disk).2.1 := rfl
  have horder : next.log.IsInOrder := run_inOrder hh.in_order _
  rw [hadded] at hflushed
  refine ⟨⟨horder, ?_, ?_, ?_⟩, ?_⟩
  · rw [hflushed, QueryLog.flush_settings]
    exact hh.settings
  · rw [hflushed, QueryLog.flush_hasScheduler]
    exact hh.has_scheduler
  · rw [hflushed, QueryLog.flush_buffer]
    rfl
  · rw [hflushed, QueryLog.flush_scheduled]

theorem any_number_in_line (n : Nat) :
    ∃ moves, (run { log := .fresh { memSize := 1 } (fun _ => .ok none) true, disk := {} }
      moves).log.scheduled = n := by
  let start : LogHistory := { log := .fresh { memSize := 1 } (fun _ => .ok none) true, disk := {} }
  suffices h : ∃ moves, (start.run moves).IsFilledByOne ∧ (start.run moves).log.scheduled = n from
    h.imp fun _ h => h.2
  induction n with
  | zero => exact ⟨[], ⟨QueryLog.fresh_inOrder rfl _ _, rfl, rfl, rfl⟩, rfl⟩
  | succ n ih =>
    obtain ⟨moves, hmoves, hn⟩ := ih
    obtain ⟨hnext, hline⟩ := hmoves.round
    have happend : start.run (moves ++ overtakingMoves.take 2) =
        (start.run moves).run (overtakingMoves.take 2) := List.foldl_append
    refine ⟨moves ++ overtakingMoves.take 2, ?_⟩
    rw [happend]
    exact ⟨hnext, hline.trans (congrArg (· + 1) hn)⟩

/-- At every moment of a run a pending flush is in line, and the ring is as large as the settings
say. Behind each entry that is accepted while files are written, a flush is pending or there is room
in the ring; where no caller can schedule flushes there is always room. -/
theorem pending_flush_is_in_line (hq : QueryLog.ofSettings s clients hasScheduler = .ok q)
    (d : Disk) (moves : List LogMove) :
    let h := run { log := q, disk := d } moves
    (h.log.buffer.isFlushPending = true → 1 ≤ h.log.scheduled) ∧
      h.log.buffer.ring.capacity = h.log.settings.memSize ∧ 1 ≤ h.log.settings.memSize ∧
      ∀ p now e, h.log.acceptedBy ⟨.add p, now⟩ = some e → h.log.settings.fileEnabled = true →
        let after := (h.step ⟨.add p, now⟩).log
        (after.buffer.isFlushPending = true ∨
          after.buffer.ring.length < after.settings.memSize) ∧
        (hasScheduler = false → (∀ m ∈ moves, m.event ≠ .moveCallers true) →
          after.buffer.ring.length < after.settings.memSize) := by
  intro h
  obtain ⟨hvalid, rfl⟩ := QueryLog.fresh_of_ofSettings hq
  have hh : h.log.IsInOrder :=
    run_inOrder (QueryLog.fresh_inOrder hvalid clients hasScheduler) moves
  refine ⟨hh.in_line, hh.capacity_eq, hh.memSize_pos, fun p now e haccepted hfile => ?_⟩
  intro after
  have hafter : after = (h.log.accept e now h.disk).1 := by
    change (h.log.add p now h.disk).1 = _
    rw [QueryLog.add_eq, haccepted]
  obtain ⟨hleft, hroom⟩ := QueryLog.accept_leaves_room hh.memSize_pos hfile e now h.disk
  rw [hafter, QueryLog.accept_settings]
  refine ⟨hleft, fun hnone hmoves => ?_⟩
  have hunscheduled : h.log.IsUnscheduled :=
    run_unscheduled (h := { log := .fresh s clients hasScheduler, disk := d }) ⟨hnone, rfl⟩ hmoves
  exact hroom hunscheduled.no_scheduler hunscheduled.none_pending

/-- The second entry fills a ring of two. Its flush is in line, or has run at once. -/
theorem second_entry_asks_for_flush :
    let log (hasScheduler : Bool) : QueryLog :=
      .fresh { memSize := 2 } (fun _ => .ok none) hasScheduler
    let first : LogMove := ⟨.add (.ofHost "a.example"), default⟩
    let second : LogParams := .ofHost "b.example"
    let waiting := run { log := log true, disk := {} } [first, ⟨.add second, default⟩]
    (∀ b, QueryLog.ofSettings { memSize := 2 } (fun _ => .ok none) b = .ok (log b)) ∧
      waiting.log.buffer.isFlushPending = true ∧ 1 ≤ waiting.log.scheduled ∧
      waiting.log.buffer.ring.capacity = 2 ∧
      ((run { log := log false, disk := {} } [first]).step
        ⟨.add second, default⟩).log.buffer.ring.length < 2 := by
  intro log first second waiting
  have hmade : ∀ b, QueryLog.ofSettings { memSize := 2 } (fun _ => .ok none) b = .ok (log b) :=
    fun _ => rfl
  obtain ⟨hpending, hsize, haccepted, hfile, hsize'⟩ :
      waiting.log.buffer.isFlushPending = true ∧ waiting.log.settings.memSize = 2 ∧
        ((run { log := log false, disk := {} } [first]).log.acceptedBy
          ⟨.add second, default⟩).isSome = true ∧
        (run { log := log false, disk := {} } [first]).log.settings.fileEnabled = true ∧
        ((run { log := log false, disk := {} } [first]).step
          ⟨.add second, default⟩).log.settings.memSize = 2 := by
    decide +kernel
  obtain ⟨e, he⟩ := Option.isSome_iff_exists.mp haccepted
  obtain ⟨hline, hcapacity, -⟩ :=
    pending_flush_is_in_line (hmade true) {} [first, ⟨.add second, default⟩]
  obtain ⟨-, -, -, hadd⟩ := pending_flush_is_in_line (hmade false) {} [first]
  have hroom := (hadd second default e he hfile).2 rfl (by simp [first])
  rw [hsize'] at hroom
  exact ⟨hmade, hpending, hline hpending, hcapacity.trans hsize, hroom⟩

end LogHistory
end DnsFilter
