import DnsFilter.Proofs.Log.Accounting
import DnsFilter.Proofs.Log.ArchiveName
import DnsFilter.Proofs.Log.Directory
import DnsFilter.Proofs.Log.Scheduling
import DnsFilter.Proofs.Storage.Spellings
/-!
# Clearing a log

A clear empties the ring, the spilled entries and the backlog, also when the files cannot be removed.
A flush that is still in line finds only what was accepted since.
-/
namespace DnsFilter

namespace LogFiles

theorem removeIfThere_eq_ok {path : String} {d d' : Disk}
    (h : (removeIfThere path).perform d = (.ok (), d')) :
    d.removeFile path = .ok d' ∨ d.find path = .error .missing ∧ d' = d := by
  rw [removeIfThere, OnDisk.perform_change] at h
  cases hremove : d.removeFile path with
  | ok removed =>
    rw [hremove] at h
    cases h
    exact .inl rfl
  | error e =>
    rw [hremove] at h
    cases e with
    | missing =>
      cases h
      refine .inr ⟨?_, rfl⟩
      unfold Disk.removeFile at hremove
      cases hfind : d.find path with
      | error e =>
        rw [hfind] at hremove
        exact congrArg _ (Except.error.inj hremove)
      | ok found =>
        rw [hfind] at hremove
        change (if _ then _ else _) = _ at hremove
        split_ifs at hremove
        cases hremove
    | _ => cases h

theorem gone_of_removeIfThere {path : String} {d d' : Disk}
    (h : (removeIfThere path).perform d = (.ok (), d')) : d'.has path = false := by
  rcases removeIfThere_eq_ok h with hremove | ⟨hmissing, rfl⟩
  · exact Disk.not_has_of_removeFile hremove
  · rw [Disk.has, hmissing]
    rfl

theorem checkText_of_removeIfThere {path : String} (hpath : path ≠ "") {d d' : Disk}
    (h : (removeIfThere path).perform d = (.ok (), d')) : Disk.checkText path = .ok () := by
  rcases removeIfThere_eq_ok h with hremove | ⟨hmissing, -⟩
  · obtain ⟨p, n, hfind, -⟩ := Disk.removeFile_eq_ok hremove
    exact Disk.checkText_of_find hpath (.inl ⟨(p, n), hfind⟩)
  · exact Disk.checkText_of_find hpath (.inr hmissing)

theorem absent_of_removeIfThere {path other : String} {d d' : Disk}
    (h : (removeIfThere path).perform d = (.ok (), d')) (hother : d.has other = false) :
    d'.has other = false := by
  rcases removeIfThere_eq_ok h with hremove | ⟨-, rfl⟩
  · exact Disk.has_of_removeFile hremove hother
  · exact hother

theorem removeCurrent_eq_ok {f : LogFiles} {d d' : Disk}
    (h : f.removeCurrent.perform d = (.ok (), d')) :
    ∃ d₁, (removeIfThere f.predecessor).perform d = (.ok (), d₁) ∧
      (removeIfThere f.active).perform d₁ = (.ok (), d') := by
  rw [removeCurrent, OnDisk.perform_bind] at h
  split at h
  · rename_i d₁ hpredecessor
    exact ⟨d₁, hpredecessor, h⟩
  · cases h

theorem gone_of_removeCurrent {f : LogFiles} {d d' : Disk}
    (h : f.removeCurrent.perform d = (.ok (), d')) {dir : String}
    (hdir : Disk.parts f.dir = Disk.parts dir) :
    d'.has (LogFiles.mk dir).active = false ∧ d'.has (LogFiles.mk dir).predecessor = false := by
  obtain ⟨d₁, hpredecessor, hactive⟩ := removeCurrent_eq_ok h
  have hne {name : String} (hname : Disk.IsPlainName name) : f.pathOf name ≠ "" := by
    unfold pathOf Disk.join
    split_ifs <;> simp [hname.not_special.1]
  have hlogPlain := LogName.isPlainName_active
  have holdPlain := LogName.isPlainName_predecessor
  constructor
  · exact Disk.has_join_congr hlogPlain.no_slash hdir
      (checkText_of_removeIfThere (hne hlogPlain) hactive) (gone_of_removeIfThere hactive)
  · exact Disk.has_join_congr holdPlain.no_slash hdir
      (checkText_of_removeIfThere (hne holdPlain) hpredecessor)
      (absent_of_removeIfThere hactive (gone_of_removeIfThere hpredecessor))

end LogFiles

theorem LogWriter.parts_setDir (w : LogWriter) (dir : String) :
    Disk.parts (w.setDir dir).files.dir = Disk.parts dir := by
  unfold setDir
  split_ifs with hsame
  · exact hsame
  · rfl

namespace QueryLog

def IsPlaced (q : QueryLog) : Prop := Disk.parts q.writer.files.dir = Disk.parts q.settings.dir

theorem next_isPlaced {q : QueryLog} (hq : q.IsPlaced) (m : LogMove) (d : Disk) :
    (q.next m d).1.IsPlaced := by
  by_cases hset : ∃ s, m.event = .setSettings s
  · obtain ⟨event, now⟩ := m
    obtain ⟨s, rfl⟩ := hset
    simp only [next, setSettings_eq]
    cases s.validate with
    | error _ => exact hq
    | ok _ => exact q.writer.parts_setDir s.dir
  · rcases q.next_files m d with hfiles | ⟨s, hs, -⟩
    · rcases q.next_settings m d with hsame | ⟨s, hs, -⟩
      · rw [IsPlaced, hfiles, hsame]
        exact hq
      · exact absurd ⟨s, hs⟩ hset
    · exact absurd ⟨s, hs⟩ hset

theorem fresh_isPlaced (s : LogSettings) (clients : ClientLookup) (hasScheduler : Bool) :
    (fresh s clients hasScheduler).IsPlaced := rfl

theorem gone_of_clear {q : QueryLog} (hq : q.IsPlaced) {d : Disk} (h : (q.clear d).1 = .ok ())
    {dir : String} (hdir : Disk.parts dir = Disk.parts q.settings.dir) :
    (q.clear d).2.2.has (LogFiles.mk dir).active = false ∧
      (q.clear d).2.2.has (LogFiles.mk dir).predecessor = false := by
  have hspelled : Disk.parts q.writer.files.dir = Disk.parts dir := hq.trans hdir.symm
  unfold clear LogWriter.clear at h ⊢
  cases hremove : q.writer.files.removeCurrent.perform d with
  | mk result d' =>
    cases result with
    | error e =>
      rw [hremove] at h
      cases h
    | ok _ => exact LogFiles.gone_of_removeCurrent hremove hspelled

end QueryLog

namespace LogHistory

/-- The same log on the same disk, as if nothing had become of its entries yet. -/
def restart (h : LogHistory) : LogHistory := { log := h.log, disk := h.disk }

def goOn (h since : LogHistory) : LogHistory :=
  { since with
    accepted := h.accepted ++ since.accepted
    appended := h.appended ++ since.appended
    pushedOut := h.pushedOut ++ since.pushedOut
    cleared := h.cleared ++ since.cleared }

theorem goOn_restart (h : LogHistory) : h.goOn h.restart = h := by simp [goOn, restart]

theorem step_goOn (h since : LogHistory) (m : LogMove) :
    (h.goOn since).step m = h.goOn (since.step m) := by
  simp [goOn, step]

theorem run_goOn (h since : LogHistory) (moves : List LogMove) :
    (h.goOn since).run moves = h.goOn (since.run moves) := by
  induction moves generalizing since with
  | nil => rfl
  | cons m moves ih =>
    change ((h.goOn since).step m).run moves = h.goOn ((since.step m).run moves)
    rw [step_goOn, ih]

theorem run_eq_goOn (h : LogHistory) (moves : List LogMove) :
    h.run moves = h.goOn (h.restart.run moves) := by
  rw [← run_goOn, goOn_restart]

theorem run_isPlaced {h : LogHistory} (hh : h.log.IsPlaced) (moves : List LogMove) :
    (h.run moves).log.IsPlaced := by
  induction moves generalizing h with
  | nil => exact hh
  | cons m moves ih => exact ih (h.log.next_isPlaced hh m h.disk)

/-- What is appended after a clear was accepted after it, whatever was in the ring, spilled, in the
backlog or waiting for a flush in line, and whether or not the files could be removed. If they could,
neither of them is there then, in whatever spelling of the directory. -/
theorem nothing_cleared_is_appended {s : LogSettings} {clients : ClientLookup}
    {hasScheduler : Bool} {q : QueryLog}
    (hq : QueryLog.ofSettings s clients hasScheduler = .ok q) (d : Disk)
    (before after : List LogMove) (now : Timestamp) :
    let h := run { log := q, disk := d } before
    let c := h.step ⟨.clear, now⟩
    let since := c.restart.run after
    c.log.held = [] ∧
      (c.run after).appended = h.appended ++ since.appended ∧
      (c.run after).accepted = h.accepted ++ since.accepted ∧
      since.appended.Sublist since.accepted ∧
      ((h.log.clear h.disk).1 = .ok () →
        ∀ dir, Disk.parts dir = Disk.parts h.log.settings.dir →
          c.disk.has (LogFiles.mk dir).active = false ∧
            c.disk.has (LogFiles.mk dir).predecessor = false) := by
  intro h c since
  obtain ⟨-, rfl⟩ := QueryLog.fresh_of_ofSettings hq
  have hring : h.log.buffer.ring.IsSound :=
    (run_accounted (empty_accounted (QueryLog.fresh_isEmpty s clients hasScheduler) d)
      before).ring_sound
  have hplaced : h.log.IsPlaced :=
    run_isPlaced (QueryLog.fresh_isPlaced s clients hasScheduler) before
  have hempty : c.log.IsEmpty :=
    ⟨QueryLog.next_sound hring ⟨.clear, now⟩ h.disk, QueryLog.clear_held hring h.disk⟩
  have hgoOn : c.run after = c.goOn since := run_eq_goOn c after
  have happended : c.appended = h.appended := List.append_nil h.appended
  have haccepted : c.accepted = h.accepted := List.append_nil h.accepted
  refine ⟨hempty.held_nil, ?_, ?_, ?_, ?_⟩
  · rw [hgoOn, ← happended]
    rfl
  · rw [hgoOn, ← haccepted]
    rfl
  · have hkept := (run_accounted (empty_accounted hempty c.disk) after).keeps.in_order
    rw [kept_eq] at hkept
    exact (List.sublist_append_left _ _).trans hkept
  · intro hclear dir hdir
    exact QueryLog.gone_of_clear hplaced hclear hdir

def addMove (host : String) : LogMove := ⟨.add (.ofHost host), default⟩

/-- A flush fails as a file is in the place of the directory. Of the entries behind it one is spilled
and two fill the ring. -/
def hidingMoves : List LogMove :=
  [⟨.disturb { nodes := [(["log"], .plain [])] }, default⟩, addMove "a.example",
    addMove "b.example", ⟨.runScheduled, default⟩, addMove "c.example", addMove "d.example",
    addMove "e.example"]

def emptyLog : LogHistory where
  log := .fresh { dir := "log", memSize := 2 } (fun _ => .ok none) true
  disk := {}

/-- The directory is there with both files, and the settings spell it in another way. -/
def refilingMoves : List LogMove :=
  [⟨.disturb { nodes := [(["log"], .directory), (["log", LogName.predecessor], .plain []),
      (["log", LogName.active], .plain [])] }, default⟩,
    ⟨.setSettings { dir := "log//", memSize := 2 }, default⟩]

theorem hidden_entries_are_cleared :
    let h := emptyLog.run (hidingMoves ++ refilingMoves)
    let c := h.step ⟨.clear, default⟩
    let later := [⟨.runScheduled, default⟩, addMove "f.example", ⟨.flush, default⟩]
    let files : LogFiles := ⟨"log"⟩
    h.log.writer.backlog.map (·.host) = ["a.example", "b.example"] ∧
      h.log.buffer.spilled.map (·.host) = ["c.example"] ∧
      h.log.buffer.ring.toList.map (·.host) = ["d.example", "e.example"] ∧
      h.log.scheduled = 1 ∧ h.log.settings.dir = "log//" ∧
      h.disk.has files.active = true ∧ c.disk.has files.active = false ∧
      h.disk.has files.predecessor = true ∧ c.disk.has files.predecessor = false ∧
      (c.restart.run later).appended.Sublist (c.restart.run later).accepted ∧
      (c.run later).appended.map (·.host) = ["f.example"] := by
  intro h c later files
  have hmade : QueryLog.ofSettings { dir := "log", memSize := 2 } (fun _ => .ok none) true =
      .ok emptyLog.log := rfl
  have hall :=
    nothing_cleared_is_appended hmade {} (hidingMoves ++ refilingMoves) later default
  obtain ⟨-, -, -, hsince, hgone⟩ := hall
  have hclear : (h.log.clear h.disk).1 = .ok () := by decide +kernel
  obtain ⟨hactive, hpredecessor⟩ := hgone hclear "log" (by decide +kernel)
  exact ⟨by decide +kernel, by decide +kernel, by decide +kernel, by decide +kernel,
    by decide +kernel, by decide +kernel, hactive, by decide +kernel, hpredecessor, hsince,
    by decide +kernel⟩

-- Where the file is still in the place of the directory the clear fails, with nothing kept.
example :
    let h := emptyLog.run hidingMoves
    (h.log.clear h.disk).1.isOk = false ∧ (h.step ⟨.clear, default⟩).log.held = [] := by
  decide +kernel

end LogHistory
end DnsFilter
