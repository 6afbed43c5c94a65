import DnsFilter.Log.QueryLog
import DnsFilter.Proofs.Log.Ring
/-!
# Histories of a query log

What can happen to a query log and to the disk below it, at any times and in any order. Anything may
become of the disk between two events, so that every append can succeed or fail. The lists of the
entries that were accepted, appended and given up are a conservative overlay: they never change the
log or its files.
-/
namespace DnsFilter

inductive LogEvent
  | add (p : LogParams)
  | runScheduled
  | flush
  | clear
  | rotateIfDue
  | start
  | close
  | setSettings (s : LogSettings)
  /-- The look at the files that is taken on starting and every hour. -/
  | look
  /-- The next callers are where flushes can be scheduled, or where they cannot. -/
  | moveCallers (hasScheduler : Bool)
  /-- Something else changes the disk. -/
  | disturb (d : Disk)

structure LogMove where
  event : LogEvent
  now : Timestamp

def LogParams.ofHost (host : String) : LogParams where
  questions := [⟨host, .a, .internet⟩]
  answer := []
  origAnswer := none
  verdict := none
  clientId := none
  transport := .plain
  clientIp := some (.v4 ⟨127, 0, 0, 1⟩)
  elapsed := ⟨0⟩
  cached := false
  authenticated := false
  ecs := none
  upstream := none

def Metrics.afterFlush (m : Metrics) : Except Failure Nat → Metrics
  | .ok n => m.addFlush n
  | .error _ => m.addFailedFlush

namespace LogWriter

/-- The entries that `write` appends to the active file: all of the backlog and the new ones, or
none. -/
def appendedBy (w : LogWriter) (entries : List LogEntry) (d : Disk) : List LogEntry :=
  match ((appendLines w.files (w.backlog ++ entries)).perform d).1 with
  | .ok () => w.backlog ++ entries
  | .error _ => []

end LogWriter

namespace QueryLog

def next (q : QueryLog) (m : LogMove) (d : Disk) : QueryLog × Disk :=
  match m.event with
  | .add p => q.add p m.now d
  | .runScheduled => q.runScheduled m.now d
  | .flush => (q.flush m.now d).2
  | .clear => (q.clear d).2
  | .rotateIfDue => (q, (q.rotateIfDue m.now d).2)
  | .start => (q.start, d)
  | .close => q.close m.now d
  | .setSettings s =>
    match q.setSettings s with
    | .ok q => (q, d)
    | .error _ => (q, d)
  | .look => (q, q.look m.now d)
  | .moveCallers hasScheduler => ({ q with hasScheduler }, d)
  | .disturb d => (q, d)

/-- The entries that wait to be written, the oldest first. -/
def held (q : QueryLog) : List LogEntry := q.writer.backlog ++ q.buffer.toList

def acceptedBy (q : QueryLog) (m : LogMove) : Option LogEntry :=
  match m.event with
  | .add p => if q.settings.enabled then (LogEntry.ofParams p m.now).toOption else none
  | _ => none

def buffered (q : QueryLog) (e : LogEntry) : QueryLog :=
  { q with
    buffer := q.buffer.append q.settings.fileEnabled e
    metrics := q.metrics.addEntry e }

def asksForFlush (q : QueryLog) (e : LogEntry) : Bool :=
  q.settings.fileEnabled && (q.buffered e).buffer.isFlushDue q.settings.memSize

/-- The buffer that an event flushes, if it flushes one. -/
def flushedBy (q : QueryLog) (m : LogMove) : Option LogBuffer :=
  match m.event with
  | .add _ =>
    (q.acceptedBy m).bind fun e =>
      if q.asksForFlush e && !q.hasScheduler then some (q.buffered e).buffer else none
  | .runScheduled => if q.scheduled = 0 then none else some q.buffer
  | .flush => some q.buffer
  | .close => if q.isShutDown || !q.settings.fileEnabled then none else some q.buffer
  | _ => none

def appendedBy (q : QueryLog) (m : LogMove) (d : Disk) : List LogEntry :=
  match q.flushedBy m with
  | some b => q.writer.appendedBy b.toList d
  | none => []

/-- The entries that an event pushes out of the ring while no files are written. -/
def pushedOutBy (q : QueryLog) (m : LogMove) : List LogEntry :=
  match m.event with
  | .add _ =>
    match q.acceptedBy m with
    | some e => if q.settings.fileEnabled then [] else (q.buffer.ring.append e).2.toList
    | none => []
  | .setSettings s =>
    match s.validate with
    | .ok () =>
      if s.fileEnabled then [] else q.buffer.ring.toList.take (q.buffer.ring.length - s.memSize)
    | .error _ => []
  | _ => []

def clearedBy (q : QueryLog) (m : LogMove) : List LogEntry :=
  match m.event with
  | .clear => q.held
  | _ => []

/-- A log whose ring is sound, with nothing in it that waits to be written. -/
structure IsEmpty (q : QueryLog) : Prop where
  ring_sound : q.buffer.ring.IsSound
  held_nil : q.held = []

def fresh (s : LogSettings) (clients : ClientLookup) (hasScheduler : Bool) : QueryLog where
  settings := s
  buffer := .ofCapacity s.memSize
  writer := .ofDir s.dir
  clients
  hasScheduler

theorem ofSettings_eq (s : LogSettings) (clients : ClientLookup) (hasScheduler : Bool) :
    ofSettings s clients hasScheduler = s.validate.map fun _ => fresh s clients hasScheduler := by
  unfold ofSettings
  cases s.validate <;> rfl

theorem fresh_isEmpty (s : LogSettings) (clients : ClientLookup) (hasScheduler : Bool) :
    (fresh s clients hasScheduler).IsEmpty := by
  have hring : (Ring.ofCapacity s.memSize : Ring LogEntry).Holds [] := Ring.ofCapacity_holds _
  constructor
  · exact hring.isSound
  · have hlist : (Ring.ofCapacity s.memSize : Ring LogEntry).toList = [] := Ring.toList_eq hring
    simp [held, fresh, LogWriter.ofDir, LogBuffer.ofCapacity, LogBuffer.toList, hlist]

end QueryLog

/-- A query log with its disk, and what became of its entries. All lists have the oldest first. -/
structure LogHistory where
  log : QueryLog
  disk : Disk
  accepted : List LogEntry := []
  appended : List LogEntry := []
  /-- Entries that left the ring while no files were written. -/
  pushedOut : List LogEntry := []
  cleared : List LogEntry := []

namespace LogHistory

def step (h : LogHistory) (m : LogMove) : LogHistory :=
  { log := (h.log.next m h.disk).1
    disk := (h.log.next m h.disk).2
    accepted := h.accepted ++ (h.log.acceptedBy m).toList
    appended := h.appended ++ h.log.appendedBy m h.disk
    pushedOut := h.pushedOut ++ h.log.pushedOutBy m
    cleared := h.cleared ++ h.log.clearedBy m }

def run (h : LogHistory) (moves : List LogMove) : LogHistory := moves.foldl step h

/-- What was appended, and then what waits: the backlog, the spilled entries and the ring. -/
def kept (h : LogHistory) : List LogEntry :=
  h.appended ++ h.log.writer.backlog ++ h.log.buffer.spilled ++ h.log.buffer.ring.toList

/-- Files were written before and after each of the moves. -/
def IsFiling (h : LogHistory) (moves : List LogMove) : Prop :=
  ∀ n, (h.run (moves.take n)).log.settings.fileEnabled = true

end LogHistory
end DnsFilter
