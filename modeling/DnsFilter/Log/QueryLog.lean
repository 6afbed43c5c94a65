import DnsFilter.Clients.Finder
import DnsFilter.Log.Buffer
import DnsFilter.Log.Metrics
import DnsFilter.Log.Writer
/-!
# The query log

Entries are buffered, counted, and flushed to the log files when the buffer is full, on demand and
on closing. A flush of a full buffer is scheduled for later, or runs at once where there is no
scheduler. While the log runs the files are looked at every hour and rotated if that is due.
-/
namespace DnsFilter

/-- Finds the client that one of some identifiers belongs to. A look-up may fail. -/
abbrev ClientLookup := List String → Except Failure (Option Client)

def ClientFinder.lookup (f : ClientFinder) : ClientLookup := fun ids => .ok (f.find? ids)

inductive LogState
  | stopped | running
  deriving DecidableEq, Repr

structure QueryLog where
  settings : LogSettings
  buffer : LogBuffer
  writer : LogWriter
  clients : ClientLookup
  metrics : Metrics := {}
  state : LogState := .stopped
  /-- The log was closed once. -/
  isShutDown : Bool := false
  /-- The read endpoints were registered. -/
  isServed : Bool := false
  /-- Whether flushes can be scheduled, and files looked at every hour. -/
  hasScheduler : Bool
  /-- The scheduled flushes that have not run. -/
  scheduled : Nat := 0

namespace QueryLog

def ofSettings (settings : LogSettings) (clients : ClientLookup) (hasScheduler : Bool) :
    Except Failure QueryLog := do
  settings.validate
  return {
    settings
    buffer := .ofCapacity settings.memSize
    writer := .ofDir settings.dir
    clients
    hasScheduler }

def policy (q : QueryLog) : RotationPolicy := .ofSettings q.settings

/-- Whether queries for a host of a client that has one of `ids` are logged. A look-up that fails is
taken as no client. -/
def shouldLog (q : QueryLog) (host : String) (ids : List String) : Bool :=
  match q.clients ids with
  | .ok (some client) =>
    !client.ignoreQueryLog && !q.settings.ignoredHosts.contains (HostName.normalize host)
  | _ => !q.settings.ignoredHosts.contains (HostName.normalize host)

/-- Writes the buffer, and tells how many lines were written with those of the backlog. What could
not be written is in the backlog. -/
def flush (q : QueryLog) (now : Timestamp) (d : Disk) : Except Failure Nat × QueryLog × Disk :=
  let (result, writer, d) := q.writer.write q.buffer.toList q.policy now d
  let q := { q with buffer := q.buffer.clear, writer }
  match result with
  | .ok n => (.ok n, { q with metrics := q.metrics.addFlush n }, d)
  | .error e => (.error e, { q with metrics := q.metrics.addFailedFlush }, d)

def schedule (q : QueryLog) (now : Timestamp) (d : Disk) : QueryLog × Disk :=
  let q := { q with buffer := { q.buffer with isFlushPending := true } }
  if q.hasScheduler then ({ q with scheduled := q.scheduled + 1 }, d) else (q.flush now d).2

def accept (q : QueryLog) (e : LogEntry) (now : Timestamp) (d : Disk) : QueryLog × Disk :=
  let keepsAll := q.settings.fileEnabled
  let q := { q with
    buffer := q.buffer.append keepsAll e
    metrics := q.metrics.addEntry e }
  if keepsAll && q.buffer.isFlushDue q.settings.memSize then q.schedule now d else (q, d)

/-- Logs a query at the time at which it is buffered. Parameters that make no entry are dropped. -/
def add (q : QueryLog) (p : LogParams) (now : Timestamp) (d : Disk) : QueryLog × Disk :=
  if q.settings.enabled then
    match LogEntry.ofParams p now with
    | .ok e => q.accept e now d
    | .error _ => (q, d)
  else (q, d)

def runScheduled (q : QueryLog) (now : Timestamp) (d : Disk) : QueryLog × Disk :=
  if q.scheduled = 0 then (q, d)
  else ({ q with scheduled := q.scheduled - 1 }.flush now d).2

def runMany : Nat → QueryLog → Timestamp → Disk → QueryLog × Disk
  | 0, q, _, d => (q, d)
  | n + 1, q, now, d =>
    let (q, d) := q.runScheduled now d
    runMany n q now d

def runAll (q : QueryLog) (now : Timestamp) (d : Disk) : QueryLog × Disk :=
  runMany q.scheduled q now d

/-- Empties the buffer and the backlog and removes the active file and its predecessor. -/
def clear (q : QueryLog) (d : Disk) : Except Failure Unit × QueryLog × Disk :=
  let (result, writer, d) := q.writer.clear d
  (result, { q with buffer := q.buffer.clear, writer }, d)

/-- Rotates the files if that is due and files are written at all. -/
def rotateIfDue (q : QueryLog) (now : Timestamp) (d : Disk) : Except Failure Bool × Disk :=
  if q.settings.fileEnabled then q.writer.rotateIfDue q.policy now d else (.ok false, d)

def recent (q : QueryLog) (limit : Nat) : List LogEntry := q.buffer.recent limit

/-- Takes over other settings, if they are valid. -/
def setSettings (q : QueryLog) (s : LogSettings) : Except Failure QueryLog := do
  s.validate
  return { q with
    settings := s
    buffer := q.buffer.resize s.fileEnabled s.memSize
    writer := q.writer.setDir s.dir }

/-- Registers the read endpoints and begins to look at the files every hour. A running log stays as
it is. -/
def start (q : QueryLog) : QueryLog :=
  match q.state with
  | .running => q
  | .stopped => { q with state := .running, isServed := true }

def isWatching (q : QueryLog) : Bool :=
  q.state == .running && q.hasScheduler && !q.isShutDown

def look (q : QueryLog) (now : Timestamp) (d : Disk) : Disk :=
  if q.isWatching then (q.rotateIfDue now d).2 else d

/-- Writes the buffer where files are written, and ends the hourly look for good. A log that was
closed once stays as it is. -/
def close (q : QueryLog) (now : Timestamp) (d : Disk) : QueryLog × Disk :=
  if q.isShutDown then (q, d)
  else
    let (q, d) := if q.settings.fileEnabled then (q.flush now d).2 else (q, d)
    ({ q with isShutDown := true, state := .stopped }, d)

end QueryLog
end DnsFilter
