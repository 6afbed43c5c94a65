import DnsFilter.Log.Files
/-!
# Writing the query log

Entries are appended to the active file as lines. Entries whose write failed wait in a backlog and
go ahead of the next ones. The files are rotated as the released build does it.
-/
namespace DnsFilter

structure LogWriter where
  files : LogFiles
  backlog : List LogEntry
  deriving DecidableEq, Repr

namespace LogWriter

def ofDir (dir : String) : LogWriter := ⟨⟨dir⟩, []⟩

/-- Moves to another directory. Another spelling of the same one changes nothing. -/
def setDir (w : LogWriter) (dir : String) : LogWriter :=
  if Disk.parts w.files.dir = Disk.parts dir then w else { w with files := ⟨dir⟩ }

def linesOf (entries : List LogEntry) : List Char :=
  entries.flatMap (fun e => e.line.toList ++ ['\n'])

def appendLines (f : LogFiles) (entries : List LogEntry) : OnDisk Unit := do
  OnDisk.makeDirectories f.dir
  OnDisk.change (·.append f.active (Utf8.encode (linesOf entries)))

/-- Rotates a file that has grown too large. A failure is left for later. -/
def rotateIfLarge (f : LogFiles) (p : RotationPolicy) (now : Timestamp) (d : Disk) : Disk :=
  if p.isTooLarge ((f.activeSize d).toOption.getD 0) then
    ((f.rotate .released p.maxArchives now).perform d).2
  else d

/-- Appends entries after the backlog and tells how many lines were written. If that fails all of
them become the backlog. -/
def write (w : LogWriter) (entries : List LogEntry) (p : RotationPolicy) (now : Timestamp)
    (d : Disk) : Except Failure Nat × LogWriter × Disk :=
  let batch := w.backlog ++ entries
  if batch = [] then (.ok 0, w, d)
  else
    match (appendLines w.files batch).perform d with
    | (.error e, d) => (.error (.logFiles e.message), { w with backlog := batch }, d)
    | (.ok (), d) => (.ok batch.length, { w with backlog := [] }, rotateIfLarge w.files p now d)

/-- Rotates the active file if it is old or large enough, and tells whether it did. -/
def rotateIfDue (w : LogWriter) (p : RotationPolicy) (now : Timestamp) (d : Disk) :
    Except Failure Bool × Disk :=
  match w.files.activeStartedAt d with
  | .error e => (.error (.logFiles e.message), d)
  | .ok none => (.ok false, d)
  | .ok (some startedAt) =>
    match w.files.activeSize d with
    | .error e => (.error (.logFiles e.message), d)
    | .ok size =>
      if p.isDue startedAt size now then
        match (w.files.rotate .released p.maxArchives now).perform d with
        | (.error e, d) => (.error (.logFiles ("rotation: " ++ e.message)), d)
        | (.ok (), d) => (.ok true, d)
      else (.ok false, d)

/-- Drops the backlog and removes the active file and its predecessor. -/
def clear (w : LogWriter) (d : Disk) : Except Failure Unit × LogWriter × Disk :=
  match w.files.removeCurrent.perform d with
  | (.error e, d) => (.error (.logFiles e.message), { w with backlog := [] }, d)
  | (.ok (), d) => (.ok (), { w with backlog := [] }, d)

end LogWriter
end DnsFilter
