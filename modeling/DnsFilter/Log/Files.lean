import DnsFilter.Log.Archive
import DnsFilter.Log.Entry
import DnsFilter.Log.Settings
import DnsFilter.Storage.OnDisk
/-!
# Log files

The active file, its predecessor and the compressed archives in one directory, and rotation: the
predecessor is archived, the active file takes its place, and the oldest archives are removed.
-/
namespace DnsFilter

/-- When the active file is retired, and how many archives are kept. -/
structure RotationPolicy where
  interval : Duration
  /-- 0 is no limit. -/
  maxFileSize : Nat
  maxArchives : Nat
  deriving DecidableEq, Repr

namespace RotationPolicy

def ofSettings (s : LogSettings) : RotationPolicy := ⟨s.interval, s.maxFileSize, s.maxArchives⟩

def isTooLarge (p : RotationPolicy) (size : Nat) : Bool := 0 < p.maxFileSize && p.maxFileSize ≤ size

def isDue (p : RotationPolicy) (startedAt : Timestamp) (size : Nat) (now : Timestamp) : Bool :=
  p.isTooLarge size || (p.interval.nanos : Int) ≤ now.nanosSince startedAt

end RotationPolicy

structure LogFiles where
  dir : String
  deriving DecidableEq, Repr

namespace LogFiles

def pathOf (f : LogFiles) (name : String) : String := Disk.join f.dir name
def active (f : LogFiles) : String := f.pathOf LogName.active
def predecessor (f : LogFiles) : String := f.pathOf LogName.predecessor

/-- The names of the archives, the oldest first. -/
def archives (f : LogFiles) (d : Disk) : Except FileError (List String) :=
  (d.list f.dir).map LogName.archives

def firstLine (content : Bytes) : Bytes := content.takeWhile (· ≠ 10)

/-- The time of the first record of the active file. A file without a record there has none. -/
def activeStartedAt (f : LogFiles) (d : Disk) : Except FileError (Option Timestamp) :=
  match d.read f.active with
  | .error .missing => .ok none
  | .error e => .error e
  | .ok content =>
    match Utf8.decode? (firstLine content) with
    | none => .error .badText
    | some line =>
      if Text.trim line = [] then .ok none
      else .ok ((LogEntry.parse? (String.ofList (Text.trimEnd line))).map (·.time))

/-- The size that a directory is said to have. -/
def directorySize : Nat := 4096

def activeSize (f : LogFiles) (d : Disk) : Except FileError Nat :=
  match d.find f.active with
  | .error .missing => .ok 0
  | .error e => .error e
  | .ok (_, .directory) => .ok directorySize
  | .ok (_, .plain content) => .ok content.length
  | .ok (_, .packed content) => .ok content.length

/-- Removes the oldest archives beyond `maxArchives`. -/
def prune (f : LogFiles) (maxArchives : Nat) : OnDisk Unit := do
  let names ← OnDisk.look f.archives
  for name in names.take (names.length - maxArchives) do
    OnDisk.change (·.removeFile (f.pathOf name))

/-- The path for an archive made now, beside the archives that are there. -/
def newPath (f : LogFiles) (b : Build) (now : Timestamp) (names : List String) :
    Except FileError String :=
  if b = .checked ∧ LogName.runsOver now.stamp.toList names = true then .error .overflow
  else .ok (f.pathOf (LogName.nextArchive now names))

def archiveFor (f : LogFiles) (b : Build) (now : Timestamp) (d : Disk) : Except FileError String := do
  f.newPath b now (← f.archives d)

def rotate (f : LogFiles) (b : Build) (maxArchives : Nat) (now : Timestamp) : OnDisk Unit := do
  if ← OnDisk.has f.active then
    if ← OnDisk.has f.predecessor then
      OnDisk.pack f.predecessor (← OnDisk.look (f.archiveFor b now))
      OnDisk.change (·.removeFile f.predecessor)
    OnDisk.change (·.rename f.active f.predecessor)
    f.prune maxArchives

def removeIfThere (path : String) : OnDisk Unit :=
  OnDisk.change (fun d =>
    match d.removeFile path with
    | .error .missing => .ok d
    | result => result)

def removeCurrent (f : LogFiles) : OnDisk Unit := do
  removeIfThere f.predecessor
  removeIfThere f.active

end LogFiles
end DnsFilter
