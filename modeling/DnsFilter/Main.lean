import Std.Time.DateTime.Timestamp
import DnsFilter.CommandLine.Run
import DnsFilter.Storage.Gzip
import DnsFilter.Web
/-!
# Command line

Brings the files that an invocation needs into memory, runs it, and writes back what it changed. A
service that goes on answers the request targets that come in on standard input, a line each. There
is no way to a server from here: lists on servers are taken from their cached copies.
-/
namespace DnsFilter.Main

def now : IO Timestamp := do
  let t ← Std.Time.Timestamp.now
  let nanos := t.toNanosecondsSinceUnixEpoch.toInt
  return ⟨nanos / Duration.nanosPerSecond, (nanos % Duration.nanosPerSecond).toNat⟩

def surroundings : IO Surroundings := do
  return ⟨fun _ => .unreachable "no route to the server", ← now⟩

def bring (d : Disk) (path : String) : IO Disk := do
  try
    let bytes ← IO.FS.readBinFile path
    let work : OnDisk Unit := do
      OnDisk.makeDirectories (Disk.parent path)
      OnDisk.change (·.write path bytes.toList)
    return (work.perform d).2
  catch _ => return d

def needed (s : Settings) : List String :=
  let lists := (s.filtering.build.toOption.getD []).flatMap fun f =>
    let cached := Disk.join s.filtering.cacheDir f.cacheName
    if f.locator.isRemote then [cached] else [f.locator.text, cached]
  let files : LogFiles := ⟨s.queryLog.dir⟩
  s.filtering.cacheDir :: files.active :: files.predecessor :: lists

/-- Writes back the directories and files that are not as they were. -/
def keep (old new : Disk) : IO Unit := do
  for (p, node) in new.nodes do
    if old.nodes.lookup p != some node then
      match node with
      | .directory => IO.FS.createDirAll (Disk.textOf p)
      | .plain content => IO.FS.writeBinFile (Disk.textOf p) ⟨content.toArray⟩
      | .packed content => IO.FS.writeBinFile (Disk.textOf p) ⟨(Gzip.encode content).toArray⟩
  for (p, node) in old.nodes do
    if node != .directory && (new.nodes.lookup p).isNone then
      IO.FS.removeFile (Disk.textOf p)

def bringAll (args : List String) : IO Disk := do
  match Arguments.parse args with
  | .error _ => return {}
  | .ok i =>
    let d ← (Settings.localPath :: Settings.systemPath :: i.config.toList).foldlM bring {}
    match Program.loadSettings d i.config i.overrides with
    | .error _ => return d
    | .ok s => (needed s).foldlM bring d

def respond (p : Program) (target : String) : IO Unit := do
  let r := Web.answer p.log target
  IO.println (Text.decimalText r.status)
  if let some body := r.body? then IO.println (Json.compact body)

/-- Answers request targets until the input ends, and refreshes the filters whenever the interval of
the refresh job has passed. -/
partial def serve (p : Program) (d : Disk) (refreshed : Nat) : IO (Program × Disk) := do
  let line ← (← IO.getStdin).getLine
  if line.isEmpty then return (p, d)
  respond p line.trimAscii.toString
  let time ← IO.monoNanosNow
  match p.jobs.started with
  | some job =>
    if refreshed + job.interval.nanos ≤ time then
      let (_, filters, new) := p.filters.refresh (← surroundings) d
      keep d new
      serve { p with filters } new time
    else serve p d refreshed
  | none => serve p d refreshed

def run (args : List String) : IO UInt32 := do
  let d ← bringAll args
  let (outcome, new) := runProgram args (← surroundings) d
  keep d new
  match outcome with
  | .done output => IO.print output
  | .failed e => IO.eprintln ("Error: " ++ e.message)
  | .refused => IO.eprintln (Help.text .program)
  | .serving p _ =>
    let (p, d) ← serve p new (← IO.monoNanosNow)
    keep d (p.log.close (← now) d).2
  return UInt32.ofNat outcome.exitCode

end DnsFilter.Main

def main (args : List String) : IO UInt32 := DnsFilter.Main.run args
