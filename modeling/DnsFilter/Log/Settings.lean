import DnsFilter.Data.Fields
import DnsFilter.Dns.HostName
import DnsFilter.Time.Interval
/-!
# Settings of the query log
-/
namespace DnsFilter

structure LogSettings where
  enabled : Bool := true
  /-- Whether entries are written to files at all. -/
  fileEnabled : Bool := true
  dir : String := "./data"
  /-- How many entries are kept in memory, and how many cause a flush. -/
  memSize : Nat := 1000
  /-- Hosts that are never logged. -/
  ignored : List String := []
  interval : Duration := .ofDays 1
  /-- The size of the active file that causes a rotation; 0 is no limit. -/
  maxFileSize : Nat := 0
  maxArchives : Nat := 10
  deriving DecidableEq, Repr

namespace LogSettings

def validate (s : LogSettings) : Except Failure Unit :=
  if s.memSize = 0 then .error (.settings "query_log.mem_size must be at least 1")
  else Interval.validate s.interval

def ignoredHosts (s : LogSettings) : List String :=
  ((s.ignored.map HostName.normalize).filter (· ≠ "")).eraseDups

def toValue (s : LogSettings) : Value :=
  .table [("enabled", .bool s.enabled), ("file_enabled", .bool s.fileEnabled), ("dir", .text s.dir),
    ("mem_size", .ofNat s.memSize), ("ignored", .texts s.ignored),
    ("rotation_interval", .text (Interval.text s.interval)),
    ("max_file_size", .ofNat s.maxFileSize), ("max_archives", .ofNat s.maxArchives)]

def ofValue? (v : Value) : Option LogSettings := do
  let fields ← v.record?
    ["enabled", "file_enabled", "dir", "mem_size", "ignored", "rotation_interval", "max_file_size",
      "max_archives"]
  let default : LogSettings := {}
  let count := Value.nat? Text.limit64
  let enabled ← fields.optional ["enabled"] default.enabled Value.bool?
  let fileEnabled ← fields.optional ["file_enabled"] default.fileEnabled Value.bool?
  let dir ← fields.optional ["dir"] default.dir Value.text?
  let memSize ← fields.optional ["mem_size"] default.memSize count
  let ignored ← fields.optional ["ignored"] default.ignored (Value.list? Value.text?)
  let interval ← fields.optional ["rotation_interval"] default.interval
    (fun v => v.text?.bind (fun s => (Interval.parse s).toOption))
  let maxFileSize ← fields.optional ["max_file_size"] default.maxFileSize count
  let maxArchives ← fields.optional ["max_archives"] default.maxArchives count
  some { enabled, fileEnabled, dir, memSize, ignored, interval, maxFileSize, maxArchives }

end LogSettings
end DnsFilter
