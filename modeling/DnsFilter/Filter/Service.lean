import DnsFilter.Filter.Engine
import DnsFilter.Settings.Basic
/-!
# The filter service

An engine with the cache directory and the limits that the settings give it.
-/
namespace DnsFilter

structure FilterService where
  engine : Engine
  cacheDir : String
  maxListSize : Nat
  /-- The time for one refresh, in seconds. -/
  fetchTimeout : Nat

namespace FilterService

def engineName : String := "filters"

/-- The scratch buffer of a service has room for 64 KiB. -/
def scratch : Bytes := List.replicate 65536 0

def ofSettings (s : FilteringSettings) : Except Failure FilterService :=
  match s.build with
  | .error reason => .error (.settings reason)
  | .ok filters =>
    .ok ⟨.ofFilters engineName filters, s.cacheDir, s.maxListSize, s.fetchTimeout⟩

def terms (x : FilterService) : RefreshTerms :=
  { cacheDir := x.cacheDir
    maxSize := x.maxListSize
    scratch
    isLate := x.fetchTimeout == 0 }

def check (x : FilterService) (r : FilterRequest) : Verdict := x.engine.check r

def close (x : FilterService) : FilterService := { x with engine := x.engine.close }

/-- What is reported of a refresh when it ends: how many filters are live, if none failed. -/
def report (e : Engine) (result : Except Failure Unit) : Except Failure Nat :=
  result.map (fun _ => e.liveCount)

/-- Refreshes all filters without interruption. -/
def refresh (x : FilterService) (s : Surroundings) (d : Disk) :
    Except Failure Nat × FilterService × Disk :=
  let turn := x.engine.refreshAll x.terms s d
  (report turn.engine (turn.result.getD (.ok ())), { x with engine := turn.engine }, turn.disk)

end FilterService
end DnsFilter
