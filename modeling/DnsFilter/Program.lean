import DnsFilter.Filter.Service
import DnsFilter.Log.QueryLog
import DnsFilter.Net.SocketAddress
import DnsFilter.RefreshJob
import DnsFilter.Settings.File
import DnsFilter.Settings.LogDirective
/-!
# The program

The filters, the query log and the jobs as the settings put them together, a check of one host, and
the start of the service.
-/
namespace DnsFilter

inductive ProgramError
  | settings (e : SettingsError)
  | logging (e : LogDirectiveError)
  | failure (f : Failure)
  | unknownType (text : String)
  | badAddress
  deriving DecidableEq, Repr

def ProgramError.message : ProgramError → String
  | settings e => e.message
  | logging e => e.message
  | failure f => f.message
  | unknownType text => RecordType.unknownMessage text
  | badAddress => "invalid socket address syntax"

structure Program where
  filters : FilterService
  log : QueryLog
  jobs : JobRunner := {}

namespace Program

def ofSettings (s : Settings) (hasScheduler : Bool) : Except Failure Program := do
  let filters ← FilterService.ofSettings s.filtering
  let log ← QueryLog.ofSettings s.queryLog (ClientFinder.ofClients s.clients).lookup hasScheduler
  return { filters, log }

def refreshJob? (s : FilteringSettings) : Option RefreshJob :=
  if s.refreshInterval = 0 then none else some { interval := .ofSeconds s.refreshInterval }

def loadSettings (d : Disk) (path : Option String) (o : Overrides) : Except ProgramError Settings :=
  match Settings.load d path o with
  | .error e => .error (.settings e)
  | .ok s =>
    match s.validate with
    | .error e => .error (.settings e)
    | .ok () => .ok s

def logDirectives (s : Settings) : Except ProgramError (List LogDirective) :=
  (LogDirective.parseAll (LoggingSettings.directive s.logging.level none)).mapError .logging

/-- Refreshes the filters once and checks a host. Filters that cannot be refreshed are no error. -/
def check (s : Settings) (host type : String) (around : Surroundings) (d : Disk) :
    Except ProgramError Verdict × Disk :=
  match RecordType.parse? type with
  | none => (.error (.unknownType type), d)
  | some type =>
    match FilterService.ofSettings s.filtering with
    | .error f => (.error (.failure f), d)
    | .ok filters =>
      match filters.refresh around d with
      | (.ok _, filters, d) => (.ok (filters.check ⟨host, type, false⟩), d)
      | (.error (.refreshFailed _), filters, d) => (.ok (filters.check ⟨host, type, false⟩), d)
      | (.error f, _, d) => (.error (.failure f), d)

def serve (s : Settings) (around : Surroundings) (d : Disk) :
    Except ProgramError (Program × Option SocketAddress) × Disk :=
  match ofSettings s true with
  | .error f => (.error (.failure f), d)
  | .ok p =>
    let (_, filters, d) := p.filters.refresh around d
    let log := p.log.start
    let d := log.look around.now d
    let p := { p with filters, log, jobs := ⟨refreshJob? s.filtering, true⟩ }
    if s.web.enabled then
      match SocketAddress.parse? s.web.bindAddress with
      | some address => (.ok (p, some address), d)
      | none => (.error .badAddress, d)
    else (.ok (p, none), d)

end Program
end DnsFilter
