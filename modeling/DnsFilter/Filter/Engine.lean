import DnsFilter.Digest.Sha256
import DnsFilter.Filter.Content
import DnsFilter.Filter.Index
import DnsFilter.Storage.OnDisk
import DnsFilter.Time.Timestamp
/-!
# The filter engine

The filters in service, and the refresh that fetches and compiles them one after the other. A
refresh moves from one wait point to the next. Between two of them anyone may ask for verdicts, ask
for another refresh, which is rejected, or close the engine.
-/
namespace DnsFilter

/-- What a refresh is asked to keep to. -/
structure RefreshTerms where
  cacheDir : String
  maxSize : Nat
  scratch : Bytes
  /-- The deadline is over from the start. -/
  isLate : Bool := false
  /-- A content is compiled again even if its rules are in service. -/
  isForced : Bool := false

/-- What a refresh waits for. All but the first are for the filter in turn. -/
inductive Stage
  /-- The cache directory is made. -/
  | preparing
  | fetching
  | caching (content : Bytes)
  | renaming (content : Bytes)
  /-- The fetch failed and the cached copy is looked for. -/
  | recalling
  | compiling (content : Bytes) (checksum : String) (isFresh : Bool) (time : Timestamp)
  deriving DecidableEq, Repr

/-- A refresh between two of its wait points. -/
structure Refresh where
  terms : RefreshTerms
  /-- The filters that are not finished, by position, as they were at the start. -/
  pending : List (Nat × Filter) := []
  stage : Stage := .preparing
  failed : List String := []
  /-- The deadline is over. -/
  isLate : Bool

namespace Refresh

def pass (r : Refresh) (f : Filter) (succeeded : Bool) : Refresh :=
  { r with
    pending := r.pending.tail
    stage := .fetching
    failed := if succeeded then r.failed else r.failed ++ [f.name] }

def result (r : Refresh) : Except Failure Unit :=
  if r.failed = [] then .ok () else .error (.refreshFailed r.failed)

def cachePath (r : Refresh) (f : Filter) : String := Disk.join r.terms.cacheDir f.cacheName

/-- Where the cached copy is written before it takes the place of the last one. -/
def temporaryPath (r : Refresh) (f : Filter) : String := r.cachePath f ++ ".tmp"

end Refresh

/-- What surrounds a refresh: the servers and the clock. -/
structure Surroundings where
  network : String → Reply
  now : Timestamp

structure Engine where
  name : String
  index : FilterIndex
  isClosed : Bool := false
  refresh : Option Refresh := none

/-- The engine and the disk after a step, and the result of the refresh that ended in it. -/
structure Turn where
  engine : Engine
  disk : Disk
  result : Option (Except Failure Unit) := none

namespace Engine

def ofFilters (name : String) (filters : List Filter) : Engine :=
  ⟨name, .ofFilters filters, false, none⟩

def filters (e : Engine) : List Filter := e.index.filters

def check (e : Engine) (r : FilterRequest) : Verdict := e.index.check r

/-- How many enabled filters have been compiled. -/
def liveCount (e : Engine) : Nat := e.filters.countP (fun f => f.enabled && f.isCompiled)

/-- Drops all rules for good. -/
def close (e : Engine) : Engine :=
  if e.isClosed then e else { e with index := .ofFilters e.filters, isClosed := true }

/-- Changes one filter in the published index, unless the engine is closed. -/
def publish (e : Engine) (position : Nat) (f : InService → InService) : Engine :=
  if e.isClosed then e else { e with index := e.index.modify position f }

/-- Holds a refresh until its next step, or ends it if it has no filter left. -/
def hold (e : Engine) (r : Refresh) (d : Disk) : Turn :=
  if r.pending = [] then ⟨{ e with refresh := none }, d, some r.result⟩
  else ⟨{ e with refresh := some r }, d, none⟩

def enabled (e : Engine) : List (Nat × Filter) :=
  (e.filters.zipIdx.filter (·.1.enabled)).map (fun p => (p.2, p.1))

def startRefresh (terms : RefreshTerms) (e : Engine) (d : Disk) : Turn :=
  if e.refresh.isSome then ⟨e, d, some (.error .refreshInProgress)⟩
  else if e.isClosed then ⟨e, d, some (.error .engineClosed)⟩
  else ⟨{ e with refresh := some { terms, isLate := terms.isLate } }, d, none⟩

def prepare (e : Engine) (r : Refresh) (d : Disk) : Turn :=
  match (OnDisk.makeDirectories r.terms.cacheDir).perform d with
  | (.error reason, d) =>
    ⟨{ e with refresh := none }, d,
      some (.error (.files (r.terms.cacheDir ++ ": " ++ reason.message)))⟩
  | (.ok (), d) => e.hold { r with pending := e.enabled, stage := .fetching } d

/-- What the source of a filter gives. -/
def fetch (s : Surroundings) (r : Refresh) (f : Filter) (d : Disk) : Attempt :=
  match f.locator with
  | .file path =>
    if r.isLate then .error (.filterTimeout f.name)
    else readFile f.name r.terms.maxSize r.terms.scratch d path
  | .http url =>
    if r.isLate then (s.network url).lateContent f.name
    else (s.network url).content f.name url r.terms.maxSize

def renewed (time : Timestamp) (x : InService) : InService :=
  { x with filter := { x.filter with lastUpdated := some time } }

def compiled (content : Bytes) (checksum : String) (isFresh : Bool) (time : Timestamp)
    (x : InService) : InService :=
  let rules := RuleSet.ofText (Utf8.decodeLossy content)
  { filter :=
      { x.filter with
        sizeBytes := content.length
        rulesCount := rules.count
        checksum := some checksum
        lastUpdated := if isFresh then some time else x.filter.lastUpdated }
    rules := some rules }

/-- Goes on with a content that was fetched, or recalled from the cache. The content of the rules in
service is not compiled again, unless that is asked for. -/
def settle (s : Surroundings) (e : Engine) (r : Refresh) (position : Nat) (f : Filter)
    (content : Bytes) (isFresh : Bool) (d : Disk) : Turn :=
  let checksum := Sha256.hexDigest content
  if !r.terms.isForced && (e.index.rulesAt? position).isSome && f.checksum == some checksum then
    (if isFresh then e.publish position (renewed s.now) else e).hold (r.pass f isFresh) d
  else e.hold { r with stage := .compiling content checksum isFresh s.now } d

/-- Goes on after a fetch that failed. Only what comes from a server has a cached copy to recall,
and not after the deadline. -/
def fetchFailed (e : Engine) (r : Refresh) (f : Filter) (failure : Failure) (d : Disk) : Turn :=
  match failure with
  | .filterTimeout _ => e.hold { r.pass f false with isLate := true } d
  | _ =>
    if f.locator.isRemote then e.hold { r with stage := .recalling } d
    else e.hold (r.pass f false) d

def work (s : Surroundings) (e : Engine) (r : Refresh) (position : Nat) (f : Filter) (d : Disk) :
    Turn :=
  match r.stage with
  | .preparing => e.prepare r d
  | .fetching =>
    match fetch s r f d with
    | .ok content => e.hold { r with stage := .caching content } d
    | .error failure => e.fetchFailed r f failure d
  | .caching content =>
    match d.write (r.temporaryPath f) content with
    | .ok d => e.hold { r with stage := .renaming content } d
    | .error _ => settle s e r position f content true d
  | .renaming content =>
    settle s e r position f content true
      ((d.rename (r.temporaryPath f) (r.cachePath f)).toOption.getD d)
  | .recalling =>
    match readFile f.name r.terms.maxSize r.terms.scratch d (r.cachePath f) with
    | .ok content => settle s e r position f content false d
    | .error _ => e.hold (r.pass f false) d
  | .compiling content checksum isFresh time =>
    (e.publish position (compiled content checksum isFresh time)).hold (r.pass f isFresh) d

/-- Goes on to the next wait point of a refresh. -/
def advance (s : Surroundings) (e : Engine) (d : Disk) : Turn :=
  match e.refresh with
  | none => ⟨e, d, none⟩
  | some r =>
    match r.pending with
    | [] => e.prepare r d
    | (position, f) :: _ => work s e r position f d

/-- Goes on with a refresh for so many steps or until it ends. -/
def advanceMany (s : Surroundings) : Nat → Engine → Disk → Turn
  | 0, e, d => ⟨e, d, none⟩
  | n + 1, e, d =>
    let turn := e.advance s d
    if turn.result.isSome then turn else advanceMany s n turn.engine turn.disk

/-- The wait points of a refresh at most: one for the cache directory, four for each filter. -/
def stepLimit (e : Engine) : Nat := 1 + 4 * e.enabled.length

def finish (s : Surroundings) (e : Engine) (d : Disk) : Turn := advanceMany s e.stepLimit e d

def refreshAll (terms : RefreshTerms) (s : Surroundings) (e : Engine) (d : Disk) : Turn :=
  let turn := e.startRefresh terms d
  if turn.result.isSome then turn else turn.engine.finish s turn.disk

end Engine
end DnsFilter
