import DnsFilter.Log.Entry
import DnsFilter.Text.Places
/-!
# Counters

What the query log reports of its entries and of what was written. All counters are words of 64 bits
that wrap.
-/
namespace DnsFilter

structure Metrics where
  entries : UInt64 := 0
  blocked : UInt64 := 0
  allowed : UInt64 := 0
  cached : UInt64 := 0
  /-- The sum of the processing times. -/
  elapsedMicros : UInt64 := 0
  flushes : UInt64 := 0
  /-- The sum of the lines written. -/
  flushedEntries : UInt64 := 0
  failedFlushes : UInt64 := 0
  types : List (RecordType × UInt64) := []
  upstreams : List (String × UInt64) := []
  deriving DecidableEq, Repr

namespace Metrics

def tally {α : Type} [DecidableEq α] (a : α) : List (α × UInt64) → List (α × UInt64)
  | [] => [(a, 1)]
  | (b, n) :: rest => if b = a then (b, n + 1) :: rest else (b, n) :: tally a rest

def addIf (p : Prop) [Decidable p] (n : UInt64) : UInt64 := if p then n + 1 else n

def addEntry (m : Metrics) (e : LogEntry) : Metrics :=
  { m with
    entries := m.entries + 1
    blocked := addIf (e.verdict.action? = some .block) m.blocked
    allowed := addIf (e.verdict.action? = some .allow) m.allowed
    cached := addIf e.cached m.cached
    elapsedMicros := m.elapsedMicros + .ofNat e.elapsedMicros
    types := tally e.type m.types
    upstreams := match e.upstream with
      | some u => tally u m.upstreams
      | none => m.upstreams }

def addFlush (m : Metrics) (lines : Nat) : Metrics :=
  { m with
    flushes := m.flushes + 1
    flushedEntries := m.flushedEntries + .ofNat lines }

def addFailedFlush (m : Metrics) : Metrics := { m with failedFlushes := m.failedFlushes + 1 }

def typeCount (m : Metrics) (t : RecordType) : UInt64 := (m.types.lookup t).getD 0

def upstreamCount (m : Metrics) (u : String) : UInt64 := (m.upstreams.lookup u).getD 0

def meanElapsed (m : Metrics) : Float :=
  if m.entries = 0 then 0 else Float.ofNat m.elapsedMicros.toNat / Float.ofNat m.entries.toNat

def meanElapsedText (m : Metrics) : String := Text.fixedText 6 m.meanElapsed

end Metrics
end DnsFilter
