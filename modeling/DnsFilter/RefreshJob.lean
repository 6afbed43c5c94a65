import DnsFilter.Failure
import DnsFilter.Time.Duration
/-!
# The refresh job

Refreshes at regular ticks, one at a time, until a cancellation is heard. Times are nanoseconds
since the start of the job.
-/
namespace DnsFilter

/-- How long one refresh takes, and how it ends. -/
structure RefreshRun where
  takes : Duration
  outcome : Except Failure Nat

structure RefreshJob where
  /-- 0 is never. -/
  interval : Duration := .ofDays 1
  /-- The job was given a token by which it can be cancelled. -/
  isCancellable : Bool := false
  deriving DecidableEq, Repr

/-- A job that waits for its next tick. -/
structure JobState where
  /-- Since when it waits. -/
  free : Nat
  /-- When the tick is due. -/
  due : Nat
  /-- How many refreshes it has started. -/
  count : Nat := 0
  deriving DecidableEq, Repr

namespace RefreshJob

/-- A tick that is taken later than this puts off all that follow. -/
def tolerance : Duration := .ofMillis 5

/-- When the tick after one is due. -/
def nextDue (interval due taken : Nat) : Nat :=
  if due + tolerance.nanos < taken then taken + interval else due + interval

/-- When the next refresh starts, if the cancellation is not heard before. If both are there at once
`prefersTick` decides. -/
def nextStart? (cancelled : Option Nat) (prefersTick : Bool) (s : JobState) : Option Nat :=
  let tick := max s.free s.due
  match cancelled with
  | none => some tick
  | some c =>
    let notice := max s.free c
    if tick < notice || (tick == notice && prefersTick) then some tick else none

def afterRun (interval : Nat) (run : RefreshRun) (start : Nat) (s : JobState) : JobState :=
  ⟨start + run.takes.nanos, nextDue interval s.due start, s.count + 1⟩

def startsFrom (interval : Nat) (runs : Nat → RefreshRun) (cancelled : Option Nat)
    (prefersTick : Nat → Bool) : Nat → JobState → List Nat
  | 0, _ => []
  | n + 1, s =>
    match nextStart? cancelled (prefersTick s.count) s with
    | none => []
    | some start =>
      start :: startsFrom interval runs cancelled prefersTick n
        (afterRun interval (runs s.count) start s)

/-- The starts of the first refreshes of a job, `n` of them at most. -/
def starts (j : RefreshJob) (runs : Nat → RefreshRun) (cancelled : Option Nat)
    (prefersTick : Nat → Bool) (n : Nat) : List Nat :=
  if j.interval.nanos = 0 then []
  else
    startsFrom j.interval.nanos runs (if j.isCancellable then cancelled else none) prefersTick n
      ⟨0, j.interval.nanos, 0⟩

def startsUntil (j : RefreshJob) (runs : Nat → RefreshRun) (cancelled : Option Nat)
    (prefersTick : Nat → Bool) (time : Nat) : List Nat :=
  (j.starts runs cancelled prefersTick (time / j.interval.nanos)).filter (· ≤ time)

end RefreshJob

/-- Starts the jobs of the program and gives them its token. -/
structure JobRunner where
  refresh : Option RefreshJob := none
  hasToken : Bool := false
  deriving DecidableEq, Repr

namespace JobRunner

def started (r : JobRunner) : Option RefreshJob :=
  r.refresh.map (fun j => { j with isCancellable := j.isCancellable || r.hasToken })

end JobRunner
end DnsFilter
