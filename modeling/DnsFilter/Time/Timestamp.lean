import DnsFilter.Text.Decimal
import DnsFilter.Time.Date
import DnsFilter.Time.Duration
/-!
# Timestamps

Points in time in UTC with nanoseconds. During a leap second the fraction goes on from one second
to two.
-/
namespace DnsFilter

structure Timestamp where
  /-- Seconds since the start of 1970. -/
  seconds : Int
  fraction : Nat
  deriving DecidableEq, Repr, Inhabited

namespace Timestamp

/-- The days from the first of January of year 1 to the first of January 1970. -/
def epochDays : Int := 719162

def date (t : Timestamp) : Date := Date.ofDays (t.seconds / 86400 + epochDays)
def secondOfDay (t : Timestamp) : Nat := (t.seconds % 86400).toNat
def hour (t : Timestamp) : Nat := t.secondOfDay / 3600
def minute (t : Timestamp) : Nat := t.secondOfDay / 60 % 60

/-- The second as it is written, 60 in a leap second. -/
def second (t : Timestamp) : Nat := t.secondOfDay % 60 + t.fraction / Duration.nanosPerSecond

def subsecond (t : Timestamp) : Nat := t.fraction % Duration.nanosPerSecond

def ofDate (d : Date) (secondOfDay : Int) (fraction : Nat) : Timestamp :=
  ⟨(d.toDays - epochDays) * 86400 + secondOfDay, fraction⟩

def isSupported (t : Timestamp) : Bool :=
  Date.minYear ≤ t.date.year && t.date.year ≤ Date.maxYear

/-- The nanoseconds from `start` to `t`. A leap second in the earlier time of day is counted as one
more second; one in the later time of day already stands in its fraction. -/
def nanosSince (t start : Timestamp) : Int :=
  let days := t.seconds / 86400 - start.seconds / 86400
  let clock : Int := (t.secondOfDay : Int) - start.secondOfDay
  let leap : Int :=
    if start.secondOfDay < t.secondOfDay && Duration.nanosPerSecond ≤ start.fraction then 1
    else if t.secondOfDay < start.secondOfDay && Duration.nanosPerSecond ≤ t.fraction then -1
    else 0
  (days * 86400 + clock + leap) * Duration.nanosPerSecond + ((t.fraction : Int) - start.fraction)

/-- A year from 0 to 9999 in four digits; any other with a sign and at least four digits. -/
def yearText (year : Int) : String :=
  if 0 ≤ year ∧ year ≤ 9999 then Text.padded 4 year.toNat
  else (if year < 0 then "-" else "+") ++ Text.padded 4 year.natAbs

/-- Date and time without separators, to the millisecond: `20240501T120000.000Z`. -/
def stamp (t : Timestamp) : String :=
  yearText t.date.year ++ Text.padded 2 t.date.month ++ Text.padded 2 t.date.day ++ "T" ++
    Text.padded 2 t.hour ++ Text.padded 2 t.minute ++ Text.padded 2 t.second ++ "." ++
    Text.padded 3 (t.subsecond / 1000000) ++ "Z"

end Timestamp
end DnsFilter
