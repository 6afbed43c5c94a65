import DnsFilter.Failure
import DnsFilter.Text.Blank
import DnsFilter.Time.Duration
/-!
# Intervals in settings

A number with a unit, seconds, minutes, hours or days: `6h`, `7d`. The intervals at which log files
are rotated are limited to a few.
-/
namespace DnsFilter

inductive IntervalError
  | missingUnit (text : String)
  | badNumber (text : String)
  | unknownUnit (unit text : String)
  | tooLarge (text : String)
  deriving DecidableEq, Repr

def IntervalError.message : IntervalError → String
  | missingUnit text => "missing unit in interval " ++ Text.quoted text
  | badNumber text => "invalid number in interval " ++ Text.quoted text
  | unknownUnit unit text =>
    "unknown unit " ++ Text.quoted unit ++ " in interval " ++ Text.quoted text
  | tooLarge text => "interval " ++ Text.quoted text ++ " is too large"

namespace Interval

def unitSeconds? (unit : List Char) : Option Nat :=
  match unit with
  | ['s'] => some 1
  | ['m'] => some 60
  | ['h'] => some 3600
  | ['d'] => some 86400
  | _ => none

def parseSeconds (text : List Char) : Except IntervalError Nat :=
  let s := Text.trim text
  let digits := s.takeWhile Text.isDigit
  let unit := s.dropWhile Text.isDigit
  let whole := String.ofList s
  if unit = [] then .error (.missingUnit whole)
  else if digits = [] || Text.limit64 ≤ Text.decimalValue digits then .error (.badNumber whole)
  else
    match unitSeconds? unit with
    | none => .error (.unknownUnit (String.ofList unit) whole)
    | some n =>
      let seconds := Text.decimalValue digits * n
      if seconds < Text.limit64 then .ok seconds else .error (.tooLarge whole)

def parse (text : String) : Except IntervalError Duration :=
  (parseSeconds text.toList).map .ofSeconds

/-- Whole seconds in the largest unit that divides them. One day is written in hours. -/
def secondsText (seconds : Nat) : List Char :=
  if seconds = 0 then "0s".toList
  else if seconds % 86400 = 0 ∧ 1 < seconds / 86400 then
    Nat.toDigits 10 (seconds / 86400) ++ ['d']
  else if seconds % 3600 = 0 then Nat.toDigits 10 (seconds / 3600) ++ ['h']
  else if seconds % 60 = 0 then Nat.toDigits 10 (seconds / 60) ++ ['m']
  else Nat.toDigits 10 seconds ++ ['s']

def text (d : Duration) : String := String.ofList (secondsText d.seconds)

/-- The intervals that are offered for rotation. -/
def allowed : List Duration :=
  [.ofHours 6, .ofDays 1, .ofDays 7, .ofDays 30, .ofDays 90]

def isAllowed (d : Duration) : Bool := allowed.contains d

/-- An hour at least and a year at most. -/
def checkBounds (d : Duration) : Except Failure Unit :=
  if d < .ofHours 1 then .error (.invalidInterval "less than an hour")
  else if .ofDays 365 < d then .error (.invalidInterval "more than a year")
  else .ok ()

def validate (d : Duration) : Except Failure Unit := do
  checkBounds d
  if isAllowed d then return ()
  else throw (.invalidInterval (text d ++ " is not one of 6h, 24h, 7d, 30d, 90d"))

end Interval
end DnsFilter
