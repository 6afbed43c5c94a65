import DnsFilter.Text.Blank
import DnsFilter.Time.Timestamp
/-!
# Timestamps as text

Timestamps are written in UTC with the fewest of 0, 3, 6 or 9 digits of the second that are exact.
They are read with any offset. A space may stand for the `T`, white space around the parts and
missing leading zeros are accepted, and digits of the second beyond the ninth are dropped.
-/
namespace DnsFilter.Rfc3339

def fractionText (nanos : Nat) : String :=
  if nanos = 0 then ""
  else if nanos % 1000000 = 0 then "." ++ Text.padded 3 (nanos / 1000000)
  else if nanos % 1000 = 0 then "." ++ Text.padded 6 (nanos / 1000)
  else "." ++ Text.padded 9 nanos

def text (t : Timestamp) : String :=
  Timestamp.yearText t.date.year ++ "-" ++ Text.padded 2 t.date.month ++ "-" ++
    Text.padded 2 t.date.day ++ "T" ++ Text.padded 2 t.hour ++ ":" ++ Text.padded 2 t.minute ++
    ":" ++ Text.padded 2 t.second ++ fractionText t.subsecond ++ "Z"

/-- At least one digit and at most `width`, with the text that follows. -/
def readDigits (width : Nat) (s : List Char) : Option (Nat × List Char) :=
  let digits := (s.take width).takeWhile Text.isDigit
  if digits = [] then none else some (Text.decimalValue digits, s.drop digits.length)

def readNumber (width : Nat) (s : List Char) : Option (Nat × List Char) :=
  readDigits width (Text.trimStart s)

/-- A year: four digits at most, or any number of digits after a sign. -/
def readYear (s : List Char) : Option (Int × List Char) :=
  match Text.trimStart s with
  | '-' :: rest => (readDigits rest.length rest).map (fun r => (-(r.1 : Int), r.2))
  | '+' :: rest => (readDigits rest.length rest).map (fun r => ((r.1 : Int), r.2))
  | s => (readDigits 4 s).map (fun r => ((r.1 : Int), r.2))

def readMark (c : Char) (s : List Char) : Option (List Char) :=
  match Text.trimStart s with
  | d :: rest => if d = c then some rest else none
  | [] => none

def readDate (s : List Char) : Option (Date × List Char) := do
  let (year, s) ← readYear s
  let s ← readMark '-' s
  let (month, s) ← readNumber 2 s
  let s ← readMark '-' s
  let (day, s) ← readNumber 2 s
  some (⟨year, month, day⟩, s)

def readFraction (s : List Char) : Option (Nat × List Char) :=
  match s with
  | '.' :: rest => do
    let digits := (rest.take 9).takeWhile Text.isDigit
    let (n, after) ← readDigits 9 rest
    some (n * Nat.pow 10 (9 - digits.length), after.dropWhile Text.isDigit)
  | _ => some (0, s)

/-- A time of day in seconds and nanoseconds. The second 60 is the second 59 with one second more
in the fraction. -/
def readClock (s : List Char) : Option ((Nat × Nat) × List Char) := do
  let (hour, s) ← readNumber 2 s
  let s ← readMark ':' s
  let (minute, s) ← readNumber 2 s
  let s ← readMark ':' s
  let (second, s) ← readNumber 2 s
  let (nanos, s) ← readFraction s
  if 23 < hour || 59 < minute || 60 < second then none
  let leap := second / 60
  some ((hour * 3600 + minute * 60 + (second - leap), nanos + leap * Duration.nanosPerSecond), s)

def isSeparator (c : Char) : Bool := c == ':' || Text.isBlank c

def readTwoDigits (s : List Char) : Option (Nat × List Char) :=
  match s with
  | x :: y :: rest =>
    if Text.isDigit x && Text.isDigit y then some (Text.digitVal x * 10 + Text.digitVal y, rest)
    else none
  | _ => none

def isNegative? (sign : Char) : Option Bool :=
  if sign = '+' then some false
  else if sign = '-' || sign = Char.ofNat 0x2212 then some true
  else none

/-- An offset from UTC in seconds: `Z`, `UTC`, or a sign, two digits of hours and two of minutes. -/
def readOffset (s : List Char) : Option (Int × List Char) :=
  if Text.lower (s.take 3) = ['u', 't', 'c'] then some (0, s.drop 3)
  else
    match s with
    | 'Z' :: rest => some (0, rest)
    | 'z' :: rest => some (0, rest)
    | sign :: rest => do
      let negative ← isNegative? sign
      let (hours, rest) ← readTwoDigits rest
      let (minutes, rest) ← readTwoDigits (rest.dropWhile isSeparator)
      if 59 < minutes || 23 < hours then none
      let offset : Int := hours * 3600 + minutes * 60
      some (if negative then -offset else offset, rest)
    | [] => none

def readBetween (s : List Char) : Option (List Char) :=
  match s with
  | c :: rest => if c = 'T' || c = 't' || c = ' ' then some rest else none
  | [] => none

def parseChars? (s : List Char) : Option Timestamp := do
  let (date, s) ← readDate s
  let s ← readBetween s
  let (clock, s) ← readClock s
  let (offset, s) ← readOffset (Text.trimStart s)
  let t := Timestamp.ofDate date (clock.1 - offset) clock.2
  if date.isValid && t.isSupported && Text.trimStart s = [] then some t else none

def parse? (s : String) : Option Timestamp := parseChars? s.toList

end DnsFilter.Rfc3339
