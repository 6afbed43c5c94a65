import DnsFilter.Text.Affix
import DnsFilter.Text.Decimal
import DnsFilter.Time.Timestamp
/-!
# Names of log files

The active file, its predecessor, and archives, which have the time of their making in their name
and a counter where several were made in one millisecond.
-/
namespace DnsFilter

/-- How the program was built. Where a counter of 32 bits runs over, the released build goes on from
zero, and one with checks panics. -/
inductive Build
  | released
  | checked
  deriving DecidableEq, Repr

namespace LogName

def active : String := "querylog.json"
def predecessor : String := active ++ ".1"

def archiveStart : List Char := active.toList ++ ['.']
def archiveEnd : List Char := ".gz".toList

def isArchive (name : List Char) : Bool :=
  archiveStart.isPrefixOf name && archiveEnd.isSuffixOf name

def stem (name : List Char) : List Char :=
  ((Text.afterPrefix? archiveStart name).bind (Text.beforeSuffix? archiveEnd)).getD name

/-- The place of an archive in the order of archives: its time, then its counter. -/
structure Order where
  stamp : List Char
  counter : Nat
  deriving DecidableEq, Repr

/-- A counter is a number of 32 bits after the last hyphen. -/
def order (name : List Char) : Order :=
  let stem := stem name
  match Text.cutAtLast? '-' stem with
  | none => ⟨stem, 0⟩
  | some (stamp, digits) =>
    match Text.unsigned? Text.limit32 digits with
    | some n => ⟨stamp, n⟩
    | none => ⟨stem, 0⟩

def Order.atMost (a b : Order) : Bool :=
  a.stamp < b.stamp || (a.stamp == b.stamp && a.counter ≤ b.counter)

/-- The names of archives among `names`, the oldest first. -/
def archives (names : List String) : List String :=
  (names.filter (fun n => isArchive n.toList)).mergeSort
    (fun a b => (order a.toList).atMost (order b.toList))

/-- The name of an archive of a time. A counter of none stands for the first one. -/
def archive (stamp : List Char) (counter : Option Nat) : List Char :=
  match counter with
  | none => archiveStart ++ stamp ++ archiveEnd
  | some n => archiveStart ++ stamp ++ '-' :: Nat.toDigits 10 n ++ archiveEnd

/-- One of the counters that are taken by archives of a time has no next one in 32 bits. -/
def runsOver (stamp : List Char) (names : List String) : Bool :=
  names.any fun n =>
    (order n.toList).stamp == stamp && Text.limit32 ≤ (order n.toList).counter + 1

/-- The counter for one more archive of a time: one past the highest that is taken. Where a counter
runs over, zero is one past it. -/
def nextCounter (stamp : List Char) (names : List String) : Option Nat :=
  (((names.map (fun n => order n.toList)).filter (·.stamp == stamp)).map
    (fun o => (o.counter + 1) % Text.limit32)).max?

def nextArchive (now : Timestamp) (archives : List String) : String :=
  let stamp := now.stamp.toList
  String.ofList (archive stamp (nextCounter stamp archives))

end LogName
end DnsFilter
