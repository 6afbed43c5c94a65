/-!
# Packed tables of code points

A table is a text of numbers in base 32, written with 64 digits: a digit from 32 on says that the
number goes on. Sets are packed as gaps and lengths, partitions as lengths and values.
-/
namespace DnsFilter.Unicode

def packedDigit (c : Char) : Nat :=
  if c.isDigit then c.toNat - 48
  else if c.isUpper then c.toNat - 55
  else if c.isLower then c.toNat - 61
  else if c = '-' then 62
  else 63

structure Unpacking where
  done : List Nat
  value : Nat
  weight : Nat

def Unpacking.push (u : Unpacking) (c : Char) : Unpacking :=
  let d := packedDigit c
  let value := u.value + d % 32 * u.weight
  if d < 32 then { done := value :: u.done, value := 0, weight := 1 }
  else { u with value, weight := 32 * u.weight }

/-- The numbers of a packed text, least digit first. -/
def unpack (text : String) : List Nat :=
  (text.toList.foldl Unpacking.push { done := [], value := 0, weight := 1 }).done.reverse

def pairUp (ns : List Nat) : List (Nat × Nat) :=
  (ns.foldl (fun (acc : Option Nat × List (Nat × Nat)) n =>
    match acc.1 with
    | none => (some n, acc.2)
    | some m => (none, (m, n) :: acc.2)) (none, [])).2.reverse

def unpackLists (text : String) : List (List Nat) :=
  ((unpack text).foldl (fun (acc : Option Nat × List Nat × List (List Nat)) n =>
    match acc with
    | (none, _, done) => if n = 0 then (none, [], [] :: done) else (some n, [], done)
    | (some k, current, done) =>
      if k = 1 then (none, [], (n :: current).reverse :: done)
      else (some (k - 1), n :: current, done))
    (none, [], [])).2.2.reverse

/-- How many entries at the front have a first component of at most `n`, by halving. -/
def countUpTo (table : Array (Nat × Nat)) (n : Nat) : Nat → Nat → Nat → Nat
  | 0, low, _ => low
  | fuel + 1, low, high =>
    if low < high then
      let middle := (low + high) / 2
      if (table.getD middle (0, 0)).1 ≤ n then countUpTo table n fuel (middle + 1) high
      else countUpTo table n fuel low middle
    else low

/-- The last entry whose first component is at most `n`. -/
def lastUpTo? (table : Array (Nat × Nat)) (n : Nat) : Option (Nat × Nat) :=
  match countUpTo table n (table.size + 1).log2.succ 0 table.size with
  | 0 => none
  | k + 1 => table[k]?

abbrev Ranges := Array (Nat × Nat)

def Ranges.ofPacked (text : String) : Ranges :=
  ((pairUp (unpack text)).foldl (fun (acc : Nat × Array (Nat × Nat)) p =>
    let first := acc.1 + p.1
    (first + p.2 + 1, acc.2.push (first, first + p.2))) (0, #[])).2

def Ranges.contains (ranges : Ranges) (n : Nat) : Bool :=
  match lastUpTo? ranges n with
  | some (_, last) => n ≤ last
  | none => false

abbrev Runs := Array (Nat × Nat)

def Runs.ofPacked (text : String) : Runs :=
  ((pairUp (unpack text)).foldl (fun (acc : Nat × Array (Nat × Nat)) p =>
    (acc.1 + p.1, acc.2.push (acc.1, p.2))) (0, #[])).2

def Runs.valueAt (runs : Runs) (n : Nat) : Nat := ((lastUpTo? runs n).map (·.2)).getD 0

def lastCode : Nat := 0x10FFFF

def Runs.rangesWhere (runs : Runs) (test : Nat → Bool) : Ranges :=
  (runs.foldr (fun run (acc : Nat × List (Nat × Nat)) =>
    (run.1, if test run.2 then (run.1, acc.1 - 1) :: acc.2 else acc.2))
    (lastCode + 1, [])).2.toArray

end DnsFilter.Unicode
