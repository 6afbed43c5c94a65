import DnsFilter.Unicode.Folding
/-!
# Character sets

Sets of characters as ranges of code points, in ascending order and with gaps between them, and the
operations on them. Surrogates are no characters: no range starts or ends with one.
-/
namespace DnsFilter.Regex

open Unicode

structure CharSet where
  ranges : Ranges
  deriving Repr

namespace CharSet

def contains (a : CharSet) (n : Nat) : Bool := a.ranges.contains n

def isEmpty (a : CharSet) : Bool := a.ranges.isEmpty

def same (a b : CharSet) : Bool := a.ranges == b.ranges

/-- A range without surrogates at its ends. -/
def clip (r : Nat × Nat) : Nat × Nat :=
  (if 0xD800 ≤ r.1 && r.1 < 0xE000 then 0xE000 else r.1,
    if 0xD800 ≤ r.2 && r.2 < 0xE000 then 0xD7FF else r.2)

/-- Adds a range that starts no earlier than the ranges before it, the last one first. -/
def joinRange (done : List (Nat × Nat)) (r : Nat × Nat) : List (Nat × Nat) :=
  if r.2 < r.1 then done
  else
    match done with
    | [] => [r]
    | last :: rest =>
      if r.1 ≤ last.2 + 1 then (last.1, max last.2 r.2) :: rest else r :: last :: rest

def ofRanges (ranges : List (Nat × Nat)) : CharSet :=
  ⟨(((ranges.map clip).mergeSort (fun a b => a.1 ≤ b.1)).foldl joinRange []).reverse.toArray⟩

def empty : CharSet := ⟨#[]⟩
def any : CharSet := ⟨#[(0, lastCode)]⟩
def single (c : Char) : CharSet := ⟨#[(c.toNat, c.toNat)]⟩
def range (low high : Nat) : CharSet := ofRanges [(low, high)]
def between (a b : Char) : CharSet := range a.toNat b.toNat

def union (a b : CharSet) : CharSet := ofRanges (a.ranges.toList ++ b.ranges.toList)

def ofList (sets : List CharSet) : CharSet := ofRanges (sets.flatMap (·.ranges.toList))

def complement (a : CharSet) : CharSet :=
  let gaps := a.ranges.foldl (fun (acc : Nat × List (Nat × Nat)) r =>
    (r.2 + 1, if acc.1 < r.1 then (acc.1, r.1 - 1) :: acc.2 else acc.2)) (0, [])
  ofRanges (if gaps.1 ≤ lastCode then (gaps.1, lastCode) :: gaps.2 else gaps.2)

def inter (a b : CharSet) : CharSet := complement (union (complement a) (complement b))
def difference (a b : CharSet) : CharSet := inter a (complement b)
def symmetricDifference (a b : CharSet) : CharSet := union (difference a b) (difference b a)

def negatedIf (negated : Bool) (a : CharSet) : CharSet := if negated then complement a else a

def foldedChar (c : Char) : CharSet := ofRanges ((foldClass c.toNat).map (fun n => (n, n)))

/-- With every member all that have the same case folding. In a short range each member is looked
up, and in a long one all classes of several characters are. -/
def folded (a : CharSet) : CharSet :=
  let added := a.ranges.toList.flatMap (fun r =>
    if r.2 - r.1 < 256 then (List.range (r.2 - r.1 + 1)).flatMap (fun k => foldClass (r.1 + k))
    else (foldOrbits.filter (·.any (fun n => r.1 ≤ n && n ≤ r.2))).flatten)
  ofRanges (a.ranges.toList ++ added.map (fun n => (n, n)))

def foldedIf (fold : Bool) (a : CharSet) : CharSet := if fold then folded a else a

def onlyChar? (a : CharSet) : Option Char :=
  match a.ranges.toList with
  | [(low, high)] => if low = high then some (Char.ofNat low) else none
  | _ => none

def isAscii (a : CharSet) : Bool := a.ranges.all (·.2 < 0x80)

end CharSet
end DnsFilter.Regex
