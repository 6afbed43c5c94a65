import DnsFilter.Regex.CharSet
/-!
# Normal forms of plain patterns

Patterns without back references and look-around, in a form that is simplified as it is put
together: sequences and alternatives are flat, neighbouring characters form one text, alternatives
of single characters form one set, and a start that all alternatives share stands in front of them.
-/
namespace DnsFilter.Regex

inductive Edge
  | textStart
  | textEnd
  | lineStart
  | lineEnd
  deriving DecidableEq, Repr

inductive Form
  | empty
  | literal (text : List Char)
  | charSet (set : CharSet)
  | edge (place : Edge)
  | repeated (low : Nat) (high : Option Nat) (greedy : Bool) (body : Form)
  | capture (number : Nat) (body : Form)
  | sequence (parts : List Form)
  | choice (parts : List Form)
  deriving Repr

namespace Form

def never : Form := charSet .empty

mutual

def same : Form → Form → Bool
  | empty, empty => true
  | literal s, literal t => s == t
  | charSet s, charSet t => s.same t
  | edge p, edge q => p == q
  | repeated l h g a, repeated m i k b => l == m && h == i && g == k && a.same b
  | capture m a, capture n b => m == n && a.same b
  | sequence as, sequence bs => sameAll as bs
  | choice as, choice bs => sameAll as bs
  | _, _ => false

def sameAll : List Form → List Form → Bool
  | [], [] => true
  | a :: as, b :: bs => a.same b && sameAll as bs
  | _, _ => false

end

/-! ## Measures -/

mutual

/-- Whether all texts that match are empty. -/
def isZeroWidth : Form → Bool
  | empty => true
  | literal text => text.isEmpty
  | charSet _ => false
  | edge _ => true
  | repeated _ _ _ body => body.isZeroWidth
  | capture _ body => body.isZeroWidth
  | sequence parts => areZeroWidth parts
  | choice parts => areZeroWidth parts

def areZeroWidth : List Form → Bool
  | [] => true
  | a :: as => a.isZeroWidth && areZeroWidth as

end

mutual

/-- A number of characters that every match has. There is none where nothing can match. -/
def least? : Form → Option Nat
  | empty => some 0
  | literal text => some text.length
  | charSet set => if set.isEmpty then none else some 1
  | edge _ => some 0
  | repeated low _ _ body => body.least?.map (· * low)
  | capture _ body => body.least?
  | sequence parts => leastOfAll? 0 parts
  | choice parts => leastOfAny? none parts

def leastOfAll? (sum : Nat) : List Form → Option Nat
  | [] => some sum
  | a :: as =>
    match a.least? with
    | some n => leastOfAll? (sum + n) as
    | none => none

def leastOfAny? (least : Option Nat) : List Form → Option Nat
  | [] => least
  | a :: as =>
    match a.least? with
    | some n => leastOfAny? (some ((least.map (min n)).getD n)) as
    | none => none

end

def isNonempty (f : Form) : Bool := f.least?.any (0 < ·)

mutual

/-- Whether the form shows that each match stands at an edge: its first part does, or its last part
with `back`. -/
def isBoundTo (place : Edge) (back : Bool) : Form → Bool
  | empty => false
  | literal _ => false
  | charSet _ => false
  | edge p => p == place
  | repeated low _ _ body => 0 < low && body.isBoundTo place back
  | capture _ body => body.isBoundTo place back
  | sequence parts =>
    if back then (isBoundAtEnd place back false parts) else isBoundAtStart place back parts
  | choice parts => !parts.isEmpty && areBoundTo place back parts

def isBoundAtStart (place : Edge) (back : Bool) : List Form → Bool
  | [] => false
  | a :: as => a.isBoundTo place back || (a.isZeroWidth && isBoundAtStart place back as)

/-- Whether one of the parts is bound and no part after it takes characters. -/
def isBoundAtEnd (place : Edge) (back : Bool) (bound : Bool) : List Form → Bool
  | [] => bound
  | a :: as =>
    isBoundAtEnd place back (a.isBoundTo place back || (bound && a.isZeroWidth)) as

def areBoundTo (place : Edge) (back : Bool) : List Form → Bool
  | [] => true
  | a :: as => a.isBoundTo place back && areBoundTo place back as

end

/-! ## Putting forms together -/

def ofSet (set : CharSet) : Form :=
  match set.onlyChar? with
  | some c => literal [c]
  | none => charSet set

/-- The parts of a sequence so far, and the text that ends it, both the last one first. -/
structure Pieces where
  done : List Form := []
  text : List Char := []

namespace Pieces

def closed (p : Pieces) : List Form :=
  if p.text.isEmpty then p.done else literal p.text.reverse :: p.done

def add (p : Pieces) : Form → Pieces
  | empty => p
  | literal text => { p with text := text.reverseAux p.text }
  | f => ⟨f :: p.closed, []⟩

def addFlat (p : Pieces) : Form → Pieces
  | sequence parts => parts.foldl add p
  | f => p.add f

end Pieces

def concat (parts : List Form) : Form :=
  match (parts.foldl Pieces.addFlat {}).closed with
  | [] => empty
  | [f] => f
  | fs => sequence fs.reverse

def set? : Form → Option CharSet
  | literal [c] => some (.single c)
  | charSet set => some set
  | _ => none

def parts? : Form → Option (List Form)
  | sequence parts => some parts
  | _ => none

def sharedLength : List Form → List Form → Nat
  | a :: as, b :: bs => if a.same b then sharedLength as bs + 1 else 0
  | _, _ => 0

def sharedByAll (first : List Form) (others : List (List Form)) : Nat :=
  others.foldl (fun n parts => if n = 0 then 0 else min n (sharedLength (first.take n) parts))
    first.length

def flatChoice (parts : List Form) : List Form :=
  (parts.foldl (fun done f =>
    match f with
    | choice fs => fs.reverseAux done
    | f => f :: done) []).reverse

def alternatives : Nat → List Form → Form
  | 0, parts => choice parts
  | fuel + 1, parts =>
    match flatChoice parts with
    | [] => never
    | [f] => f
    | flat =>
      match flat.mapM set? with
      | some sets => ofSet (.ofList sets)
      | none =>
        match flat.mapM parts? with
        | some (first :: others) =>
          let n := sharedByAll first others
          if n = 0 then choice flat
          else
            concat (first.take n ++
              [alternatives fuel ((first :: others).map (fun parts => concat (parts.drop n)))])
        | _ => choice flat

def longest (parts : List Form) : Nat :=
  parts.foldl (fun n f => max n ((f.parts?.map List.length).getD 0)) 0

def alternation (parts : List Form) : Form := alternatives (longest parts + 2) parts

/-- A repetition. What takes no characters is repeated at most once. -/
def repetition (low : Nat) (high : Option Nat) (greedy : Bool) (body : Form) : Form :=
  let zero := body.isZeroWidth
  let low := if zero then min low 1 else low
  let high := if zero then some (min (high.getD 1) 1) else high
  if low = 0 && high = some 0 then empty
  else if low = 1 && high = some 1 then body
  else repeated low high greedy body

end Form
end DnsFilter.Regex
