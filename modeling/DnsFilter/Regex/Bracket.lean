import DnsFilter.Regex.NamedSet
/-!
# Bracketed character sets

What stands between the brackets of a set, and the set that it spells: members, ranges, nested sets,
named ASCII sets, and the operators `&&`, `--` and `~~`.
-/
namespace DnsFilter.Regex

def propertySet? (s : List Char) : Option CharSet :=
  let cutAt (test : Char → Bool) : Option (List Char × List Char) :=
    let front := s.takeWhile (fun c => !test c)
    if front.length < s.length then some (front, s.drop (front.length + 1)) else none
  let rec unequal : List Char → List Char → Option (List Char × List Char)
    | front, '!' :: '=' :: rest => some (front.reverse, rest)
    | front, c :: rest => unequal (c :: front) rest
    | _, [] => none
  match unequal [] s with
  | some (property, value) => (CharSet.withValue? property value).map .complement
  | none =>
    match (cutAt (· == ':')).or (cutAt (· == '=')) with
    | some (property, value) => CharSet.withValue? property value
    | none => CharSet.named? s

def readPropertyName (s : List Char) : Option (List Char × List Char) :=
  match s with
  | '\x7b' :: rest =>
    let name := rest.takeWhile (· ≠ '\x7d')
    match rest.drop name.length with
    | _ :: after => some (name, after)
    | [] => none
  | '\\' :: _ => none
  | c :: rest => some ([c], rest)
  | [] => none

def isMeta (c : Char) : Bool := "\\.+*?()|[]\x7b\x7d^$#&-~".toList.contains c

inductive SetItem
  | char (c : Char)
  | charSet (set : CharSet)
  deriving Repr

/-- Reads what follows a backslash: a character that stands for itself, the letter of a class, or a
property. -/
def readPlainEscape (fold : Bool) (s : List Char) : Option (SetItem × List Char) :=
  match s with
  | [] => none
  | c :: rest =>
    let named (set : CharSet) := some (SetItem.charSet set, rest)
    match c with
    | 'd' => named .decimalDigit
    | 'D' => named (.complement .decimalDigit)
    | 's' => named .space
    | 'S' => named (.complement .space)
    | 'w' => named .word
    | 'W' => named (.complement .word)
    | _ =>
      if c = 'p' || c = 'P' then do
        let (name, after) ← readPropertyName rest
        let set ← propertySet? name
        some (.charSet (CharSet.negatedIf (c = 'P') (CharSet.foldedIf fold set)), after)
      else if isMeta c then some (.char c, rest)
      else none

namespace SetItem

def char? : SetItem → Option Char
  | char c => some c
  | charSet _ => none

def ranges : SetItem → List (Nat × Nat)
  | char c => [(c.toNat, c.toNat)]
  | charSet s => s.ranges.toList

end SetItem

def readSetItem (fold : Bool) (s : List Char) : Option (SetItem × List Char) :=
  match s with
  | '\\' :: rest => readPlainEscape fold rest
  | c :: rest => some (.char c, rest)
  | [] => none

/-- Reads one member, or a range if a hyphen follows that neither ends the set nor begins `--`. -/
def readSetRanges (fold : Bool) (s : List Char) : Option (List (Nat × Nat) × List Char) := do
  let (first, rest) ← readSetItem fold s
  match rest with
  | '-' :: after =>
    match after with
    | [] => none
    | ']' :: _ => some (first.ranges, rest)
    | '-' :: _ => some (first.ranges, rest)
    | _ => do
      let (last, rest) ← readSetItem fold after
      let low ← first.char?
      let high ← last.char?
      if low ≤ high then some ([(low.toNat, high.toNat)], rest) else none
  | _ => some (first.ranges, rest)

def readNamedAscii (fold : Bool) (s : List Char) : Option (CharSet × List Char) :=
  match s with
  | ':' :: rest =>
    let negated := rest.head? = some '^'
    let rest := if negated then rest.drop 1 else rest
    let name := rest.takeWhile (· ≠ ':')
    match rest.drop name.length with
    | ':' :: ']' :: after =>
      (CharSet.asciiNamed? (String.ofList name)).map (fun set =>
        (CharSet.negatedIf negated (CharSet.foldedIf fold set), after))
    | _ => none
  | _ => none

inductive SetOperator
  | inter | difference | symmetricDifference
  deriving Repr

def SetOperator.apply (op : SetOperator) (a b : CharSet) : CharSet :=
  match op with
  | inter => .inter a b
  | difference => CharSet.difference a b
  | symmetricDifference => CharSet.symmetricDifference a b

def readSetOperator (s : List Char) : Option (SetOperator × List Char) :=
  match s with
  | '&' :: '&' :: rest => some (.inter, rest)
  | '-' :: '-' :: rest => some (.difference, rest)
  | '~' :: '~' :: rest => some (.symmetricDifference, rest)
  | _ => none

/-- What was read so far: an operator that waits for its right side, and the members since then. -/
structure PendingSet where
  /-- The left side, its operator, and how deep the left side is nested. -/
  left : Option (CharSet × SetOperator × Nat) := none
  ranges : List (Nat × Nat) := []
  count : Nat := 0
  /-- How deep the most nested of the members is. -/
  deepest : Nat := 0

namespace PendingSet

def add (p : PendingSet) (ranges : List (Nat × Nat)) (depth : Nat) : PendingSet :=
  { p with ranges := ranges ++ p.ranges, count := p.count + 1, deepest := max p.deepest depth }

/-- The set before negation. The sides of an operator are folded before it is applied. -/
def value (fold : Bool) (p : PendingSet) : CharSet :=
  let members := CharSet.ofRanges p.ranges
  match p.left with
  | none => members
  | some (a, op, _) => op.apply (CharSet.foldedIf fold a) (CharSet.foldedIf fold members)

def depth (p : PendingSet) : Nat :=
  let own := if p.count ≤ 1 then p.deepest else p.deepest + 1
  match p.left with
  | none => own
  | some (_, _, d) => max d own + 1

end PendingSet

/-- Reads what may stand at the start only: hyphens, which are members there, and else a closing
bracket, which is a member where no member comes first. -/
def readSetStart (s : List Char) : PendingSet × List Char :=
  let hyphens := (s.takeWhile (· == '-')).length
  if 0 < hyphens then
    (({} : PendingSet).add [('-'.toNat, '-'.toNat)] 0 |> ({ · with count := hyphens }),
      s.drop hyphens)
  else
    match s with
    | ']' :: rest => (({} : PendingSet).add [(']'.toNat, ']'.toNat)] 0, rest)
    | _ => ({}, s)

structure ReadSet where
  set : CharSet
  depth : Nat
  rest : List Char

def readSetRest (fold : Bool) : Nat → Bool → PendingSet → List Char → Option ReadSet
  | 0, _, _, _ => none
  | fuel + 1, negated, p, s =>
    match s with
    | [] => none
    | ']' :: rest =>
      some ⟨CharSet.negatedIf negated (CharSet.foldedIf fold (p.value fold)), p.depth + 1, rest⟩
    | '[' :: rest =>
      match readNamedAscii fold rest with
      | some (set, after) => readSetRest fold fuel negated (p.add set.ranges.toList 0) after
      | none =>
        let inverted := rest.head? = some '^'
        let (start, body) := readSetStart (if inverted then rest.drop 1 else rest)
        match readSetRest fold fuel inverted start body with
        | none => none
        | some r => readSetRest fold fuel negated (p.add r.set.ranges.toList r.depth) r.rest
    | _ =>
      match readSetOperator s with
      | some (op, rest) =>
        readSetRest fold fuel negated { left := some (p.value fold, op, p.depth) } rest
      | none =>
        match readSetRanges fold s with
        | none => none
        | some (ranges, rest) => readSetRest fold fuel negated (p.add ranges 0) rest

/-- Reads a set after its opening bracket. The fuel has to be no less than the length of the text.
-/
def readBracketed (fold : Bool) (fuel : Nat) (s : List Char) : Option ReadSet :=
  let negated := s.head? = some '^'
  let (start, body) := readSetStart (if negated then s.drop 1 else s)
  readSetRest fold (fuel + 1) negated start body

end DnsFilter.Regex
