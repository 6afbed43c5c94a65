import DnsFilter.Regex.Bracket
import DnsFilter.Regex.Form
import DnsFilter.Text.Affix
import DnsFilter.Text.Decimal
/-!
# Reading plain patterns

The syntax of patterns without back references and look-around. The flags `i`, `m`, `s` and `U` can
be set and cleared; `u` is always on. A pattern that is nested too deep is refused: each group, set,
repetition, sequence and choice is a level.
-/
namespace DnsFilter.Regex.Plain

structure Flags where
  fold : Bool := false
  multiLine : Bool := false
  dotAll : Bool := false
  swapGreed : Bool := false
  deriving Repr

structure Piece where
  form : Form
  depth : Nat
  /-- Flags are parts that cannot be repeated. -/
  isRepeatable : Bool := true

/-- A group that is open: its alternatives and the parts of the last of them, the last one first. -/
structure Group where
  /-- The flags outside of the group. -/
  outside : Flags := {}
  capture : Option Nat := none
  branches : List Piece := []
  pieces : List Piece := []

namespace Group

def levels (pieces : List Piece) : Nat :=
  match pieces with
  | [] => 0
  | [p] => p.depth
  | _ => pieces.foldl (fun n p => max n p.depth) 0 + 1

def branch (g : Group) : Piece :=
  ⟨.concat (g.pieces.reverse.map (·.form)), levels g.pieces, true⟩

def nextBranch (g : Group) : Group := { g with branches := g.branch :: g.branches, pieces := [] }

def add (g : Group) (p : Piece) : Group := { g with pieces := p :: g.pieces }

def content (g : Group) : Piece :=
  let all := g.branch :: g.branches
  match all with
  | [p] => p
  | _ => ⟨.alternation (all.reverse.map (·.form)), levels all, true⟩

def closed (g : Group) : Piece :=
  let p := g.content
  let form := match g.capture with
    | some n => Form.capture n p.form
    | none => p.form
  ⟨form, p.depth + 1, true⟩

end Group

structure Scan where
  flags : Flags := {}
  current : Group := {}
  /-- The groups around the current one, the innermost one first. -/
  outer : List Group := []
  captures : Nat := 0
  names : List (List Char) := []

namespace Scan

def add (s : Scan) (form : Form) (depth : Nat) : Scan :=
  { s with current := s.current.add ⟨form, depth, true⟩ }

def openGroup (s : Scan) (flags : Flags) (capture : Option Nat) : Scan :=
  { s with
    flags
    current := { outside := s.flags, capture }
    outer := s.current :: s.outer
    captures := s.captures + (if capture.isSome then 1 else 0) }

def closeGroup? (s : Scan) : Option Scan :=
  match s.outer with
  | [] => none
  | g :: outer =>
    some { s with flags := s.current.outside, current := g.add s.current.closed, outer }

def repeat? (s : Scan) (low : Nat) (high : Option Nat) (greedy : Bool) : Option Scan :=
  match s.current.pieces with
  | p :: pieces =>
    if p.isRepeatable && low ≤ high.getD low then
      let form := Form.repetition low high (greedy != s.flags.swapGreed) p.form
      some { s with current := { s.current with pieces := ⟨form, p.depth + 1, true⟩ :: pieces } }
    else none
  | [] => none

end Scan

def readGreed (s : List Char) : Bool × List Char :=
  match s with
  | '?' :: rest => (false, rest)
  | _ => (true, s)

def dropSpace (s : List Char) : List Char :=
  s.dropWhile (fun c => Unicode.rangesWhiteSpace.contains c.toNat)

def readCount (s : List Char) : Option (Nat × List Char) :=
  let s := dropSpace s
  let digits := s.takeWhile Text.isDigit
  let n := Text.decimalValue digits
  if digits.isEmpty || Text.limit32 ≤ n then none else some (n, dropSpace (s.drop digits.length))

def readCounts (s : List Char) : Option (Nat × Option Nat × List Char) := do
  let (low, rest) ← readCount s
  match rest with
  | '\x7d' :: rest => some (low, some low, rest)
  | ',' :: '\x7d' :: rest => some (low, none, rest)
  | ',' :: rest =>
    let (high, rest) ← readCount rest
    match rest with
    | '\x7d' :: rest => some (low, some high, rest)
    | _ => none
  | _ => none

def Flags.set? (f : Flags) (c : Char) (on : Bool) : Option Flags :=
  match c with
  | 'i' => some { f with fold := on }
  | 'm' => some { f with multiLine := on }
  | 's' => some { f with dotAll := on }
  | 'U' => some { f with swapGreed := on }
  | 'u' => if on then some f else none
  | _ => none

def readFlags (seen : List Char) (negated : Bool) (f : Flags) :
    List Char → Option (Flags × Char × List Char)
  | [] => none
  | c :: rest =>
    if c = ':' || c = ')' then
      if seen.head? = some '-' || (c = ')' && seen.isEmpty) then none else some (f, c, rest)
    else if seen.contains c then none
    else if c = '-' then readFlags (c :: seen) true f rest
    else
      match f.set? c (!negated) with
      | some g => readFlags (c :: seen) negated g rest
      | none => none

def isNameStart (c : Char) : Bool := c == '_' || Unicode.rangesAlphabetic.contains c.toNat

def isNameChar (c : Char) : Bool :=
  isNameStart c || c == '.' || c == '[' || c == ']' ||
    [Unicode.Category.nd, .nl, .no].contains (Unicode.categoryOf c.toNat)

def readName (names : List (List Char)) (s : List Char) : Option (List Char × List Char) :=
  let name := s.takeWhile isNameChar
  match s.drop name.length with
  | '>' :: rest =>
    if name.head?.any isNameStart && !names.contains name then some (name, rest) else none
  | _ => none

def readOpening (s : Scan) (text : List Char) : Option (Scan × List Char) :=
  let named (rest : List Char) := (readName s.names rest).map (fun (name, rest) =>
    ({ s with names := name :: s.names }.openGroup s.flags (some (s.captures + 1)), rest))
  match text with
  | '?' :: 'P' :: '<' :: rest => named rest
  | '?' :: '<' :: rest =>
    if rest.head? = some '=' || rest.head? = some '!' then none else named rest
  | '?' :: rest =>
    (readFlags [] false s.flags rest).map (fun (flags, mark, rest) =>
      if mark = ':' then (s.openGroup flags none, rest)
      else ({ s with flags, current := s.current.add ⟨.empty, 0, false⟩ }, rest))
  | _ => some (s.openGroup s.flags (some (s.captures + 1)), text)

/-- A character, or with `fold` every one that is alike but for its case. -/
def charForm (fold : Bool) (c : Char) : Form :=
  if fold then .ofSet (.foldedChar c) else .literal [c]

def dot (all : Bool) : Form := .ofSet (if all then .any else .notLineFeed)

/-- Reads one part or mark. The fuel is no less than the length of the text. -/
def readStep (fuel : Nat) (s : Scan) : List Char → Option (Scan × List Char)
  | [] => none
  | c :: rest =>
    let repetition (low : Nat) (high : Option Nat) (rest : List Char) :=
      let (greedy, rest) := readGreed rest
      (s.repeat? low high greedy).map (·, rest)
    match c with
    | '(' => readOpening s rest
    | ')' => s.closeGroup?.map (·, rest)
    | '|' => some ({ s with current := s.current.nextBranch }, rest)
    | '?' => repetition 0 (some 1) rest
    | '*' => repetition 0 none rest
    | '+' => repetition 1 none rest
    | '\x7b' =>
      match readCounts rest with
      | some (low, high, rest) => repetition low high rest
      | none => none
    | '[' =>
      (readBracketed s.flags.fold fuel rest).map (fun r => (s.add (.ofSet r.set) r.depth, r.rest))
    | '\\' =>
      (readPlainEscape s.flags.fold rest).map (fun (item, rest) =>
        match item with
        | .char c => (s.add (charForm s.flags.fold c) 0, rest)
        | .charSet set => (s.add (.ofSet set) 0, rest))
    | '.' => some (s.add (dot s.flags.dotAll) 0, rest)
    | '^' => some (s.add (.edge (if s.flags.multiLine then .lineStart else .textStart)) 0, rest)
    | '$' => some (s.add (.edge (if s.flags.multiLine then .lineEnd else .textEnd)) 0, rest)
    | c => some (s.add (charForm s.flags.fold c) 0, rest)

/-- Reads up to the end of the text. Each step takes a character at least. -/
def readAll : Nat → Scan → List Char → Option Scan
  | _, s, [] => some s
  | 0, _, _ => none
  | fuel + 1, s, text =>
    match readStep (fuel + 1) s text with
    | some (t, rest) => readAll fuel t rest
    | none => none

def depthLimit : Nat := 250

end Plain

/-- The form of the plain pattern that a text spells. -/
def Form.parse? (text : List Char) : Option Form :=
  match Plain.readAll text.length {} text with
  | some s =>
    let p := s.current.content
    if s.outer.isEmpty && p.depth ≤ Plain.depthLimit then some p.form else none
  | none => none

end DnsFilter.Regex
