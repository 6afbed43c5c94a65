import Std.Data.HashMap
import DnsFilter.Regex.ByteRanges
import DnsFilter.Regex.Form
/-!
# The memory of a plain pattern

A plain pattern is admitted if the automaton for it is small enough, both the one that reads forward
and the one that reads backward. The automata read bytes. Only their size is computed here.

States have numbers in the order of their making. A state takes 32 bytes, a transition of a state
with several of them 8 bytes, and an alternative 4 bytes. Equal states for the bytes of one set are
shared as far as they are remembered: a state is remembered in the slot that its hash gives, and
forgotten when another one takes that slot.
-/
namespace DnsFilter.Regex

inductive Direction
  | forward | backward
  deriving DecidableEq, Repr

structure Draft where
  states : Nat := 0
  bytes : Nat := 0
  deriving Repr

namespace Draft

def limit : Nat := 10485760

/-- Adds bytes, up to the limit. -/
def grow (d : Draft) (bytes : Nat) : Option Draft :=
  if limit < d.bytes + bytes then none else some { d with bytes := d.bytes + bytes }

def addState (d : Draft) (more : Nat) : Option Draft :=
  if limit < d.bytes + 32 + more then none else some ⟨d.states + 1, d.bytes + 32 + more⟩

/-- Adds states that take no more than themselves. -/
def addStates (d : Draft) (count : Nat) : Option Draft :=
  if limit < d.bytes + 32 * count then none else some ⟨d.states + count, d.bytes + 32 * count⟩

end Draft

def mix (keys : List UInt64) : UInt64 :=
  keys.foldl (fun h key => (h ^^^ key) * 1099511628211) 14695981039346656037

abbrev Remembered := Std.HashMap UInt64 (List UInt64 × UInt64)

def known? (slots : UInt64) (known : Remembered) (key : List UInt64) : Option UInt64 :=
  ((known[mix key % slots]?).filter (·.1 == key)).map (·.2)

def remember (slots : UInt64) (known : Remembered) (key : List UInt64) (state : UInt64) :
    Remembered :=
  known.insert (mix key % slots) (key, state)

/-! ## Sets that read backward -/

structure BackwardSet where
  draft : Draft
  known : Remembered := {}

def BackwardSet.addBytes (b : BackwardSet) (next : UInt64) :
    List (Nat × Nat) → Option BackwardSet
  | [] => (b.draft.grow 4).map ({ b with draft := · })
  | (low, high) :: rest =>
    let key := [next, UInt64.ofNat low, UInt64.ofNat high]
    match known? 1000 b.known key with
    | some state => b.addBytes state rest
    | none =>
      match b.draft.addState 0 with
      | none => none
      | some draft =>
        let state := UInt64.ofNat b.draft.states
        BackwardSet.addBytes ⟨draft, remember 1000 b.known key state⟩ state rest

def Draft.addSetBackward (d : Draft) (sequences : List (List (Nat × Nat))) : Option Draft := do
  let start ← d.addStates 2
  let result ← sequences.foldlM (fun b bytes => b.addBytes (UInt64.ofNat (d.states + 1)) bytes)
    ({ draft := start } : BackwardSet)
  return result.draft

/-! ## Sets that read forward -/

/-- A state under construction: its transitions, the last one first, and the range of the one whose
target is not known yet. -/
structure OpenState where
  transitions : List (UInt64 × UInt64 × UInt64) := []
  last : Option (Nat × Nat) := none

/-- The state with the target of its last transition. -/
def OpenState.close (s : OpenState) (target : UInt64) : OpenState :=
  match s.last with
  | none => s
  | some (low, high) =>
    ⟨(UInt64.ofNat low, UInt64.ofNat high, target) :: s.transitions, none⟩

structure ForwardSet where
  draft : Draft
  known : Remembered := {}
  /-- The end of all members. -/
  goal : UInt64
  /-- States under construction, the innermost one first. -/
  path : List OpenState := [{}]

namespace ForwardSet

/-- Makes a state, unless there is an equal one that is remembered. -/
def make (f : ForwardSet) (s : OpenState) : Option (ForwardSet × UInt64) :=
  let key := s.transitions.reverse.flatMap (fun t => [t.1, t.2.1, t.2.2])
  match known? 10000 f.known key with
  | some state => some (f, state)
  | none =>
    match f.draft.addState (8 * s.transitions.length) with
    | none => none
    | some draft =>
      let state := UInt64.ofNat f.draft.states
      some ({ f with draft, known := remember 10000 f.known key state }, state)

def makeInner (f : ForwardSet) (keep : Nat) (target : UInt64) : List OpenState → Option ForwardSet
  | [] => some { f with path := [] }
  | s :: outer =>
    if outer.length < keep then some { f with path := s.close target :: outer }
    else
      match f.make (s.close target) with
      | none => none
      | some (g, state) => g.makeInner keep state outer

/-- How many ranges, from the outermost state on, are those of the last transitions. -/
def sharedRanges : List (Nat × Nat) → List OpenState → Nat
  | r :: ranges, s :: path => if s.last = some r then sharedRanges ranges path + 1 else 0
  | _, _ => 0

/-- Adds the byte ranges of some characters that come after all characters so far. -/
def addBytes (f : ForwardSet) (ranges : List (Nat × Nat)) : Option ForwardSet := do
  let shared := sharedRanges ranges f.path.reverse
  let g ← f.makeInner (shared + 1) f.goal f.path
  match ranges.drop shared, g.path with
  | r :: rest, s :: outer =>
    return { g with
      path :=
        rest.foldl (fun path r => { last := some r } :: path) ({ s with last := some r } :: outer) }
  | _, _ => return g

end ForwardSet

def Draft.addSetForward (d : Draft) (sequences : List (List (Nat × Nat))) : Option Draft := do
  let start ← d.addState 0
  let added ← sequences.foldlM (fun f ranges => f.addBytes ranges)
    ({ draft := start, goal := UInt64.ofNat d.states } : ForwardSet)
  let root ← added.makeInner 1 added.goal added.path
  let (made, _) ← root.make (root.path.headD {})
  return made.draft

/-! ## Alternatives that are texts -/

/-- The texts of some alternatives as a tree. A text that ends at a node closes the row of branches
that the node has, and the branches of later texts form a new row. -/
inductive TextTree
  | node (closed : List (List (Nat × TextTree))) (branches : List (Nat × TextTree))

namespace TextTree

def isLeaf : TextTree → Bool
  | node closed branches => branches.isEmpty && closed.all (·.isEmpty)

def ended : TextTree → TextTree
  | node closed branches =>
    if branches.isEmpty && !closed.isEmpty && closed.all (·.isEmpty) then node closed branches
    else node (branches :: closed) []

def ofText (bytes : List Nat) : TextTree :=
  bytes.reverse.foldl (fun tree b => node [] [(b, tree)]) (node [[]] [])

mutual

def insert : TextTree → List Nat → TextTree
  | node closed branches, [] => (node closed branches).ended
  | node closed branches, b :: rest => node closed (insertBranch branches b rest)

/-- Adds a text to the branch of its first byte. Branches are in the order of their bytes. -/
def insertBranch : List (Nat × TextTree) → Nat → List Nat → List (Nat × TextTree)
  | [], b, rest => [(b, ofText rest)]
  | (c, tree) :: more, b, rest =>
    if b < c then (b, ofText rest) :: (c, tree) :: more
    else if b = c then (c, tree.insert rest) :: more
    else (c, tree) :: insertBranch more b rest

end

def addRow (d : Draft) (count : Nat) : Option Draft :=
  match count with
  | 0 => some d
  | 1 => d.addState 0
  | _ => d.addState (8 * count)

mutual

/-- Adds the states of a tree: those of its rows, and one for the choice between rows and ends. -/
def addTo (d : Draft) : TextTree → Option Draft
  | node closed branches => do
    let d ← addClosed d closed
    let d ← addBranches d branches
    let d ← addRow d branches.length
    let rows := (closed.filter (fun row => !row.isEmpty)).length
    d.addState (4 * (closed.length + rows + (if branches.isEmpty then 0 else 1)))

def addClosed (d : Draft) : List (List (Nat × TextTree)) → Option Draft
  | [] => some d
  | branches :: rest => do
    let d ← addClosed d rest
    let d ← addBranches d branches
    addRow d branches.length

def addBranches (d : Draft) : List (Nat × TextTree) → Option Draft
  | [] => some d
  | (_, tree) :: rest => do
    let d ← if tree.isLeaf then some d else addTo d tree
    addBranches d rest

end
end TextTree

/-! ## Patterns -/

def utf8Text (text : List Char) : List Nat := text.flatMap (fun c => utf8Bytes c.toNat)

/-- The texts of forms that are all texts, if there are two of them or more. -/
def texts? (parts : List Form) : Option (List (List Nat)) :=
  let text? : Form → Option (List Nat)
    | .literal text => some (utf8Text text)
    | _ => none
  match parts with
  | _ :: _ :: _ => parts.mapM text?
  | _ => none

namespace Draft

def addTexts (dir : Direction) (d : Draft) (texts : List (List Nat)) : Option Draft := do
  let tree := texts.foldl (fun tree text =>
    tree.insert (match dir with
      | .forward => text
      | .backward => text.reverse)) (TextTree.node [] [])
  tree.addTo (← d.addState 0)

def addSet (dir : Direction) (d : Draft) (set : CharSet) : Option Draft := do
  if set.isAscii then
    (← d.addState 0).addState (8 * set.ranges.size)
  else
    let sequences := set.ranges.toList.flatMap (fun r => byteRanges cutLimit r.1 r.2)
    match dir with
    | .forward => d.addSetForward sequences
    | .backward => d.addSetBackward sequences

/-- A part of an automaton is entered at one state and left from one. If that is a choice, then the
way out is one more alternative. -/
structure Part where
  draft : Draft
  leavesChoice : Bool

def Part.left (p : Part) : Option Draft := if p.leavesChoice then p.draft.grow 4 else some p.draft

def addTimes (add : Draft → Option Part) : Nat → Part → Option Part
  | 0, p => some p
  | count + 1, p =>
    match p.left with
    | none => none
    | some d =>
      match add d with
      | none => none
      | some q => addTimes add count q

def addExactly (add : Draft → Option Part) (count : Nat) (d : Draft) : Option Part :=
  match count with
  | 0 => (d.addState 0).map (⟨·, false⟩)
  | n + 1 => (add d).bind (addTimes add n)

/-- Rounds each of which may be the last. -/
def addOptional (add : Draft → Option Part) : Nat → Part → Option Part
  | 0, p => some p
  | count + 1, p =>
    match p.left with
    | none => none
    | some d =>
      match (d.addState 8).bind add with
      | none => none
      | some q => addOptional add count q

/-- Rounds without a bound on their number. -/
def addUnbounded (add : Draft → Option Part) (low : Nat) (nonempty : Bool) (d : Draft) :
    Option Part := do
  match low with
  | 0 =>
    if nonempty then
      let body ← add (← d.addState 4)
      return ⟨← body.left, true⟩
    else
      let body ← (← add d).left
      return ⟨← (← (← body.addState 8).addState 8).addState 0, false⟩
  | 1 => return ⟨← (← (← add d).left).addState 4, true⟩
  | n + 2 =>
    let bound ← (← addExactly add (n + 1) d).left
    return ⟨← (← (← add bound).left).addState 4, true⟩

def addRepeated (add : Draft → Option Part) (low : Nat) (high : Option Nat) (nonempty : Bool)
    (d : Draft) : Option Part := do
  match high with
  | none => addUnbounded add low nonempty d
  | some h =>
    if low = 0 && h = 1 then
      let body ← (← add (← d.addState 8)).left
      return ⟨← body.addState 0, false⟩
    else if low = h then addExactly add low d
    else
      let bound ← addExactly add low d
      let last ← addOptional add (h - low) { bound with draft := ← bound.draft.addState 0 }
      return ⟨← last.left, false⟩

mutual

def addForm (dir : Direction) : Form → Draft → Option Part
  | .empty, d => (d.addState 0).map (⟨·, false⟩)
  | .literal text, d => (d.addStates (utf8Text text).length).map (⟨·, false⟩)
  | .charSet set, d => (d.addSet dir set).map (⟨·, false⟩)
  | .edge _, d => (d.addState 0).map (⟨·, false⟩)
  | .repeated low high _ body, d => addRepeated (addForm dir body) low high body.isNonempty d
  | .capture _ body, d =>
    match dir with
    | .backward => addForm dir body d
    | .forward => do
      let inner ← addForm dir body (← d.addState 0)
      return ⟨← (← inner.left).addState 0, false⟩
  | .sequence parts, d =>
    match dir with
    | .forward => addSequence dir none d parts
    | .backward => addReversed dir d parts
  | .choice parts, d =>
    match texts? parts with
    | some texts => (d.addTexts dir texts).map (⟨·, false⟩)
    | none => addChoice dir 0 d parts

def addSequence (dir : Direction) (before : Option Part) (d : Draft) : List Form → Option Part
  | [] =>
    match before with
    | some p => some p
    | none => (d.addState 0).map (⟨·, false⟩)
  | f :: fs =>
    match (match before with
      | some p => p.left
      | none => some d) with
    | none => none
    | some d =>
      match addForm dir f d with
      | none => none
      | some p => addSequence dir (some p) p.draft fs

/-- Adds parts that follow one another, the last one first. -/
def addReversed (dir : Direction) (d : Draft) : List Form → Option Part
  | [] => (d.addState 0).map (⟨·, false⟩)
  | [f] => addForm dir f d
  | f :: fs =>
    match (addReversed dir d fs).bind Part.left with
    | none => none
    | some d => addForm dir f d

def addChoice (dir : Direction) (count : Nat) (d : Draft) : List Form → Option Part
  | [] => some ⟨d, false⟩
  | f :: fs => do
    let made ← (← addForm dir f d).left
    let d ← if count = 1 then (← made.addState 8).addState 0
      else if count = 0 then some made else made.grow 4
    addChoice dir (count + 1) d fs

end

/-- The automaton of a whole pattern: one that may start anywhere, unless the pattern is bound to
the edge where the reading starts. -/
def ofForm (dir : Direction) (f : Form) : Option Draft := do
  let bound := match dir with
    | .forward => f.isBoundTo .textStart false
    | .backward => f.isBoundTo .textEnd true
  let start ← if bound then addState {} 0 else (← (← addState {} 8).addState 0).addState 8
  let body ← match dir with
    | .forward => addForm dir (.capture 0 f) start
    | .backward => addForm dir f start
  (← body.left).addState 0

end Draft

def Form.fits (f : Form) : Bool :=
  (Draft.ofForm .forward f).isSome && (Draft.ofForm .backward f).isSome

end DnsFilter.Regex
