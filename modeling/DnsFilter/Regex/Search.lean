import DnsFilter.Regex.Code
import DnsFilter.Regex.NamedSet
import DnsFilter.Regex.Track
import DnsFilter.Text.Affix
/-!
# Searching with a program

A program runs on a text from one position, keeps the ways that it has not taken, and steps back to
the last of them when it fails. A search that steps back too often, or keeps too many ways, finds
nothing.
-/
namespace DnsFilter.Regex

/-- A text under search, and the matches of plain patterns at each of its positions. -/
structure Subject where
  text : Array Char
  /-- For each plain pattern and each position, the preferred end. -/
  ends : Array (Thunk (Array (Thunk (Option Nat))))
  /-- For each plain pattern and each position, whether a match ends there. -/
  closes : Array (Thunk (Array (Thunk Bool)))

namespace Subject

def ofCode (code : Code) (text : Array Char) : Subject :=
  let all := allPositions text
  let positions := Array.range (text.size + 1)
  let tracks := code.forms.map (fun f => Thunk.mk (fun _ => f.on text))
  { text
    ends := tracks.map (fun track => Thunk.mk (fun _ =>
      let starts := track.get.before all
      positions.map (fun i => Thunk.mk (fun _ =>
        if starts.testBit i then track.get.first? all i else none))))
    closes := tracks.map (fun track => Thunk.mk (fun _ =>
      positions.map (fun i => Thunk.mk (fun _ => track.get.before (1 <<< i) != 0)))) }

def preferredEnd? (s : Subject) (number i : Nat) : Option Nat :=
  ((s.ends[number]?).bind (·.get[i]?)).bind (·.get)

def isClosed (s : Subject) (number i : Nat) : Bool :=
  ((s.closes[number]?).bind (·.get[i]?)).any (·.get)

def isWordAt (s : Subject) (i : Nat) : Bool :=
  s.text[i]?.any (fun c => CharSet.word.contains c.toNat)

def isWordBefore (s : Subject) (i : Nat) : Bool := 0 < i && s.isWordAt (i - 1)

def isLineFeedAt (s : Subject) (i : Nat) : Bool := s.text[i]? == some '\n'

def isAt (s : Subject) (i : Nat) : Anchor → Bool
  | .edge .textStart => i == 0
  | .edge .textEnd => i == s.text.size
  | .edge .lineStart => i == 0 || s.isLineFeedAt (i - 1)
  | .edge .lineEnd => i == s.text.size || s.isLineFeedAt i
  | .lastLineEnd => (s.text.toList.drop i).all (· == '\n')
  | .wordBoundary => s.isWordBefore i != s.isWordAt i
  | .notWordBoundary => s.isWordBefore i == s.isWordAt i
  | .wordStart => !s.isWordBefore i && s.isWordAt i
  | .wordEnd => s.isWordBefore i && !s.isWordAt i
  | .wordStartHalf => !s.isWordBefore i
  | .wordEndHalf => !s.isWordAt i

def startsWith (s : Subject) (i : Nat) : List Char → Bool
  | [] => true
  | c :: cs => s.text[i]? == some c && s.startsWith (i + 1) cs

def slice (s : Subject) (first last : Nat) : List Char := (s.text.extract first last).toList

def utf8Size (cs : List Char) : Nat := cs.foldl (fun n c => n + c.utf8Size) 0

/-- The end of the piece at `i` that takes `size` bytes, if there is one. -/
def endAfter? (s : Subject) (size i : Nat) : Option Nat :=
  let rec go : Nat → Nat → Nat → Option Nat
    | _, 0, j => some j
    | 0, _, _ => none
    | fuel + 1, size, j =>
      match s.text[j]? with
      | some c => if c.utf8Size ≤ size then go fuel (size - c.utf8Size) (j + 1) else none
      | none => none
  go size size i

def foldAll (cs : List Char) : List Nat := cs.map (fun c => Unicode.foldOf c.toNat)

/-- Whether a piece repeats a captured one: alike, in ASCII alike without case, or beyond ASCII with
the captured one, folded, somewhere in it. -/
def repeats (fold : Bool) (captured piece : List Char) : Bool :=
  piece == captured ||
    (fold &&
      if piece.all (fun c => c.toNat < 0x80) then Text.lower piece == Text.lower captured
      else Text.isInfix (foldAll captured) (foldAll piece))

def endOfRepeated? (s : Subject) (fold : Bool) (first last i : Nat) : Option Nat :=
  let captured := s.slice first last
  (s.endAfter? (utf8Size captured) i).filter (fun stop => repeats fold captured (s.slice i stop))

end Subject

structure Way where
  /-- The place of the next instruction. -/
  place : Nat
  position : Nat
  slots : Array (Option Nat)
  /-- For each atomic group that is open, the number of ways that were kept before it. -/
  atomics : List Nat

/-- A search: the way that is taken, the others, the last one last, and the steps back that are
left. -/
structure Search where
  way : Way
  others : Array Way
  left : Nat

inductive Progress
  | on (s : Search)
  | done (found : Bool)

namespace Search

/-- How many steps back a search takes at most. -/
def backLimit : Nat := 1000000

/-- How many ways a search keeps at most. -/
def wayLimit : Nat := 1000000

/-- Takes the last of the other ways. -/
def stepBack (others : Array Way) (left : Nat) : Progress :=
  match others.back?, left with
  | some way, left + 1 => .on ⟨way, others.pop, left⟩
  | _, _ => .done false

def keeping (kept : Way) (way : Way) (others : Array Way) (left : Nat) : Progress :=
  if others.size < wayLimit then .on ⟨way, others.push kept, left⟩ else .done false

/-- The ways without those up to and with the last that goes on at a place. -/
def without (place : Nat) (others : Array Way) : Nat → Array Way
  | 0 => others
  | fuel + 1 =>
    match others.back? with
    | none => others
    | some way => if way.place = place then others.pop else without place others.pop fuel

/-- Executes the next instruction. -/
def step (code : Code) (s : Subject) (search : Search) : Progress :=
  let ⟨⟨place, i, slots, atomics⟩, others, left⟩ := search
  let fail (_ : Unit) := stepBack others left
  let on (i : Nat) : Progress := .on ⟨⟨place + 1, i, slots, atomics⟩, others, left⟩
  let moveIf (test : Bool) (i : Nat) : Progress := if test then on i else fail ()
  let keep (slot : Nat) (value : Nat) : Progress :=
    .on ⟨⟨place + 1, i, slots.setIfInBounds slot (some value), atomics⟩, others, left⟩
  let slot? (k : Nat) : Option Nat := (slots[k]?).join
  let goTo (place : Nat) : Progress := .on ⟨⟨place, i, slots, atomics⟩, others, left⟩
  -- One more round and the way on behind the rounds, the preferred one first.
  let rounds (slots : Array (Option Nat)) (mayStop greedy : Bool) (next : Nat) : Progress :=
    let body : Way := ⟨place + 1, i, slots, atomics⟩
    let out : Way := ⟨next, i, slots, atomics⟩
    if !mayStop then .on ⟨body, others, left⟩
    else if greedy then keeping out body others left
    else keeping body out others left
  match code.instructions[place]? with
  | none => .done false
  | some instruction =>
    match instruction with
    | .finish => .done true
    | .anyChar lineFeeds => moveIf (i < s.text.size && (lineFeeds || !s.isLineFeedAt i)) (i + 1)
    | .text cs => moveIf (s.startsWith i cs) (i + cs.length)
    | .anchor edge => moveIf (s.isAt i edge) i
    | .split first second =>
      keeping ⟨second, i, slots, atomics⟩ ⟨first, i, slots, atomics⟩ others left
    | .jump target => goTo target
    | .save slot => keep slot i
    | .reset slot => keep slot 0
    | .restore slot => on ((slot? slot).getD 0)
    | .round low high next slot greedy =>
      let count := (slot? slot).getD 0
      if high == some count then goTo next
      else rounds (slots.setIfInBounds slot (some (count + 1))) (low ≤ count) greedy next
    | .openRound low next slot start greedy =>
      let count := (slot? slot).getD 0
      if low < count && slot? start == some i then goTo next
      else
        let counted := slots.setIfInBounds slot (some (count + 1))
        if low ≤ count then rounds (counted.setIfInBounds start (some i)) true greedy next
        else rounds counted false greedy next
    | .back count => moveIf (count ≤ i) (i - count)
    | .refuse => stepBack (without (place + 1) others others.size) left
    | .backref slot fold =>
      match slot? slot, slot? (slot + 1) with
      | some first, some last =>
        match s.endOfRepeated? fold first last i with
        | some stop => on stop
        | none => fail ()
      | _, _ => fail ()
    | .isSaved slot => moveIf (slot? slot).isSome i
    | .openAtomic => .on ⟨⟨place + 1, i, slots, others.size :: atomics⟩, others, left⟩
    | .closeAtomic =>
      match atomics with
      | count :: atomics => .on ⟨⟨place + 1, i, slots, atomics⟩, others.shrink count, left⟩
      | [] => fail ()
    | .plain number =>
      match s.preferredEnd? number i with
      | some stop => on stop
      | none => fail ()
    | .plainBehind number => moveIf (s.isClosed number i) i
    | .searchStart => moveIf (i == 0) i

def run (code : Code) (s : Subject) : Nat → Search → Bool
  | 0, _ => false
  | fuel + 1, search =>
    match step code s search with
    | .on next => run code s fuel next
    | .done found => found

def fuel : Nat := 1000000000000000

end Search

def Code.finds (code : Code) (text : List Char) : Bool :=
  let subject := Subject.ofCode code text.toArray
  let way : Way := ⟨0, 0, Array.replicate code.slots none, []⟩
  Search.run code subject Search.fuel ⟨way, #[], Search.backLimit⟩

end DnsFilter.Regex
