import DnsFilter.Regex.Form
/-!
# Matching plain patterns

A plain pattern is laid on a text and then searched for. Sets of positions are numbers: bit `i`
stands for the position in front of the character `i`.

`before` gives all positions from which a goal can be reached. `first?` gives the one end in the
goal that is preferred, when a pattern is matched from a given position: earlier alternatives are
preferred to later ones, and more rounds of a greedy repetition to fewer.
-/
namespace DnsFilter.Regex

def positionsOf (text : Array Char) (test : Char → Bool) : Nat :=
  text.foldr (fun c places => 2 * places + (if test c then 1 else 0)) 0

def allPositions (text : Array Char) : Nat := (1 <<< (text.size + 1)) - 1

def Edge.positions (text : Array Char) : Edge → Nat
  | .textStart => 1
  | .textEnd => 1 <<< text.size
  | .lineStart => 1 ||| 2 * positionsOf text (· == '\n')
  | .lineEnd => (1 <<< text.size) ||| positionsOf text (· == '\n')

inductive Track
  /-- No character, at some positions. -/
  | stay (places : Nat)
  /-- One character after the other. For each, the last one first, the positions where it may stand.
  -/
  | steps (places : List Nat)
  | repeated (low : Nat) (high : Option Nat) (greedy : Bool) (body : Track)
  | sequence (parts : List Track)
  | choice (parts : List Track)

/-- The steps so far at the end of a sequence, and what stands before them, the last one first. -/
structure TrackPieces where
  done : List Track := []
  places : List Nat := []

namespace TrackPieces

def closed (p : TrackPieces) : List Track :=
  if p.places.isEmpty then p.done else .steps p.places :: p.done

def add (p : TrackPieces) : Track → TrackPieces
  | .steps places => { p with places := places ++ p.places }
  | t => ⟨t :: p.closed, []⟩

end TrackPieces

mutual

def Form.on (text : Array Char) : Form → Track
  | .empty => .stay (allPositions text)
  | .literal cs => .steps (cs.foldl (fun places c => positionsOf text (· == c) :: places) [])
  | .charSet set => .steps [positionsOf text (fun c => set.contains c.toNat)]
  | .edge place => .stay (place.positions text)
  | .repeated low high greedy body => .repeated low high greedy (body.on text)
  | .capture _ body => body.on text
  | .sequence parts => .sequence (Form.sequenceOn text {} parts)
  | .choice parts => .choice (Form.choiceOn text [] parts)

def Form.sequenceOn (text : Array Char) (p : TrackPieces) : List Form → List Track
  | [] => p.closed.reverse
  | f :: fs => Form.sequenceOn text (p.add (f.on text)) fs

def Form.choiceOn (text : Array Char) (done : List Track) : List Form → List Track
  | [] => done.reverse
  | f :: fs => Form.choiceOn text (f.on text :: done) fs

end

namespace Track

/-- A set, then what a step makes of it, and so on, up to `count` steps or until nothing changes. -/
def iterates (step : Nat → Nat) : Nat → Nat → Array Nat → Array Nat
  | 0, places, done => done.push places
  | count + 1, places, done =>
    let next := step places
    if next = places then done.push places else iterates step count next (done.push places)

def after (sets : Array Nat) (count : Nat) : Nat := sets.getD (min count (sets.size - 1)) 0

/-- The sets from which a goal is reached in at most so many rounds. Without a bound on the rounds,
each new round comes from a position further left, so there are no more rounds than positions. -/
def rounds (step : Nat → Nat) (count : Option Nat) (goal : Nat) : Array Nat :=
  iterates (fun places => goal ||| step places) (count.getD (goal.log2 + 1)) goal #[]

mutual

/-- The positions from which the goal can be reached. -/
def before : Track → Nat → Nat
  | stay places, goal => goal &&& places
  | steps places, goal => places.foldl (fun goal place => (goal >>> 1) &&& place) goal
  | repeated low high _ body, goal =>
    let free := rounds (before body) (high.map (· - low)) goal
    let bound := iterates (before body) low (free.back?.getD 0) #[]
    bound.back?.getD 0
  | sequence parts, goal => beforeAll parts goal
  | choice parts, goal => beforeAny parts goal 0

def beforeAll : List Track → Nat → Nat
  | [], goal => goal
  | t :: ts, goal => before t (beforeAll ts goal)

def beforeAny : List Track → Nat → Nat → Nat
  | [], _, places => places
  | t :: ts, goal, places => beforeAny ts goal (places ||| before t goal)

end

def goals : List Track → Nat → List Nat
  | [], goal => [goal]
  | t :: ts, goal =>
    let later := goals ts goal
    before t (later.headD 0) :: later

def boundRounds (next : Nat → Nat → Option Nat) (sets : Array Nat) : Nat → Nat → Option Nat
  | 0, i => some i
  | count + 1, i =>
    match next (after sets count) i with
    | some j => boundRounds next sets count j
    | none => none

def freeRounds (next : Nat → Nat → Option Nat) (sets : Array Nat) (greedy : Bool) (goal : Nat) :
    Nat → Nat → Option Nat
  | 0, i => if goal.testBit i then some i else none
  | count + 1, i =>
    if !greedy && goal.testBit i then some i
    else
      match next (after sets count) i with
      | some j => freeRounds next sets greedy goal count j
      | none => if goal.testBit i then some i else none

/-- Any number of rounds. A round without characters is the last one. -/
def allRounds (next : Nat → Nat → Option Nat) (reachable : Nat) (greedy : Bool) (goal : Nat) :
    Nat → Nat → Option Nat
  | 0, _ => none
  | fuel + 1, i =>
    let here := goal.testBit i
    if !greedy && here then some i
    else
      let others := reachable ^^^ (reachable &&& (1 <<< i))
      match next (if here then others ||| (1 <<< i) else others) i with
      | some j => if j = i then some i else allRounds next reachable greedy goal fuel j
      | none => if here then some i else none

mutual

def first? : Track → Nat → Nat → Option Nat
  | stay places, goal, i => if (goal &&& places).testBit i then some i else none
  | steps places, goal, i =>
    if (before (steps places) goal).testBit i then some (i + places.length) else none
  | repeated low high greedy body, goal, i =>
    let free := rounds (before body) (high.map (· - low)) goal
    let sets := iterates (before body) low (free.back?.getD 0) #[]
    match boundRounds (first? body) sets low i with
    | none => none
    | some j =>
      match high with
      | some h => freeRounds (first? body) free greedy goal (h - low) j
      | none =>
        let reached := free.back?.getD 0
        allRounds (first? body) reached greedy goal (reached.log2 + 2) j
  | sequence parts, goal, i => firstThrough? parts ((goals parts goal).drop 1) i
  | choice parts, goal, i => firstOf? parts goal i

def firstThrough? : List Track → List Nat → Nat → Option Nat
  | t :: ts, goal :: later, i =>
    match first? t goal i with
    | some j => firstThrough? ts later j
    | none => none
  | _, _, i => some i

def firstOf? : List Track → Nat → Nat → Option Nat
  | [], _, _ => none
  | t :: ts, goal, i =>
    match first? t goal i with
    | some j => some j
    | none => firstOf? ts goal i

end

end Track
end DnsFilter.Regex
