import Std.Data.HashMap
import DnsFilter.Regex.Pattern
import DnsFilter.Rules.RuleReader
import DnsFilter.Rules.SuffixTrie
import DnsFilter.Text.Lines
/-!
# Rule sets

The rules of one list in the form in which they are looked up: by address, by host, by domain
suffix, by a part of the host, and by regular expression. Rules have the numbers of the accepted
lines.
-/
namespace DnsFilter

structure RuleEntry where
  text : List Char
  types : Option (List RecordType)
  deriving DecidableEq, Repr

namespace RuleEntry

def appliesTo (e : RuleEntry) (type : RecordType) : Bool := e.types.all (·.contains type)

end RuleEntry

/-- What a rule is filed under: its target, with a regular expression as a pattern. -/
inductive Filing
  | exact (host : List Char)
  | subtree (domain : List Char)
  | wildcard (domain : List Char)
  | part (text : List Char)
  | regex (pattern : Regex.Pattern)
  | address (ip : IpAddress)

/-- A regular expression that cannot be read has no place. -/
def Target.filing? : Target → Option Filing
  | .exact host => some (.exact host)
  | .subtree domain => some (.subtree domain)
  | .wildcard domain => some (.wildcard domain)
  | .part text => some (.part text)
  | .regex text => (Regex.Pattern.parse? text).map .regex
  | .address ip => some (.address ip)

structure RuleIndex where
  addresses : Std.HashMap IpAddress (Array Nat) := ∅
  exact : Std.HashMap String (Array Nat) := ∅
  suffixes : SuffixTrie := {}
  parts : Array (List Char × Nat) := #[]
  regexes : Array (Regex.Pattern × Nat) := #[]

namespace RuleIndex

def insert (x : RuleIndex) (place : Filing) (id : Nat) : RuleIndex :=
  let more (ids : Option (Array Nat)) : Option (Array Nat) := some ((ids.getD #[]).push id)
  match place with
  | .exact host => { x with exact := x.exact.alter (String.ofList host) more }
  | .subtree domain => { x with suffixes := x.suffixes.insert domain ⟨id, true⟩ }
  | .wildcard domain => { x with suffixes := x.suffixes.insert domain ⟨id, false⟩ }
  | .part text => { x with parts := x.parts.push (text, id) }
  | .regex pattern => { x with regexes := x.regexes.push (pattern, id) }
  | .address ip => { x with addresses := x.addresses.alter ip more }

/-- The first rule that covers a host or an answer address, among those that `applies` admits. Rules
for addresses come first, then rules for the host, for its longest domain, for a part of it, and
regular expressions. -/
def find? (x : RuleIndex) (applies : Nat → Bool) (host : List Char) (answer : Option IpAddress) :
    Option Nat :=
  let byAddress := answer.bind (fun ip => (x.addresses.getD ip #[]).find? applies)
  let byHost := (x.exact.getD (String.ofList host) #[]).find? applies
  let bySuffix := (x.suffixes.lookup host).find? applies
  let byPart :=
    (x.parts.find? (fun p => applies p.2 && Text.isInfix p.1 (Text.lower host))).map (·.2)
  let byRegex := (x.regexes.find? (fun r => applies r.2 && r.1.accepts host)).map (·.2)
  (((byAddress.or byHost).or bySuffix).or byPart).or byRegex

end RuleIndex

structure RuleSet where
  entries : Array RuleEntry := #[]
  allow : RuleIndex := {}
  block : RuleIndex := {}
  /-- How many lines were neither a rule nor a comment nor blank. -/
  skipped : Nat := 0

namespace RuleSet

def index (s : RuleSet) : Action → RuleIndex
  | .allow => s.allow
  | .block => s.block

def modifyIndex (s : RuleSet) (action : Action) (f : RuleIndex → RuleIndex) : RuleSet :=
  match action with
  | .allow => { s with allow := f s.allow }
  | .block => { s with block := f s.block }

def push (s : RuleSet) (action : Action) (place : Filing) (e : RuleEntry) : RuleSet :=
  let id := s.entries.size
  { s.modifyIndex action (·.insert place id) with entries := s.entries.push e }

def addLine (s : RuleSet) (line : List Char) : RuleSet :=
  match RuleLine.parse line with
  | .empty => s
  | .invalid => { s with skipped := s.skipped + 1 }
  | .rule r =>
    match r.target.filing? with
    | none => { s with skipped := s.skipped + 1 }
    | some place => s.push r.action place ⟨Text.trim line, r.types⟩

def ofText (text : List Char) : RuleSet := (Text.lines text).foldl addLine {}

def count (s : RuleSet) : Nat := s.entries.size

def text? (s : RuleSet) (id : Nat) : Option (List Char) := s.entries[id]?.map (·.text)

def texts (s : RuleSet) : List String := s.entries.toList.map (fun e => String.ofList e.text)

def applies (s : RuleSet) (type : RecordType) (id : Nat) : Bool :=
  s.entries[id]?.any (·.appliesTo type)

/-- The first rule of an action that covers a host or an answer address. -/
def find? (s : RuleSet) (action : Action) (host : List Char) (answer : Option IpAddress)
    (type : RecordType) : Option Nat :=
  (s.index action).find? (s.applies type) host answer

def matching? (s : RuleSet) (action : Action) (host : List Char) (answer : Option IpAddress)
    (type : RecordType) : Option (List Char) :=
  (s.find? action host answer type).bind s.text?

end RuleSet
end DnsFilter
