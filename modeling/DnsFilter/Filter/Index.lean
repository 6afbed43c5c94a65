import DnsFilter.Dns.HostName
import DnsFilter.Filter
import DnsFilter.Rules.RuleSet
import DnsFilter.Verdict
/-!
# Filters in service

All filters in the order of their precedence, each with the rules that it has in service, and the
verdict on a name.
-/
namespace DnsFilter

/-- What a verdict is asked for. -/
structure FilterRequest where
  host : String
  type : RecordType
  /-- Whether the name stands in an answer, where it may be an address. -/
  isAnswer : Bool := false
  deriving DecidableEq, Repr

structure InService where
  filter : Filter
  rules : Option RuleSet := none

namespace InService

def rule? (s : InService) (action : Action) (host : List Char) (answer : Option IpAddress)
    (type : RecordType) : Option MatchedRule :=
  if s.filter.enabled then
    (s.rules.bind (·.matching? action host answer type)).map fun text =>
      ⟨action, String.ofList text, s.filter.id, s.filter.name⟩
  else none

end InService

structure FilterIndex where
  entries : List InService

namespace FilterIndex

/-- Filters without rules. -/
def ofFilters (filters : List Filter) : FilterIndex := ⟨filters.map (fun f => ⟨f, none⟩)⟩

def filters (x : FilterIndex) : List Filter := x.entries.map (·.filter)

def rules? (x : FilterIndex) (id : Nat) : Option RuleSet :=
  (x.entries.find? (·.filter.id == id)).bind (·.rules)

def rulesAt? (x : FilterIndex) (position : Nat) : Option RuleSet :=
  x.entries[position]?.bind (·.rules)

def modify (x : FilterIndex) (position : Nat) (f : InService → InService) : FilterIndex :=
  ⟨x.entries.modify position f⟩

def rule? (x : FilterIndex) (action : Action) (host : List Char) (answer : Option IpAddress)
    (type : RecordType) : Option MatchedRule :=
  x.entries.findSome? (·.rule? action host answer type)

/-- An allowing rule of any filter decides before every blocking rule. -/
def check (x : FilterIndex) (r : FilterRequest) : Verdict :=
  let host := HostName.normalForm r.host.toList
  let answer := if r.isAnswer then IpAddress.parse? (String.ofList host) else none
  match x.rule? .allow host answer r.type with
  | some m => .matched m
  | none =>
    match x.rule? .block host answer r.type with
    | some m => .matched m
    | none => .noMatch

end FilterIndex
end DnsFilter
