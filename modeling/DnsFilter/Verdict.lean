import DnsFilter.Data.Fields
import DnsFilter.Data.Json
import DnsFilter.Text.Decimal
/-!
# Verdicts

What the filters say about a name: nothing, or the rule that decides it and where that rule stands.
-/
namespace DnsFilter

inductive Action
  | block | allow
  deriving DecidableEq, Repr, Inhabited

namespace Action

def all : List Action := [block, allow]

def name : Action → String
  | block => "block"
  | allow => "allow"

def named? (s : String) : Option Action := all.find? (·.name == s)

end Action

structure MatchedRule where
  action : Action
  rule : String
  filterId : Nat
  filterName : String
  deriving DecidableEq, Repr, Inhabited

inductive Verdict
  | noMatch
  | matched (rule : MatchedRule)
  deriving DecidableEq, Repr, Inhabited

namespace Verdict

def rule? : Verdict → Option MatchedRule
  | noMatch => none
  | matched m => some m

def isMatched (v : Verdict) : Bool := v.rule?.isSome
def action? (v : Verdict) : Option Action := v.rule?.map (·.action)
def isBlocked (v : Verdict) : Bool := v.action? == some .block

def toValue : Verdict → Value
  | noMatch => .table [("reason", .text "no_match")]
  | matched m =>
    .table [("reason", .text "matched"), ("action", .text m.action.name), ("rule", .text m.rule),
      ("filter_id", .ofNat m.filterId), ("filter_name", .text m.filterName)]

/-- How deep a verdict may be nested. -/
def keptLevels : Nat := 126

/-- The reason and the other fields. In a list the reason comes first. -/
def parts? : Value → Option (String × Value)
  | .table fields => (Value.Fields.required fields ["reason"] Value.text?).map (·, .table fields)
  | .list (.text reason :: items) => some (reason, .list items)
  | _ => none

/-- Reads a verdict that can be kept until its reason is known. -/
def ofValue? (v : Value) : Option Verdict := do
  let (reason, rest) ← if Json.canKeep keptLevels v then parts? v else none
  match reason with
  | "no_match" => (rest.strictRecord? []).map (fun _ => noMatch)
  | "matched" =>
    let fields ← rest.strictRecord? ["action", "rule", "filter_id", "filter_name"]
    let isVoid (v : Value) := v.isNull || v.isEmptyTable
    let action ← fields.required ["action"] (fun v => (v.name? isVoid).bind Action.named?)
    let rule ← fields.required ["rule"] Value.text?
    let filterId ← fields.required ["filter_id"] (Value.nat? Text.limit64)
    let filterName ← fields.required ["filter_name"] Value.text?
    some (matched ⟨action, rule, filterId, filterName⟩)
  | _ => none

end Verdict
end DnsFilter
