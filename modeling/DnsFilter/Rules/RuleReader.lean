import DnsFilter.Dns.HostName
import DnsFilter.Rules.Rule
import DnsFilter.Text.Affix
/-!
# Reading rules

One rule a line:

* `! comment` and `# comment`;
* `0.0.0.0 host`: a line of a hosts file;
* `host`: that host only;
* `||host^`: the host and everything below it;
* `*.host` and `||*.host^`: everything below it;
* `*part*`: all hosts with `part` in their name;
* `/pattern/`: all hosts that a regular expression matches;
* `||address^` and `address`: answers with that address.

`@@` in front makes an allowing rule, `$dnstype=A|AAAA` behind limits a rule to record types. A rule
with any other modifier is invalid rather than applied to more than it means.
-/
namespace DnsFilter.RuleLine

open Text

def recordType? (name : List Char) : Option RecordType :=
  RecordType.parse? (String.ofList (trim name))

def modifierTypes? (modifier : List Char) : Option (List RecordType) := do
  let value ← afterPrefix? "dnstype=".toList (trim modifier)
  (value.splitOn '|').mapM recordType?

def types? (modifiers : List Char) : Option (List RecordType) :=
  ((modifiers.splitOn ',').mapM modifierTypes?).map List.flatten

def address? (s : List Char) : Option IpAddress := IpAddress.parse? (String.ofList s)

def named? (target : List Char → Target) (name : List Char) : Option Target :=
  if HostName.isWellFormed name then some (target name) else none

def anchored? (name : List Char) : Option Target :=
  match address? name with
  | some ip => some (.address ip)
  | none =>
    match afterPrefix? "*.".toList name with
    | some domain => named? .wildcard domain
    | none => named? .subtree name

def withoutSeparator (s : List Char) : List Char :=
  ((beforeSuffix? ['^', '|'] s).or (beforeSuffix? ['^'] s)).getD s

/-- The addresses that a line of a hosts file points a blocked name to. -/
def sinks : List (List Char) := ["0.0.0.0", "127.0.0.1", "::", "::1"].map String.toList

/-- The names that hosts files hold for the machine itself. -/
def ownNames : List (List Char) :=
  ["localhost", "0.0.0.0", "broadcasthost", "ip6-localhost", "ip6-loopback"].map String.toList

def target? (action : Action) (place : List Char) : Option Target :=
  match afterPrefix? ['|', '|'] place with
  | some inner => anchored? (lower (withoutSeparator inner))
  | none =>
    if 2 < place.length && place.head? = some '*' && place.getLast? = some '*' then
      let part := lower ((place.drop 1).dropLast)
      if part.contains '*' then none else some (.part part)
    else
      match afterPrefix? ['*', '.'] place with
      | some domain => named? .wildcard (lower domain)
      | none =>
        match words place with
        | [] => none
        | [word] =>
          match address? word with
          | some ip => some (.address ip)
          | none => named? .exact (lower word)
        | sink :: name :: _ =>
          if sinks.contains sink && action = .block && !ownNames.contains (lower name) then
            named? .exact (lower name)
          else none

/-- A rule that is a regular expression between slashes. The last slash ends it. -/
def regexRule? (action : Action) (body : List Char) : Option Rule := do
  let (pattern, rest) ← cutAtLast? '/' (body.drop 1)
  if pattern = [] then none
  else
    match trim rest with
    | [] => some ⟨action, .regex pattern, none⟩
    | '$' :: modifiers => some ⟨action, .regex pattern, some (← types? modifiers)⟩
    | _ => none

/-- Any other rule. The first dollar sign begins its modifiers. -/
def plainRule? (action : Action) (body : List Char) : Option Rule :=
  match cutAt? '$' body with
  | none => (target? action (trim body)).map (⟨action, ·, none⟩)
  | some (place, modifiers) => do
    let types ← types? modifiers
    let target ← target? action (trim place)
    some ⟨action, target, some types⟩

def rule? (line : List Char) : Option Rule :=
  let (action, body) :=
    match afterPrefix? ['@', '@'] line with
    | some body => (Action.allow, body)
    | none => (.block, line)
  if body.head? = some '/' then regexRule? action body else plainRule? action body

def isComment (line : List Char) : Bool := line.head? == some '#' || line.head? == some '!'

def parse (line : List Char) : RuleLine :=
  let line := trim line
  if line = [] || isComment line then .empty
  else
    match rule? line with
    | some r => .rule r
    | none => .invalid

end DnsFilter.RuleLine
