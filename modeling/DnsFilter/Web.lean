import DnsFilter.Log.QueryLog
import DnsFilter.Text.Percent
/-!
# Read endpoints

The newest log entries and the settings of the query log, for reading. There are none before the log
was started.
-/
namespace DnsFilter.Web

inductive Response
  | entries (es : List LogEntry)
  | settings (s : LogSettings)
  | badRequest
  | notFound
  deriving DecidableEq, Repr

namespace Response

def status : Response → Nat
  | entries _ => 200
  | settings _ => 200
  | badRequest => 400
  | notFound => 404

def body? : Response → Option Value
  | entries es => some (.list (es.map LogEntry.toValue))
  | settings s => some s.toValue
  | _ => none

end Response

def defaultLimit : Nat := 100
def maxLimit : Nat := 1000

/-- The limit that a query part asks for: none, or one number of 64 bits. -/
def limit? (query : List Char) : Option Nat :=
  match (Form.pairs query).filter (·.1 == "limit".toList) with
  | [] => some defaultLimit
  | [(_, value)] => (Text.unsigned? Text.limit64 value).map (min · maxLimit)
  | _ => none

/-- What a request asks for: a path and the query part after it. -/
structure Target where
  path : List Char
  query : List Char
  deriving DecidableEq, Repr

namespace Target

def ofLocal (s : List Char) : Target :=
  ⟨s.takeWhile (· ≠ '?'), (s.dropWhile (· ≠ '?')).drop 1⟩

def isSchemeChar (c : Char) : Bool := Text.isDigit c || c.isAlpha || c ∈ ['+', '-', '.']

/-- What follows the scheme and the place of a server, where the text of a target has them. -/
def pastServer? (s : List Char) : Option (List Char) :=
  match s.span isSchemeChar with
  | (_ :: _, ':' :: '/' :: '/' :: rest) => some (rest.dropWhile (fun c => c ≠ '/' && c ≠ '?'))
  | _ => none

/-- Reads the text of a target. The part after a hash sign is not sent, and a target that names a
server may leave its path out. -/
def ofText (text : String) : Target :=
  let s := text.toList.takeWhile (· ≠ '#')
  match pastServer? s with
  | none => ofLocal s
  | some rest =>
    let t := ofLocal rest
    if t.path = [] then { t with path := ['/'] } else t

end Target

def answer (q : QueryLog) (text : String) : Response :=
  let target := Target.ofText text
  if !q.isServed then .notFound
  else if target.path = "/querylog".toList then
    match limit? target.query with
    | some limit => .entries (q.recent limit)
    | none => .badRequest
  else if target.path = "/querylog/config".toList then .settings q.settings
  else .notFound

end DnsFilter.Web
