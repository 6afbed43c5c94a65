import DnsFilter.Filter.Index
import DnsFilter.Log.QueryLog
/-!
# Processing queries

A query that the resolver has answered gets a verdict, by its question and then by its answer, and
is logged with that verdict.
-/
namespace DnsFilter

structure AnsweredQuery where
  question : Question
  clientIp : IpAddress
  clientId : Option String := none
  transport : Transport := .plain
  answer : List AnswerRecord := []
  elapsed : Duration := ⟨0⟩
  cached : Bool := false
  authenticated : Bool := false
  ecs : Option String := none
  upstream : Option String := none
  deriving DecidableEq, Repr

/-- What the filters say to the requests that are made for one query, by the numbers of the requests.
Other filters may be put in service between two requests. -/
abbrev FilterAnswers := Nat → FilterRequest → Verdict

namespace AnsweredQuery

def isTarget (r : AnswerRecord) : Bool := r.type == .cname || r.type == .a || r.type == .aaaa

/-- The names in the answer that are checked, as requests of the type that was asked for. -/
def targets (q : AnsweredQuery) : List FilterRequest :=
  (q.answer.filter isTarget).map (fun r => ⟨r.value, q.question.type, true⟩)

def firstBlock (answers : FilterAnswers) (n : Nat) : List FilterRequest → Verdict
  | [] => .noMatch
  | r :: rest =>
    let v := answers n r
    if v.isBlocked then v else firstBlock answers (n + 1) rest

/-- The verdict on the question if it has one, and else the first one that blocks a name in the
answer. -/
def verdict (answers : FilterAnswers) (q : AnsweredQuery) : Verdict :=
  let asked := answers 0 ⟨q.question.name, q.question.type, false⟩
  if asked.isMatched then asked else firstBlock answers 1 q.targets

def clientIds (q : AnsweredQuery) : List String := q.clientIp.text :: q.clientId.toList

/-- What is logged of a query. The answer of a blocked one is kept as the one that was not given. -/
def params (q : AnsweredQuery) (v : Verdict) : LogParams where
  questions := [q.question]
  answer := if v.isBlocked then [] else q.answer
  origAnswer := if v.isBlocked then some q.answer else none
  verdict := some v
  clientId := q.clientId
  transport := q.transport
  clientIp := some q.clientIp
  elapsed := q.elapsed
  cached := q.cached
  authenticated := q.authenticated
  ecs := q.ecs
  upstream := q.upstream

/-- Logs a query with its verdict, unless its host or its client is kept out of the log. -/
def record (q : AnsweredQuery) (v : Verdict) (log : QueryLog) (now : Timestamp) (d : Disk) :
    QueryLog × Disk :=
  if log.shouldLog q.question.name q.clientIds then log.add (q.params v) now d else (log, d)

/-- Filters a query and logs the outcome. -/
def handle (answers : FilterAnswers) (q : AnsweredQuery) (log : QueryLog) (now : Timestamp)
    (d : Disk) : Verdict × QueryLog × Disk :=
  let v := q.verdict answers
  (v, q.record v log now d)

/-- Processes a query while the filters in service stay the same. -/
def process (check : FilterRequest → Verdict) (q : AnsweredQuery) (log : QueryLog)
    (now : Timestamp) (d : Disk) : Verdict × QueryLog × Disk :=
  q.handle (fun _ => check) log now d

end AnsweredQuery
end DnsFilter
