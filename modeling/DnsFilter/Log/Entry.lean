import DnsFilter.Data.Json
import DnsFilter.Dns.AnswerRecord
import DnsFilter.Dns.HostName
import DnsFilter.Net.Address
import DnsFilter.Net.Transport
import DnsFilter.Time.Rfc3339
import DnsFilter.Verdict
/-!
# Log entries

What the resolver knows about one processed query, the durable record made of it, and the text line
of a record: a JSON object whose empty parts are left out.
-/
namespace DnsFilter

structure LogParams where
  questions : List Question
  answer : List AnswerRecord
  /-- The answer as it was before filtering changed it. -/
  origAnswer : Option (List AnswerRecord)
  verdict : Option Verdict
  clientId : Option String
  transport : Transport
  clientIp : Option IpAddress
  elapsed : Duration
  cached : Bool
  authenticated : Bool
  /-- The client subnet of the request. -/
  ecs : Option String
  upstream : Option String
  deriving DecidableEq, Repr

structure LogEntry where
  time : Timestamp
  host : String
  type : RecordType
  recordClass : RecordClass
  clientId : Option String
  transport : Transport
  ip : IpAddress
  verdict : Verdict
  upstream : Option String
  /-- Processing time in microseconds. -/
  elapsedMicros : Nat
  cached : Bool
  authenticated : Bool
  ecs : Option String
  answer : List AnswerRecord
  origAnswer : Option (List AnswerRecord)
  deriving DecidableEq, Repr

namespace LogParams

def subject (p : LogParams) : Except Failure (Question × IpAddress) :=
  match p.questions with
  | [] => .error (.invalidLogParams "no question")
  | [q] =>
    if q.name = "" then .error (.invalidLogParams "no host in question")
    else
      match p.clientIp with
      | none => .error (.invalidLogParams "no client ip")
      | some ip => .ok (q, ip)
  | _ => .error (.invalidLogParams "more than one question")

end LogParams

namespace LogEntry

/-- The record of valid parameters at a time. Processing times beyond 64 bits stop at the largest
value. -/
def ofParams (p : LogParams) (time : Timestamp) : Except Failure LogEntry := do
  let (question, ip) ← p.subject
  return {
    time
    host := HostName.normalize question.name
    type := question.type
    recordClass := question.recordClass
    clientId := p.clientId
    transport := p.transport
    ip
    verdict := p.verdict.getD .noMatch
    upstream := p.upstream
    elapsedMicros := min p.elapsed.micros (Text.limit64 - 1)
    cached := p.cached
    authenticated := p.authenticated
    ecs := p.ecs
    answer := p.answer
    origAnswer := p.origAnswer }

def elapsed (e : LogEntry) : Duration := .ofMicros e.elapsedMicros

def fieldOf (key : String) (part : Option Value) : Value.Fields :=
  match part with
  | some v => [(key, v)]
  | none => []

def recordsValue (rs : List AnswerRecord) : Value := .list (rs.map AnswerRecord.toValue)

def fields (e : LogEntry) : Value.Fields :=
  [("time", .text (Rfc3339.text e.time)), ("qh", .text e.host), ("qt", .text e.type.name),
    ("qc", .text e.recordClass.name)] ++
  fieldOf "client_id" (e.clientId.map .text) ++
  fieldOf "client_proto" (if e.transport = .plain then none else some (.text e.transport.name)) ++
  [("ip", .text e.ip.text), ("verdict", e.verdict.toValue)] ++
  fieldOf "upstream" (e.upstream.map .text) ++
  [("elapsed_us", .ofNat e.elapsedMicros), ("cached", .bool e.cached),
    ("ad", .bool e.authenticated)] ++
  fieldOf "ecs" (e.ecs.map .text) ++
  fieldOf "answer" (if e.answer = [] then none else some (recordsValue e.answer)) ++
  fieldOf "orig_answer" (e.origAnswer.map recordsValue)

def toValue (e : LogEntry) : Value := .table e.fields

def fieldNames : List String :=
  ["time", "qh", "qt", "qc", "client_id", "client_proto", "ip", "verdict", "upstream", "elapsed_us",
    "cached", "ad", "ecs", "answer", "orig_answer"]

def ofValue? (v : Value) : Option LogEntry := do
  let fields ← v.strictRecord? fieldNames
  let time ← fields.required ["time"] (fun v => v.text?.bind Rfc3339.parse?)
  let host ← fields.required ["qh"] Value.text?
  let type ← fields.required ["qt"] RecordType.ofValue?
  let recordClass ← fields.required ["qc"] RecordClass.ofValue?
  let clientId ← fields.optional ["client_id"] none (Value.nullable? Value.text?)
  let transport ← fields.optional ["client_proto"] .plain
    (fun v => (v.name? Value.isNull).bind Transport.named?)
  let ip ← fields.required ["ip"] (fun v => v.text?.bind IpAddress.parse?)
  let verdict ← fields.required ["verdict"] Verdict.ofValue?
  let upstream ← fields.optional ["upstream"] none (Value.nullable? Value.text?)
  let elapsedMicros ← fields.required ["elapsed_us"] (Value.nat? Text.limit64)
  let cached ← fields.optional ["cached"] false Value.bool?
  let authenticated ← fields.optional ["ad"] false Value.bool?
  let ecs ← fields.optional ["ecs"] none (Value.nullable? Value.text?)
  let answer ← fields.optional ["answer"] [] (Value.list? AnswerRecord.ofValue?)
  let origAnswer ← fields.optional ["orig_answer"] none
    (Value.nullable? (Value.list? AnswerRecord.ofValue?))
  some { time, host, type, recordClass, clientId, transport, ip, verdict, upstream, elapsedMicros,
         cached, authenticated, ecs, answer, origAnswer }

/-- The line of an entry, without its line feed. -/
def line (e : LogEntry) : String := Json.compact e.toValue

def parse? (line : String) : Option LogEntry := (Json.parse? line).bind ofValue?

end LogEntry
end DnsFilter
