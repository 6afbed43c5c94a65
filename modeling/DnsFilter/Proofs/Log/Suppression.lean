import DnsFilter.Proofs.Clients.Owner
import DnsFilter.Proofs.Log.Conservation
import DnsFilter.Query
/-!
# Clients that are kept out of the log

A query comes from one client, the owner of the first identifier that has one. Where that client is
kept out of the log, the log and the disk go on as if the query had not been made.
-/
namespace DnsFilter

theorem ClientFinder.lookup_ofClients (clients : List Client) :
    (ofClients clients).lookup = fun ids => .ok (Client.resolve? clients ids) := by
  funext ids
  rw [lookup, find?_ofClients]

namespace QueryLog

@[simp] theorem flush_clients (q : QueryLog) (now : Timestamp) (d : Disk) :
    (q.flush now d).2.1.clients = q.clients := by
  rw [flush_eq]

theorem next_clients (q : QueryLog) (m : LogMove) (d : Disk) :
    (q.next m d).1.clients = q.clients := by
  rcases m with ⟨event, now⟩
  cases event with
  | add p =>
    simp only [next, add_eq]
    cases q.acceptedBy ⟨.add p, now⟩ with
    | none => rfl
    | some e =>
      simp only [accept_eq, schedule]
      split_ifs <;> simp [buffered]
  | runScheduled =>
    simp only [next, runScheduled]
    split_ifs <;> simp
  | close =>
    simp only [next, close]
    split_ifs <;> simp
  | setSettings s =>
    simp only [next, setSettings_eq]
    cases s.validate <;> rfl
  | start =>
    simp only [next, start]
    cases q.state <;> rfl
  | flush => exact flush_clients q now d
  | _ => rfl

end QueryLog

/-- What happens to a log in which queries are recorded. -/
inductive LogUse
  /-- A query is processed, with the verdicts that the filter gives at the time. -/
  | process (q : AnsweredQuery) (check : FilterRequest → Verdict) (now : Timestamp)
  | move (m : LogMove)

namespace LogUse

def perform (u : LogUse) (log : QueryLog) (d : Disk) : QueryLog × Disk :=
  match u with
  | .process q check now => (q.process check log now d).2
  | .move m => log.next m d

def run (log : QueryLog) (d : Disk) (uses : List LogUse) : QueryLog × Disk :=
  uses.foldl (fun s u => u.perform s.1 s.2) (log, d)

/-- The query of a client that is kept out of the log. -/
def isSuppressed (clients : List Client) : LogUse → Bool
  | .process q _ _ => (Client.resolve? clients q.clientIds).any (·.ignoreQueryLog)
  | .move _ => false

section
variable {clients : List Client} {log : QueryLog}
  (hlog : log.clients = (ClientFinder.ofClients clients).lookup)
include hlog

theorem shouldLog_eq (host : String) (ids : List String) :
    log.shouldLog host ids =
      (!(Client.resolve? clients ids).any (·.ignoreQueryLog) &&
        !log.settings.ignoredHosts.contains (HostName.normalize host)) := by
  simp only [QueryLog.shouldLog, hlog, ClientFinder.lookup_ofClients]
  cases Client.resolve? clients ids <;> simp

theorem perform_suppressed {u : LogUse} (hu : u.isSuppressed clients = true) (d : Disk) :
    u.perform log d = (log, d) := by
  cases u with
  | move m => cases hu
  | process q check now =>
    have hdropped : log.shouldLog q.question.name q.clientIds = false := by
      rw [shouldLog_eq hlog]
      simp [show (Client.resolve? clients q.clientIds).any (·.ignoreQueryLog) = true from hu]
    simp only [perform, AnsweredQuery.process, AnsweredQuery.handle, AnsweredQuery.record, hdropped,
      Bool.false_eq_true, if_false]

end

theorem perform_clients (u : LogUse) (log : QueryLog) (d : Disk) :
    (u.perform log d).1.clients = log.clients := by
  cases u with
  | move m => exact log.next_clients m d
  | process q check now =>
    simp only [perform, AnsweredQuery.process, AnsweredQuery.handle, AnsweredQuery.record]
    split_ifs
    · exact log.next_clients ⟨.add _, now⟩ d
    · rfl

/-- Queries of clients that are kept out of the log leave no trace: whatever else happens, the log
and the disk are at every time what they are without those queries. -/
theorem suppressed_queries_leave_no_trace {clients : List Client} {log : QueryLog}
    (hlog : log.clients = (ClientFinder.ofClients clients).lookup) (d : Disk)
    (uses : List LogUse) :
    run log d uses = run log d (uses.filter fun u => !u.isSuppressed clients) := by
  induction uses generalizing log d with
  | nil => rfl
  | cons u uses ih =>
    have hnext : (u.perform log d).1.clients = (ClientFinder.ofClients clients).lookup :=
      (u.perform_clients log d).trans hlog
    cases hu : u.isSuppressed clients with
    | true =>
      rw [List.filter_cons_of_neg (by simp [hu])]
      have hskip : run log d (u :: uses) = run log d uses := by
        simp only [run, List.foldl_cons, perform_suppressed hlog hu]
      rw [hskip]
      exact ih hlog d
    | false =>
      rw [List.filter_cons_of_pos (by simp [hu])]
      exact ih hnext (u.perform log d).2

/-- The laptop owns an identifier that the television is known under, too. -/
def sharingClients : List Client :=
  [⟨"laptop", ["192.168.1.30", "192.168.1.20"], false⟩,
    ⟨"tv", ["192.168.1.20", "TV-Client"], true⟩]

def queryFrom (lastByte : UInt8) (clientId : Option String) (host : String) : AnsweredQuery where
  question := ⟨host, .a, .internet⟩
  clientIp := .v4 ⟨192, 168, 1, lastByte⟩
  clientId

theorem television_leaves_no_trace :
    let log : QueryLog := .fresh {} (ClientFinder.ofClients sharingClients).lookup false
    let fromLaptop : LogUse := .process (queryFrom 30 none "a.example") (fun _ => .noMatch) default
    let fromTv : LogUse :=
      .process (queryFrom 40 (some "tv-client") "b.example") (fun _ => .noMatch) default
    let flush : LogUse := .move ⟨.flush, default⟩
    fromTv.isSuppressed sharingClients = true ∧ fromLaptop.isSuppressed sharingClients = false ∧
      run log {} [fromLaptop, fromTv, flush, fromTv] = run log {} [fromLaptop, flush] ∧
      ((run log {} [fromLaptop]).1.recent 9).map (·.host) = ["a.example"] := by
  intro log fromLaptop fromTv flush
  have hlog : log.clients = (ClientFinder.ofClients sharingClients).lookup := rfl
  refine ⟨by decide +kernel, by decide +kernel, ?_, ?_⟩
  · exact suppressed_queries_leave_no_trace hlog {} [fromLaptop, fromTv, flush, fromTv]
  · simp only [log, ClientFinder.lookup_ofClients]
    decide +kernel

/-- A query is logged although a client that is kept out of the log is known under one of its
identifiers: where another client owns the identifier, and where one before it in the query belongs to
another client. -/
theorem query_with_identifier_of_television_is_logged :
    let log : QueryLog := .fresh {} (ClientFinder.ofClients sharingClients).lookup false
    let shared := queryFrom 20 none "a.example"
    let mixed := queryFrom 30 (some "tv-client") "b.example"
    let known (q : AnsweredQuery) := sharingClients.any fun c =>
      c.ignoreQueryLog && c.hasAny (q.clientIds.filter (· ≠ ""))
    known shared = true ∧ known mixed = true ∧
      ((run log {} [.process shared (fun _ => .noMatch) default,
        .process mixed (fun _ => .noMatch) default]).1.recent 9).map (·.host) =
          ["b.example", "a.example"] := by
  intro log shared mixed known
  refine ⟨by decide +kernel, by decide +kernel, ?_⟩
  simp only [log, ClientFinder.lookup_ofClients]
  decide +kernel

end LogUse
end DnsFilter
