import Mathlib.Tactic.SplitIfs
import DnsFilter.Log.Entry
/-!
# Parameters that make an entry

Parameters make an entry where they have one question for a name and the address of a client.
-/
namespace DnsFilter

namespace LogParams

def entry (p : LogParams) (question : Question) (ip : IpAddress) (time : Timestamp) : LogEntry where
  time
  host := HostName.normalize question.name
  type := question.type
  recordClass := question.recordClass
  clientId := p.clientId
  transport := p.transport
  ip
  verdict := p.verdict.getD .noMatch
  upstream := p.upstream
  elapsedMicros := min p.elapsed.micros (Text.limit64 - 1)
  cached := p.cached
  authenticated := p.authenticated
  ecs := p.ecs
  answer := p.answer
  origAnswer := p.origAnswer

theorem subject_eq_ok_iff {p : LogParams} {question : Question} {ip : IpAddress} :
    p.subject = .ok (question, ip) ↔
      p.questions = [question] ∧ question.name ≠ "" ∧ p.clientIp = some ip := by
  cases hq : p.questions with
  | nil => simp [subject, hq]
  | cons q rest =>
    cases rest with
    | cons r rest => simp [subject, hq]
    | nil =>
      simp only [subject, hq]
      split_ifs with hname
      · simp only [false_iff]
        rintro ⟨hsame, hne, -⟩
        obtain rfl : q = question := by simpa using hsame
        exact hne hname
      · cases hip : p.clientIp with
        | none => simp
        | some client =>
          simp only [Except.ok.injEq, Prod.mk.injEq, List.cons.injEq, and_true, Option.some.injEq]
          constructor
          · rintro ⟨rfl, rfl⟩
            exact ⟨rfl, hname, rfl⟩
          · rintro ⟨rfl, -, rfl⟩
            exact ⟨rfl, rfl⟩

end LogParams

theorem LogEntry.ofParams_eq (p : LogParams) (time : Timestamp) :
    ofParams p time = p.subject.map fun s => p.entry s.1 s.2 time := by
  unfold ofParams
  cases p.subject <;> rfl

theorem LogEntry.ofParams_eq_ok_iff {p : LogParams} {time : Timestamp} {e : LogEntry} :
    ofParams p time = .ok e ↔
      ∃ question ip, p.subject = .ok (question, ip) ∧ e = p.entry question ip time := by
  rw [ofParams_eq]
  cases p.subject with
  | error failure => simp [Except.map]
  | ok s =>
    simp only [Except.map, Except.ok.injEq]
    constructor
    · rintro rfl
      exact ⟨s.1, s.2, rfl, rfl⟩
    · rintro ⟨question, ip, rfl, rfl⟩
      rfl

end DnsFilter
