import DnsFilter.Proofs.Log.Appending
import DnsFilter.Proofs.Log.Params
import DnsFilter.Query
/-!
# Queries and their entries

A query gets the verdict on its question or else the one of the first record of its answer that is
blocked. The log takes in one entry with that verdict, or nothing.
-/
namespace DnsFilter

namespace QueryLog

end QueryLog

namespace AnsweredQuery

/-! ## The verdict -/

def targetRequest (type : RecordType) (r : AnswerRecord) : FilterRequest := ⟨r.value, type, true⟩

def BlocksAt (answers : FilterAnswers) (type : RecordType) (n : Nat) (records : List AnswerRecord)
    (i : Nat) (v : Verdict) : Prop :=
  ∃ r, records[i]? = some r ∧ isTarget r = true ∧
    answers (n + (records.take i).countP isTarget) (targetRequest type r) = v ∧ v.isBlocked = true

def asked (answers : FilterAnswers) (q : AnsweredQuery) : Verdict :=
  answers 0 ⟨q.question.name, q.question.type, false⟩

/-- A verdict is the first one that blocks one of some records, or there is none. -/
def IsFirst (answers : FilterAnswers) (type : RecordType) (n : Nat) (records : List AnswerRecord)
    (v : Verdict) : Prop :=
  (∃ i, BlocksAt answers type n records i v ∧
      ∀ j < i, ∀ w, ¬BlocksAt answers type n records j w) ∨
    v = .noMatch ∧ ∀ i w, ¬BlocksAt answers type n records i w

section
variable {answers : FilterAnswers} {type : RecordType} {m n : Nat} {r : AnswerRecord}
  {records : List AnswerRecord} {i : Nat} {v w : Verdict}

theorem BlocksAt.unique (hv : BlocksAt answers type n records i v)
    (hw : BlocksAt answers type n records i w) : v = w := by
  obtain ⟨r, hr, -, rfl, -⟩ := hv
  obtain ⟨r', hr', -, rfl, -⟩ := hw
  obtain rfl : r = r' := Option.some.inj (hr.symm.trans hr')
  rfl

theorem IsFirst.unique (hv : IsFirst answers type n records v)
    (hw : IsFirst answers type n records w) : v = w := by
  rcases hv with ⟨i, hi, hbeforei⟩ | ⟨rfl, hnone⟩
  · rcases hw with ⟨j, hj, hbeforej⟩ | ⟨rfl, hnone⟩
    · rcases Nat.lt_trichotomy i j with hlt | rfl | hlt
      · exact absurd hi (hbeforej i hlt v)
      · exact hi.unique hj
      · exact absurd hj (hbeforei j hlt w)
    · exact absurd hi (hnone i v)
  · rcases hw with ⟨j, hj, -⟩ | ⟨rfl, -⟩
    · exact absurd hj (hnone j w)
    · rfl

/-- A record that is not blocked moves all that come after it by one place. -/
theorem IsFirst.cons
    (hzero : ∀ w, ¬BlocksAt answers type n (r :: records) 0 w)
    (hsucc : ∀ i w, BlocksAt answers type n (r :: records) (i + 1) w ↔
      BlocksAt answers type m records i w)
    (h : IsFirst answers type m records v) : IsFirst answers type n (r :: records) v := by
  rcases h with ⟨i, hi, hbefore⟩ | ⟨rfl, hnone⟩
  · refine .inl ⟨i + 1, (hsucc i v).mpr hi, ?_⟩
    intro j hj w
    cases j with
    | zero => exact hzero w
    | succ j => exact mt (hsucc j w).mp (hbefore j (by omega) w)
  · refine .inr ⟨rfl, ?_⟩
    intro j w
    cases j with
    | zero => exact hzero w
    | succ j => exact mt (hsucc j w).mp (hnone j w)

end

def entry (q : AnsweredQuery) (v : Verdict) (now : Timestamp) : LogEntry :=
  (q.params v).entry q.question q.clientIp now

end AnsweredQuery
end DnsFilter
