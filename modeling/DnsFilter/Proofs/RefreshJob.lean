import Mathlib.Data.List.Basic
import DnsFilter.RefreshJob
/-!
# Refreshes in turn

The refreshes of a job never overlap, the first one starts an interval after the job, and each is
followed by the next one at its end or an interval after its start, whatever its outcome, unless the
job is cancelled before that. After the cancellation a refresh starts only at the end of one that
was still running, where its tick was due by then and was taken first.
-/
namespace DnsFilter.RefreshJob

section
variable {interval : Nat} {runs : Nat → RefreshRun} {cancelled : Option Nat}
  {prefersTick : Nat → Bool}

/-! ## One refresh -/

theorem nextStart?_eq_some {isPreferred : Bool} {s : JobState} {start : Nat}
    (h : nextStart? cancelled isPreferred s = some start) :
    start = max s.free s.due ∧ ∀ c, cancelled = some c →
      start < max s.free c ∨ start = max s.free c ∧ isPreferred = true := by
  unfold nextStart? at h
  cases cancelled with
  | none =>
    obtain rfl := Option.some.inj h
    refine ⟨rfl, ?_⟩
    intro c hc
    cases hc
  | some c =>
    simp only at h
    split at h
    · rename_i htick
      obtain rfl := Option.some.inj h
      refine ⟨rfl, ?_⟩
      intro d hd
      obtain rfl := Option.some.inj hd
      simpa using htick
    · cases h

theorem nextStart?_eq_none {isPreferred : Bool} {s : JobState}
    (h : nextStart? cancelled isPreferred s = none) :
    ∃ c, cancelled = some c ∧ c ≤ max s.free s.due := by
  unfold nextStart? at h
  cases cancelled with
  | none => cases h
  | some c =>
    simp only at h
    split at h
    · cases h
    · rename_i htick
      simp only [Bool.or_eq_true, decide_eq_true_eq, not_or] at htick
      exact ⟨c, rfl, by omega⟩

/-- A tick is due an interval after the last one was taken at the latest. -/
theorem nextDue_le {due taken : Nat} (h : due ≤ taken) :
    nextDue interval due taken ≤ taken + interval := by
  unfold nextDue
  split <;> omega

theorem le_nextDue (interval due taken : Nat) : due ≤ nextDue interval due taken ∨
    taken ≤ nextDue interval due taken := by
  unfold nextDue
  split <;> omega

/-! ## The refreshes of a job -/

variable (interval runs cancelled prefersTick) in
/-- A job waits for its next refresh after those that started at the given times. -/
inductive Waits : List Nat → JobState → Prop
  | first : Waits [] ⟨0, interval, 0⟩
  | next {before : List Nat} {s : JobState} {start : Nat} (h : Waits before s)
      (hstart : nextStart? cancelled (prefersTick s.count) s = some start) :
      Waits (before ++ [start]) (afterRun interval (runs s.count) start s)

/-- When the last of the refreshes started, and when it ended. Both are 0 where there is none. -/
def lastStart (starts : List Nat) : Nat := starts.getLast?.getD 0

def lastEnd (runs : Nat → RefreshRun) (starts : List Nat) : Nat :=
  match starts.getLast? with
  | none => 0
  | some start => start + (runs (starts.length - 1)).takes.nanos

/-- How a job waits: since the end of its last refresh, for a tick that is due an interval after its
start at the latest, and an interval after the start of the job at the earliest. -/
structure WaitsInTurn (interval : Nat) (runs : Nat → RefreshRun) (before : List Nat)
    (s : JobState) : Prop where
  count : s.count = before.length
  free : s.free = lastEnd runs before
  due_le : s.due ≤ lastStart before + interval
  le_due : interval ≤ s.due

theorem Waits.inTurn {before : List Nat} {s : JobState}
    (h : Waits interval runs cancelled prefersTick before s) :
    WaitsInTurn interval runs before s := by
  induction h with
  | first => exact ⟨rfl, rfl, Nat.le_add_left interval 0, Nat.le_refl interval⟩
  | @next before s start h hstart ih =>
    obtain ⟨hmax, -⟩ := nextStart?_eq_some hstart
    have hdue : s.due ≤ start := by omega
    have hinterval := ih.le_due
    constructor
    · simp [afterRun, ih.count]
    · simp [afterRun, lastEnd, ih.count]
    · simpa [afterRun, lastStart] using nextDue_le hdue
    · rcases le_nextDue interval s.due start with hle | hle
      · exact Nat.le_trans hinterval hle
      · exact Nat.le_trans hinterval (Nat.le_trans hdue hle)

/-- Where every refresh is over before an interval has passed, each tick is taken when it is due. -/
theorem Waits.onTime (hshort : ∀ k, (runs k).takes.nanos < interval) {before : List Nat}
    {s : JobState} (h : Waits interval runs cancelled prefersTick before s) : s.free < s.due := by
  induction h with
  | first => exact Nat.lt_of_le_of_lt (Nat.zero_le _) (hshort 0)
  | @next before s start h hstart ih =>
    obtain ⟨hmax, -⟩ := nextStart?_eq_some hstart
    have hdue : start = s.due := by omega
    have hshort := hshort s.count
    simp only [afterRun, nextDue, hdue]
    split <;> omega

theorem Waits.before {starts : List Nat} {t : JobState}
    (h : Waits interval runs cancelled prefersTick starts t) {k a : Nat}
    (hk : starts[k]? = some a) :
    ∃ s, Waits interval runs cancelled prefersTick (starts.take k) s ∧
      nextStart? cancelled (prefersTick k) s = some a := by
  induction h with
  | first => cases hk
  | @next before s start h hstart ih =>
    rcases Nat.lt_trichotomy k before.length with hlt | heq | hgt
    · rw [List.getElem?_append_left hlt] at hk
      rw [List.take_append_of_le_length (Nat.le_of_lt hlt)]
      exact ih hk
    · subst heq
      rw [List.getElem?_append_right (Nat.le_refl _), Nat.sub_self] at hk
      obtain rfl : start = a := Option.some.inj hk
      rw [List.take_left, ← h.inTurn.count]
      exact ⟨s, h, hstart⟩
    · have hlen := (List.getElem?_eq_some_iff.mp hk).1
      rw [List.length_append, List.length_singleton] at hlen
      omega

/-- The job goes on until it has made so many refreshes or is cancelled. -/
theorem startsFrom_waits {before : List Nat} {s : JobState}
    (h : Waits interval runs cancelled prefersTick before s) (n : Nat) :
    ∃ t, Waits interval runs cancelled prefersTick
        (before ++ startsFrom interval runs cancelled prefersTick n s) t ∧
      ((startsFrom interval runs cancelled prefersTick n s).length = n ∨
        nextStart? cancelled (prefersTick t.count) t = none) := by
  induction n generalizing before s with
  | zero => exact ⟨s, by simpa [startsFrom] using h, .inl rfl⟩
  | succ n ih =>
    cases hstart : nextStart? cancelled (prefersTick s.count) s with
    | none =>
      refine ⟨s, ?_, .inr hstart⟩
      simpa [startsFrom, hstart] using h
    | some start =>
      obtain ⟨t, ht, hend⟩ := ih (h.next hstart)
      refine ⟨t, ?_, ?_⟩
      · simpa [startsFrom, hstart] using ht
      · simpa [startsFrom, hstart] using hend

/-- Outcomes do not matter for when the refreshes start. -/
theorem startsFrom_congr {others : Nat → RefreshRun}
    (h : ∀ k, (others k).takes = (runs k).takes) (n : Nat) (s : JobState) :
    startsFrom interval others cancelled prefersTick n s =
      startsFrom interval runs cancelled prefersTick n s := by
  induction n generalizing s with
  | zero => rfl
  | succ n ih =>
    unfold startsFrom
    cases nextStart? cancelled (prefersTick s.count) s with
    | none => rfl
    | some start =>
      simp only [afterRun, h]
      rw [ih]

theorem Waits.between {starts : List Nat} {t : JobState}
    (h : Waits interval runs cancelled prefersTick starts t) {k a b : Nat}
    (ha : starts[k]? = some a) (hb : starts[k + 1]? = some b) :
    ∃ s, nextStart? cancelled (prefersTick (k + 1)) s = some b ∧
      s.free = a + (runs k).takes.nanos ∧ s.due ≤ a + interval := by
  obtain ⟨s, hs, hstart⟩ := h.before hb
  have hturn := hs.inTurn
  have htake : starts.take (k + 1) = starts.take k ++ [a] := by
    rw [List.take_add_one, ha]
    rfl
  have hlen : (starts.take k).length = k := by
    have hlt := (List.getElem?_eq_some_iff.mp ha).1
    rw [List.length_take]
    omega
  rw [htake] at hturn
  refine ⟨s, hstart, ?_, ?_⟩
  · simpa [lastEnd, hlen] using hturn.free
  · simpa [lastStart] using hturn.due_le

/-- A refresh follows another one at its end or later, and at the latest when it has ended and an
interval has passed since its start. It starts after the cancellation if and only if the other one
was still running then, and then it starts at its end, where the tick was taken first. -/
theorem Waits.follows {starts : List Nat} {t : JobState}
    (h : Waits interval runs cancelled prefersTick starts t) {k a b : Nat}
    (ha : starts[k]? = some a) (hb : starts[k + 1]? = some b) :
    a + (runs k).takes.nanos ≤ b ∧ b ≤ max (a + (runs k).takes.nanos) (a + interval) ∧
      ∀ c, cancelled = some c →
        (c < b ↔ c < a + (runs k).takes.nanos) ∧
          (c < b → b = a + (runs k).takes.nanos ∧ prefersTick (k + 1) = true) := by
  obtain ⟨s, hstart, hfree, hdue⟩ := h.between ha hb
  obtain ⟨hmax, hcancel⟩ := nextStart?_eq_some hstart
  refine ⟨by omega, by omega, ?_⟩
  intro c hc
  have hcancel := hcancel c hc
  refine ⟨by omega, ?_⟩
  intro hlate
  rcases hcancel with hbefore | ⟨hat, hpreferred⟩
  · omega
  · exact ⟨by omega, hpreferred⟩

theorem Waits.le_start {starts : List Nat} {t : JobState}
    (h : Waits interval runs cancelled prefersTick starts t) {k a : Nat}
    (hk : starts[k]? = some a) : interval ≤ a := by
  obtain ⟨s, hs, hstart⟩ := h.before hk
  obtain ⟨hmax, -⟩ := nextStart?_eq_some hstart
  have hdue := hs.inTurn.le_due
  omega

/-- The first refresh starts when its tick is due, and not after the cancellation. -/
theorem Waits.first_start {starts : List Nat} {t : JobState}
    (h : Waits interval runs cancelled prefersTick starts t) {a : Nat} (ha : starts[0]? = some a) :
    a = interval ∧ ∀ c, cancelled = some c → a ≤ c := by
  obtain ⟨s, hs, hstart⟩ := h.before ha
  obtain ⟨hmax, hcancel⟩ := nextStart?_eq_some hstart
  have hfree : s.free = 0 := hs.inTurn.free
  have hdue : s.due ≤ 0 + interval := hs.inTurn.due_le
  have hinterval := hs.inTurn.le_due
  refine ⟨by omega, ?_⟩
  intro c hc
  have hcancel := hcancel c hc
  omega

theorem Waits.le_cancelled {starts : List Nat} {t : JobState} {c : Nat}
    (hshort : ∀ k, (runs k).takes.nanos < interval)
    (h : Waits interval runs (some c) prefersTick starts t) {k a : Nat}
    (hk : starts[k]? = some a) : a ≤ c := by
  obtain ⟨s, hs, hstart⟩ := h.before hk
  obtain ⟨hmax, hcancel⟩ := nextStart?_eq_some hstart
  have hfree := hs.onTime hshort
  have hcancel := hcancel c rfl
  omega

/-- No refresh starts after the cancellation if and only if none that was running at that moment is
followed by another one. -/
theorem Waits.le_cancelled_iff {starts : List Nat} {t : JobState} {c : Nat}
    (h : Waits interval runs (some c) prefersTick starts t) :
    (∀ a ∈ starts, a ≤ c) ↔ ∀ k a, starts[k]? = some a → k + 1 < starts.length →
      a + (runs k).takes.nanos ≤ c := by
  constructor
  · intro hearly k a ha hmore
    have hb := List.getElem?_eq_getElem hmore
    obtain ⟨-, -, hcancel⟩ := h.follows ha hb
    have hle := hearly _ (List.mem_of_getElem? hb)
    have hlate := (hcancel c rfl).1
    omega
  · intro hover b hb
    obtain ⟨k, hk⟩ := List.mem_iff_getElem?.mp hb
    cases k with
    | zero => exact (h.first_start hk).2 c rfl
    | succ k =>
      have hlen := (List.getElem?_eq_some_iff.mp hk).1
      have ha := List.getElem?_eq_getElem (Nat.lt_of_succ_lt hlen)
      obtain ⟨-, -, hcancel⟩ := h.follows ha hk
      have hend := hover k _ ha hlen
      have hlate := (hcancel c rfl).1
      omega

end

/-! ## A whole job -/

def heard (j : RefreshJob) (cancelled : Option Nat) : Option Nat :=
  if j.isCancellable then cancelled else none

/-- Refreshes that start an interval after the job, and each at the end of the one before it at the
earliest, and at the latest when it has ended and an interval has passed since its start. -/
structure TakeTurns (interval : Nat) (runs : Nat → RefreshRun) (starts : List Nat) : Prop where
  first : ∀ a, starts[0]? = some a → a = interval
  le_start : ∀ a ∈ starts, interval ≤ a
  apart : ∀ k a b, starts[k]? = some a → starts[k + 1]? = some b →
    a + (runs k).takes.nanos ≤ b
  prompt : ∀ k a b, starts[k]? = some a → starts[k + 1]? = some b →
    b ≤ max (a + (runs k).takes.nanos) (a + interval)

section
variable {j : RefreshJob} (hpositive : 0 < j.interval.nanos) (runs : Nat → RefreshRun)
  (cancelled : Option Nat) (prefersTick : Nat → Bool) (n : Nat)
include hpositive

theorem starts_eq : j.starts runs cancelled prefersTick n =
    startsFrom j.interval.nanos runs (j.heard cancelled) prefersTick n
      ⟨0, j.interval.nanos, 0⟩ :=
  if_neg (Nat.ne_of_gt hpositive)

theorem starts_wait : ∃ t, Waits j.interval.nanos runs (j.heard cancelled) prefersTick
      (j.starts runs cancelled prefersTick n) t ∧
    ((j.starts runs cancelled prefersTick n).length = n ∨
      nextStart? (j.heard cancelled) (prefersTick t.count) t = none) := by
  rw [starts_eq hpositive]
  exact startsFrom_waits .first n

end

theorem heard_eq_some_iff {j : RefreshJob} {cancelled : Option Nat} {c : Nat} :
    j.heard cancelled = some c ↔ j.isCancellable = true ∧ cancelled = some c := by
  unfold heard
  split <;> simp_all

/-- The refreshes of a job take turns, however long they take. Their outcomes change nothing, and
there are fewer of them than asked for only where the job is cancelled before the next one would have
to start. None starts after the cancellation if and only if none that was running at that moment is
followed by another one; one that does start then starts at the end of the one before it, where its
tick was taken before the cancellation was heard. As long as the refreshes are shorter than the
interval, none starts after the cancellation. -/
theorem stops_when_cancelled_iff (j : RefreshJob) (hpositive : 0 < j.interval.nanos)
    (runs : Nat → RefreshRun) (cancelled : Option Nat) (prefersTick : Nat → Bool) (n : Nat) :
    let starts := j.starts runs cancelled prefersTick n
    TakeTurns j.interval.nanos runs starts ∧
      (∀ others : Nat → RefreshRun, (∀ k, (others k).takes = (runs k).takes) →
        j.starts others cancelled prefersTick n = starts) ∧
      (starts.length < n → ∃ c, j.isCancellable = true ∧ cancelled = some c ∧
        c ≤ max (lastEnd runs starts) (lastStart starts + j.interval.nanos)) ∧
      ∀ c, j.isCancellable = true → cancelled = some c →
        ((∀ a ∈ starts, a ≤ c) ↔ ∀ k a, starts[k]? = some a → k + 1 < starts.length →
          a + (runs k).takes.nanos ≤ c) ∧
        (∀ k a b, starts[k]? = some a → starts[k + 1]? = some b → c < b →
          b = a + (runs k).takes.nanos ∧ prefersTick (k + 1) = true) ∧
        ((∀ k, (runs k).takes.nanos < j.interval.nanos) → ∀ a ∈ starts, a ≤ c) := by
  intro starts
  obtain ⟨t, hwaits, hend⟩ := starts_wait hpositive runs cancelled prefersTick n
  have hturns : TakeTurns j.interval.nanos runs starts := by
    constructor
    · intro a ha
      exact (hwaits.first_start ha).1
    · intro a ha
      obtain ⟨k, hk⟩ := List.mem_iff_getElem?.mp ha
      exact hwaits.le_start hk
    · intro k a b ha hb
      exact (hwaits.follows ha hb).1
    · intro k a b ha hb
      exact (hwaits.follows ha hb).2.1
  refine ⟨hturns, ?_, ?_, ?_⟩
  · intro others hsame
    rw [starts_eq hpositive, startsFrom_congr hsame, ← starts_eq hpositive]
  · intro hfewer
    obtain ⟨c, hc, hle⟩ := nextStart?_eq_none (hend.resolve_left (Nat.ne_of_lt hfewer))
    obtain ⟨hcancellable, hcancelled⟩ := heard_eq_some_iff.mp hc
    have hfree : t.free = lastEnd runs starts := hwaits.inTurn.free
    have hdue : t.due ≤ lastStart starts + j.interval.nanos := hwaits.inTurn.due_le
    exact ⟨c, hcancellable, hcancelled, by omega⟩
  · intro c hcancellable hcancelled
    have hheard := heard_eq_some_iff.mpr ⟨hcancellable, hcancelled⟩
    refine ⟨?_, ?_, ?_⟩
    · rw [hheard] at hwaits
      exact hwaits.le_cancelled_iff
    · intro k a b ha hb hlate
      exact ((hwaits.follows ha hb).2.2 c hheard).2 hlate
    · intro hshort a ha
      obtain ⟨k, hk⟩ := List.mem_iff_getElem?.mp ha
      rw [hheard] at hwaits
      exact hwaits.le_cancelled hshort hk

/-- A job that was started with the token of the program and is cancelled during its first refresh
makes no other one. -/
theorem short_refresh_is_last :
    let runner : JobRunner := ⟨some { interval := .ofMillis 100 }, true⟩
    let job : RefreshJob := ⟨.ofMillis 100, true⟩
    let runs : Nat → RefreshRun := fun _ => ⟨.ofMillis 30, .error .refreshInProgress⟩
    runner.started = some job ∧ 0 < job.interval.nanos ∧
      ∀ a ∈ job.starts runs (some 110000000) (fun _ => true) 5, a ≤ 110000000 := by
  intro runner job runs
  refine ⟨rfl, by decide, ?_⟩
  obtain ⟨-, -, -, hcancelled⟩ :=
    stops_when_cancelled_iff job (by decide) runs (some 110000000) (fun _ => true) 5
  obtain ⟨-, -, hshort⟩ := hcancelled _ rfl rfl
  exact hshort fun _ => by decide

/-- A job whose refreshes take longer than its interval is cancelled during the first one. Where the
tick that is due at its end is taken first, another refresh starts after the cancellation. -/
theorem overrun_is_followed_after_cancellation :
    let job : RefreshJob := ⟨.ofMillis 100, true⟩
    let runs : Nat → RefreshRun := fun _ => ⟨.ofMillis 250, .ok 0⟩
    job.starts runs (some 150000000) (fun _ => true) 2 = [100000000, 350000000] ∧
      ¬∀ a ∈ job.starts runs (some 150000000) (fun _ => true) 2, a ≤ 150000000 := by
  intro job runs
  have hstarts : job.starts runs (some 150000000) (fun _ => true) 2 =
      [100000000, 350000000] := by decide
  refine ⟨hstarts, ?_⟩
  rw [hstarts]
  decide

end DnsFilter.RefreshJob
