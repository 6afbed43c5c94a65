import DnsFilter.Proofs.Filter.Session
/-!
# Courses of a refresh

One refresh with everything that may happen at its wait points: it goes on, its deadline passes,
another refresh is asked for, the engine is closed, or others change the disk. The disk is carried
along, and beside it a record of what was fetched, of what could not be saved, and of the answers to
the other calls. When the refresh has ended, nothing belongs to its course any more.
-/
namespace DnsFilter

/-- A filter whose source was asked, and what it gave. -/
structure Visit where
  position : Nat
  filter : Filter
  source : Attempt

def Visit.place (v : Visit) : Nat × Filter := (v.position, v.filter)

def Refresh.saves (r : Refresh) (f : Filter) (d : Disk) : Bool :=
  match r.stage with
  | .caching content => (d.write (r.temporaryPath f) content).isOk
  | .renaming _ => (d.rename (r.temporaryPath f) (r.cachePath f)).isOk
  | _ => true

namespace Engine

/-- The source that is asked in the next step. -/
def visit? (s : Surroundings) (e : Engine) (d : Disk) : Option Visit :=
  e.refresh.bind fun r => r.pending.head?.bind fun p =>
    if r.stage = .fetching then some ⟨p.1, p.2, fetch s r p.2 d⟩ else none

def unsaved? (e : Engine) (d : Disk) : Option Filter :=
  e.refresh.bind fun r => r.pending.head?.bind fun p =>
    if r.saves p.2 d then none else some p.2

theorem settle_isClosed (s : Surroundings) (e : Engine) (r : Refresh) (position : Nat) (f : Filter)
    (content : Bytes) (isFresh : Bool) (d : Disk) :
    (settle s e r position f content isFresh d).engine.isClosed = e.isClosed := by
  rw [settle_eq]
  split_ifs <;> simp

theorem work_isClosed (s : Surroundings) (e : Engine) (r : Refresh) (position : Nat) (f : Filter)
    (d : Disk) : (work s e r position f d).engine.isClosed = e.isClosed := by
  unfold work prepare fetchFailed
  repeat' split
  all_goals simp [settle_isClosed]

theorem advance_isClosed (s : Surroundings) (e : Engine) (d : Disk) :
    (e.advance s d).engine.isClosed = e.isClosed := by
  unfold advance
  repeat' split
  · rfl
  · unfold prepare
    split <;> simp
  · exact work_isClosed ..

end Engine

structure RefreshCourse extends RefreshHistory where
  disk : Disk
  visits : List Visit := []
  contents : List Bytes := []
  unsaved : List Filter := []
  answers : List (Except Failure Unit) := []

namespace RefreshCourse

def start (terms : RefreshTerms) (e : Engine) (d : Disk) : RefreshCourse :=
  { RefreshHistory.start terms e with disk := d }

/-- The refresh goes on to its next wait point. -/
def advance (x : RefreshCourse) (s : Surroundings) : RefreshCourse where
  toRefreshHistory := x.toRefreshHistory.advance s x.disk
  disk := (x.engine.advance s x.disk).disk
  visits := x.visits ++ (x.engine.visit? s x.disk).toList
  contents := x.contents ++ (x.engine.obtains s x.disk).toList
  unsaved := x.unsaved ++ (x.engine.unsaved? x.disk).toList
  answers := x.answers

/-- The engine and the disk as a call for another refresh leaves them, with its answer. -/
def call (x : RefreshCourse) (terms : RefreshTerms) : RefreshCourse :=
  let turn := x.engine.startRefresh terms x.disk
  { x with engine := turn.engine, disk := turn.disk, answers := x.answers ++ turn.result.toList }

def step (x : RefreshCourse) (m : RefreshEvent) : RefreshCourse :=
  if x.result.isSome then x
  else
    match m with
    | .advance s => x.advance s
    | .expire => { x with engine := x.engine.expire }
    | .call terms => x.call terms
    | .close => { x with engine := x.engine.close }
    | .disturb d => { x with disk := d }

def run (x : RefreshCourse) (events : List RefreshEvent) : RefreshCourse := events.foldl step x

variable {e : Engine} {terms : RefreshTerms} {x : RefreshCourse} {r : Refresh}

/-! ## Runs -/

theorem run_append (x : RefreshCourse) (front back : List RefreshEvent) :
    x.run (front ++ back) = (x.run front).run back := List.foldl_append

theorem step_of_ended (h : x.result.isSome = true) (m : RefreshEvent) : x.step m = x := if_pos h

theorem run_of_ended (h : x.result.isSome = true) (events : List RefreshEvent) :
    x.run events = x := by
  induction events with
  | nil => rfl
  | cons m events ih =>
    change (x.step m).run events = x
    rw [step_of_ended h, ih]

theorem pending_of_run {events : List RefreshEvent} (h : (x.run events).result = none) :
    x.result = none := by
  cases hresult : x.result with
  | none => rfl
  | some result =>
    rw [run_of_ended (by simp [hresult])] at h
    exact absurd h (by simp [hresult])

/-! ## Closing -/

theorem step_isClosed (h : x.engine.isClosed = true) (m : RefreshEvent) :
    (x.step m).engine.isClosed = true := by
  unfold step
  split_ifs
  · exact h
  cases m with
  | advance s => exact (Engine.advance_isClosed s x.engine x.disk).trans h
  | expire => exact h
  | call terms' =>
    simp only [call, Engine.startRefresh]
    split_ifs <;> exact h
  | close => exact Engine.close_isClosed x.engine
  | disturb d => exact h

theorem run_isClosed (h : x.engine.isClosed = true) (events : List RefreshEvent) :
    (x.run events).engine.isClosed = true := by
  induction events generalizing x with
  | nil => exact h
  | cons m events ih => exact ih (step_isClosed h m)

theorem open_of_run {events : List RefreshEvent} (h : (x.run events).engine.isClosed = false) :
    x.engine.isClosed = false := by
  cases hc : x.engine.isClosed with
  | false => rfl
  | true => exact absurd (run_isClosed hc events) (by simp [h])

/-! ## What is known at each wait point -/

theorem underWay_expire (hu : x.UnderWay e terms r) :
    RefreshHistory.UnderWay e terms { x.toRefreshHistory with engine := x.engine.expire }
      { r with isLate := true } := by
  refine ⟨?_, hu.result, hu.terms, hu.failed, ?_⟩
  · simp [Engine.expire, hu.refresh]
  · cases hu.place with
    | start hpending hfinished hfilters => exact .start hpending hfinished hfilters
    | filter hpending hplaces hworking => exact .filter hpending hplaces hworking

/-- A call at a wait point is rejected and changes nothing. -/
theorem startRefresh_of_busy (hu : x.engine.refresh = some r) (terms' : RefreshTerms) (d : Disk) :
    x.engine.startRefresh terms' d = ⟨x.engine, d, some (.error .refreshInProgress)⟩ := by
  simp [Engine.startRefresh, hu]

theorem call_of_busy (hu : x.engine.refresh = some r) (terms' : RefreshTerms) :
    x.call terms' = { x with answers := x.answers ++ [.error .refreshInProgress] } := by
  rw [call, startRefresh_of_busy hu]
  rfl

theorem underWay_of_open (hf : x.Follows e terms) (hresult : x.result = none) :
    ∃ r, x.UnderWay e terms r := by
  rcases hf.phase with hu | hended
  · exact hu
  · cases hended with
    | unprepared _ hfailed => exact absurd (hfailed.symm.trans hresult) (by simp)
    | complete _ _ hall => exact absurd (hall.symm.trans hresult) (by simp)

theorem step_follows (hf : x.Follows e terms) (m : RefreshEvent) : (x.step m).Follows e terms := by
  unfold step
  split_ifs with hresult
  · exact hf
  obtain ⟨r, hu⟩ := underWay_of_open hf (by simpa using hresult)
  cases m with
  | advance s => exact RefreshHistory.advance_follows hf s x.disk
  | expire => exact ⟨hf.shows.congr rfl rfl rfl, .inl ⟨_, underWay_expire hu⟩⟩
  | call terms' =>
    simp only
    rw [call_of_busy hu.refresh]
    exact hf
  | close => exact RefreshHistory.close_follows hf
  | disturb d => exact hf

theorem run_follows (hf : x.Follows e terms) (events : List RefreshEvent) :
    (x.run events).Follows e terms := by
  induction events generalizing x with
  | nil => exact hf
  | cons m events ih => exact ih (step_follows hf m)

/-- A filter that is not finished is shown as it was at the start. -/
theorem shown_unfinished (hf : x.Follows e terms) (hopen : x.engine.isClosed = false) {i : Nat}
    (hi : ∀ y ∈ x.finished, y.position ≠ i) :
    x.engine.index.entries[i]? = e.index.entries[i]? := by
  have hnone : x.outcomeAt? i = none := by
    rw [RefreshHistory.outcomeAt?, List.find?_eq_none.mpr fun y hy => by simpa using hi y hy]
    rfl
  have hid : x.effect terms i = id := by
    funext y
    simp [RefreshHistory.effect, hnone]
  rw [hf.shows.while_open hopen, hid, Option.map_id]
  rfl

/-! ## The start -/

theorem start_of_idle (hidle : e.refresh = none) (hopen : e.isClosed = false) (d : Disk) :
    start terms e d =
      { engine := { e with refresh := some { terms, isLate := terms.isLate } }, disk := d } := by
  simp [start, RefreshHistory.start, Engine.startRefresh, hidle, hopen]

theorem idle_of_start {d : Disk} (h : (start terms e d).result = none) :
    e.refresh = none ∧ e.isClosed = false := by
  have hbegun : (e.startRefresh terms {}).result = none := h
  unfold Engine.startRefresh at hbegun
  split_ifs at hbegun with hbusy hclosed
  exact ⟨by simpa using hbusy, by simpa using hclosed⟩

/-- A refresh that is refused says that another one is under way or that the engine is closed. -/
theorem begun_of_result {d : Disk} {events : List RefreshEvent} {result : Except Failure Unit}
    (h : ((start terms e d).run events).result = some result)
    (hbusy : result ≠ .error .refreshInProgress) (hclosed : result ≠ .error .engineClosed) :
    (start terms e d).result = none := by
  cases hstart : (start terms e d).result with
  | none => rfl
  | some refused =>
    rw [run_of_ended (by simp [hstart])] at h
    have hresult : (e.startRefresh terms {}).result = some result := h
    unfold Engine.startRefresh at hresult
    split_ifs at hresult
    · exact absurd (Option.some.inj hresult).symm hbusy
    · exact absurd (Option.some.inj hresult).symm hclosed

theorem start_follows {d : Disk} (h : (start terms e d).result = none) :
    (start terms e d).Follows e terms :=
  RefreshHistory.start_follows (idle_of_start h).1 (idle_of_start h).2

theorem start_underWay {d : Disk} (h : (start terms e d).result = none) :
    (start terms e d).UnderWay e terms { terms, isLate := terms.isLate } := by
  obtain ⟨hidle, hopen⟩ := idle_of_start h
  rw [start_of_idle hidle hopen]
  exact ⟨rfl, rfl, rfl, rfl, .start rfl rfl rfl⟩

theorem idle_of_ended (hf : x.Follows e terms) (h : x.result.isSome = true) :
    x.engine.refresh = none := by
  rcases hf.phase with ⟨r, hu⟩ | hended
  · simp [hu.result] at h
  · cases hended <;> assumption

end RefreshCourse
end DnsFilter
