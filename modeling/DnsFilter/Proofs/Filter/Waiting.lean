import DnsFilter.Proofs.Filter.Course
/-!
# What is seen while a refresh waits

A step of a refresh changes the published index at most at the filter in turn, and no later step
returns to an earlier filter. So at each wait point the index shows every filter that the refresh is
done with as it will be shown in the end, and every other one as it was before. Other calls are
rejected at every wait point, without a trace.
-/
namespace DnsFilter

def Refresh.position (r : Refresh) : Nat := (r.pending.head?.map Prod.fst).getD 0

theorem Refresh.position_of_pending {r : Refresh} {position : Nat} {f : Filter}
    {rest : List (Nat × Filter)} (h : r.pending = (position, f) :: rest) :
    r.position = position := by
  simp [Refresh.position, h]

namespace Engine

theorem enabled_sorted (e : Engine) : (e.enabled.map Prod.fst).Pairwise (· < ·) := by
  have hsub : (e.enabled.map Prod.fst).Sublist (e.filters.zipIdx.map Prod.snd) := by
    rw [enabled, List.map_map]
    exact List.filter_sublist.map Prod.snd
  refine List.Pairwise.sublist hsub ?_
  rw [List.zipIdx_map_snd]
  exact List.pairwise_lt_range'

theorem publish_frame (e : Engine) {position i : Nat} (h : position ≠ i)
    (g : InService → InService) :
    (e.publish position g).index.entries[i]? = e.index.entries[i]? := by
  cases hc : e.isClosed with
  | true => rw [publish_of_closed hc]
  | false => rw [publish_of_open hc, List.getElem?_modify_ne _ _ h]

end Engine

namespace RefreshCourse

variable {e : Engine} {terms : RefreshTerms} {x : RefreshCourse} {r : Refresh} {i : Nat}

/-! ## The filters before the one in turn -/

/-- What stands before the filter in turn is not touched, and stays behind. -/
theorem advance_frame (hu : x.UnderWay e terms r) (hi : i < r.position) (s : Surroundings)
    (d : Disk) :
    (x.engine.advance s d).engine.index.entries[i]? = x.engine.index.entries[i]? ∧
      ∀ r', (x.engine.advance s d).engine.refresh = some r' → i < r'.position := by
  cases hu.place with
  | start hpending _ _ =>
    rw [Refresh.position, hpending] at hi
    exact absurd hi (Nat.not_lt_zero i)
  | @filter position f rest hpending hplaces hworking =>
    rw [Refresh.position_of_pending hpending] at hi
    have hadvance : x.engine.advance s d = x.engine.work s r position f d := by
      simp [Engine.advance, hu.refresh, hpending]
    have hworks := Engine.work_works (s := s) (d := d) hworking
    rw [hadvance]
    generalize x.engine.work s r position f d = turn at hworks
    generalize x.engine.outcome? s r position f d = outcome at hworks
    cases hworks with
    | goesOn stage d' _ =>
      refine ⟨by rw [Engine.hold_index], fun r' hr' => ?_⟩
      obtain rfl := Engine.of_hold_refresh hr'
      have hsame : ({ r with stage } : Refresh).position = position :=
        Refresh.position_of_pending hpending
      rwa [hsame]
    | ends o isLate d' g _ =>
      refine ⟨?_, fun r' hr' => ?_⟩
      · rw [Engine.hold_index]
        exact Engine.publish_frame _ (Nat.ne_of_gt hi) g
      · -- the next filter stands behind the one that was in turn
        rw [Engine.hold_refresh] at hr'
        split_ifs at hr' with hend
        obtain rfl := Option.some.inj hr'
        have htail : ({ r.pass f o.succeeded with isLate } : Refresh).pending = rest := by
          simp [Refresh.pass, hpending]
        rw [htail] at hend
        obtain ⟨⟨next, g⟩, rest', rfl⟩ := List.exists_cons_of_ne_nil hend
        rw [Refresh.position_of_pending htail]
        have hsorted := e.enabled_sorted
        rw [← hplaces, hpending, List.map_append, List.pairwise_append] at hsorted
        have hnext : position < next :=
          (List.pairwise_cons.mp hsorted.2.1).1 next (by simp)
        exact hi.trans hnext

theorem step_frame (hf : x.Follows e terms) (hr : x.engine.refresh = some r) (hi : i < r.position)
    {m : RefreshEvent} (hopen : (x.step m).engine.isClosed = false) :
    (x.step m).engine.index.entries[i]? = x.engine.index.entries[i]? ∧
      ∀ r', (x.step m).engine.refresh = some r' → i < r'.position := by
  have hsame : ∀ r', x.engine.refresh = some r' → i < r'.position := by
    intro r' hr'
    obtain rfl := Option.some.inj (hr.symm.trans hr')
    exact hi
  unfold step at hopen ⊢
  split_ifs with hresult
  · exact ⟨rfl, hsame⟩
  obtain ⟨r₁, hu⟩ := underWay_of_open hf (by simpa using hresult)
  obtain rfl := Option.some.inj (hr.symm.trans hu.refresh)
  cases m with
  | advance s => exact advance_frame hu hi s x.disk
  | expire =>
    refine ⟨rfl, fun r' hr' => ?_⟩
    simp only [Engine.expire, hr, Option.map_some, Option.some.injEq] at hr'
    subst hr'
    exact hi
  | call terms' =>
    simp only
    rw [call_of_busy hr]
    exact ⟨rfl, hsame⟩
  | close => simp [hresult] at hopen
  | disturb d => exact ⟨rfl, hsame⟩

/-- As long as the engine stays open, what a refresh is done with is not changed any more. -/
theorem run_frame (hf : x.Follows e terms) (hr : x.engine.refresh = some r) (hi : i < r.position)
    {events : List RefreshEvent} (hopen : (x.run events).engine.isClosed = false) :
    (x.run events).engine.index.entries[i]? = x.engine.index.entries[i]? := by
  induction events generalizing x r with
  | nil => rfl
  | cons m events ih =>
    have hstep : (x.step m).engine.isClosed = false := open_of_run hopen
    obtain ⟨hentry, hnext⟩ := step_frame hf hr hi hstep
    change ((x.step m).run events).engine.index.entries[i]? = _
    have hfollows := step_follows hf m
    cases hresult : (x.step m).result with
    | some result => rw [run_of_ended (by simp [hresult]), hentry]
    | none =>
      obtain ⟨r', hu'⟩ := underWay_of_open hfollows hresult
      rw [ih hfollows hu'.refresh (hnext r' hu'.refresh) hopen, hentry]

/-! ## The filters from the one in turn on -/

/-- What a refresh is not done with is shown as it was at the start. -/
theorem shown_ahead (hf : x.Follows e terms) (hu : x.UnderWay e terms r)
    (hopen : x.engine.isClosed = false) (hi : r.position ≤ i) :
    x.engine.index.entries[i]? = e.index.entries[i]? := by
  refine shown_unfinished hf hopen fun y hy => ?_
  cases hu.place with
  | start _ hfinished _ => simp [hfinished] at hy
  | @filter position f rest hpending hplaces _ =>
    rw [Refresh.position_of_pending hpending] at hi
    have hsorted := e.enabled_sorted
    rw [← hplaces, hpending, List.map_append, List.pairwise_append] at hsorted
    have hbefore : y.position < position := by
      refine hsorted.2.2 y.position ?_ position (by simp)
      exact List.mem_map.mpr ⟨y.place, List.mem_map_of_mem hy, rfl⟩
    omega

/-! ## Other calls -/

/-- Everything but the answers to the other calls. -/
def unheard (x : RefreshCourse) : RefreshCourse := { x with answers := [] }

theorem step_unheard (x : RefreshCourse) (m : RefreshEvent) (h : m.isCall = false) :
    x.unheard.step m = (x.step m).unheard := by
  unfold step
  have hresult : x.unheard.result = x.result := rfl
  rw [hresult]
  split_ifs
  · rfl
  cases m with
  | call terms' => cases h
  | _ => rfl

theorem step_call (hf : x.Follows e terms) (terms' : RefreshTerms) :
    (x.step (.call terms')).unheard = x.unheard ∧
      ∀ a ∈ (x.step (.call terms')).answers, a ∈ x.answers ∨ a = .error .refreshInProgress := by
  unfold step
  split_ifs with hresult
  · exact ⟨rfl, fun a ha => .inl ha⟩
  obtain ⟨r, hu⟩ := underWay_of_open hf (by simpa using hresult)
  simp only
  rw [call_of_busy hu.refresh]
  refine ⟨rfl, fun a ha => ?_⟩
  simpa using ha

theorem step_answers {m : RefreshEvent} (h : m.isCall = false) :
    (x.step m).answers = x.answers := by
  unfold step
  split_ifs
  · rfl
  cases m with
  | call terms' => cases h
  | _ => rfl

/-- Without the other calls a refresh takes the same course. -/
theorem run_without_calls (hf : x.Follows e terms) (events : List RefreshEvent) :
    (x.unheard.run (events.filter (!·.isCall))) = (x.run events).unheard := by
  induction events generalizing x with
  | nil => rfl
  | cons m events ih =>
    have hrest := ih (step_follows hf m)
    cases hm : m.isCall with
    | true =>
      rw [List.filter_cons_of_neg (by simp [hm])]
      cases m with
      | call terms' =>
        rw [(step_call hf terms').1] at hrest
        exact hrest
      | _ => cases hm
    | false =>
      rw [List.filter_cons_of_pos (by simp [hm])]
      change (x.unheard.step m).run _ = _
      rw [step_unheard x m hm]
      exact hrest

theorem run_answers (hf : x.Follows e terms) (events : List RefreshEvent) :
    ∀ a ∈ (x.run events).answers, a ∈ x.answers ∨ a = .error .refreshInProgress := by
  induction events generalizing x with
  | nil => exact fun a ha => .inl ha
  | cons m events ih =>
    intro a ha
    rcases ih (step_follows hf m) a ha with hmem | hrejected
    · cases hm : m.isCall with
      | true =>
        cases m with
        | call terms' => exact (step_call hf terms').2 a hmem
        | _ => cases hm
      | false =>
        rw [step_answers hm] at hmem
        exact .inl hmem
    · exact .inr hrejected

/-- At every wait point of a refresh in which the engine is not closed, each filter before the one
in turn is shown as at any later time, and each other one as before the refresh. Every call that is
made there is rejected, and without the calls the refresh ends in the same way. -/
theorem readers_see_whole_filters (terms : RefreshTerms) (e : Engine) (d : Disk)
    (events : List RefreshEvent) (n : Nat) :
    let later := (start terms e d).run events
    let now := (start terms e d).run (events.take n)
    let uncalled := (start terms e d).run (events.filter (!·.isCall))
    later.engine.isClosed = false → now.result = none →
      ∃ r, now.engine.refresh = some r ∧
        (∀ i, now.engine.index.entries[i]? =
          if i < r.position then later.engine.index.entries[i]? else e.index.entries[i]?) ∧
        (∀ terms' d', now.engine.startRefresh terms' d' =
          ⟨now.engine, d', some (.error .refreshInProgress)⟩) ∧
        (∀ answer ∈ later.answers, answer = .error .refreshInProgress) ∧
        uncalled.engine = later.engine ∧ uncalled.disk = later.disk ∧
        uncalled.result = later.result := by
  intro later now uncalled hopen hwaiting
  have hbegun := start_follows (pending_of_run hwaiting)
  have hfollows : now.Follows e terms := run_follows hbegun _
  obtain ⟨r, hu⟩ := underWay_of_open hfollows hwaiting
  have hlater : later = now.run (events.drop n) := by
    rw [← run_append, List.take_append_drop]
  have hnow : now.engine.isClosed = false := open_of_run (hlater ▸ hopen)
  refine ⟨r, hu.refresh, fun i => ?_, fun terms' d' => ?_, fun answer hanswer => ?_, ?_⟩
  · split_ifs with hi
    · rw [hlater, run_frame hfollows hu.refresh hi (hlater ▸ hopen)]
    · exact shown_ahead hfollows hu hnow (Nat.le_of_not_lt hi)
  · exact startRefresh_of_busy hu.refresh terms' d'
  · have hall := run_answers hbegun events answer hanswer
    simpa [start] using hall
  · have hsame : uncalled = later.unheard := run_without_calls hbegun events
    exact ⟨congrArg (·.engine) hsame, congrArg (·.disk) hsame, congrArg (·.result) hsame⟩

/-- An enabled filter behind one that is not. -/
def trioOfFilters : List Filter :=
  Engine.pairOfFilters ++
    [{ id := 3, name := "Trackers", locator := .http "http://lists.example/trackers.txt",
       enabled := true }]

/-- A refresh while every server answers with one text, with another call at each wait point. -/
def eventsWithCalls : List RefreshEvent :=
  let server : Surroundings :=
    ⟨fun _ => .answered 200 none [Utf8.encode "||a.example^".toList] .complete, default⟩
  (List.replicate 9
    [.advance server, .call { cacheDir := "other", maxSize := 1, scratch := [] }]).flatten

theorem readers_see_first_filter :
    let terms : RefreshTerms := { cacheDir := "cache", maxSize := 100, scratch := [0] }
    let e := Engine.ofFilters "test" trioOfFilters
    let later := (start terms e {}).run eventsWithCalls
    let now := (start terms e {}).run (eventsWithCalls.take 10)
    let uncalled := (start terms e {}).run (eventsWithCalls.filter (!·.isCall))
    later.engine.isClosed = false ∧ now.result = none ∧ later.result = some (.ok ()) ∧
      now.engine.index.entries.map (fun y => y.rules.map (·.texts)) =
        [some ["||a.example^"], none, none] ∧
      ∃ r, now.engine.refresh = some r ∧
        (∀ i, now.engine.index.entries[i]? =
          if i < r.position then later.engine.index.entries[i]? else e.index.entries[i]?) ∧
        (∀ terms' d', now.engine.startRefresh terms' d' =
          ⟨now.engine, d', some (.error .refreshInProgress)⟩) ∧
        (∀ answer ∈ later.answers, answer = .error .refreshInProgress) ∧
        uncalled.engine = later.engine ∧ uncalled.disk = later.disk ∧
        uncalled.result = later.result := by
  intro terms e later now uncalled
  have hopen : later.engine.isClosed = false := by decide +kernel
  have hwaiting : now.result = none := by decide +kernel
  exact ⟨hopen, hwaiting, by decide +kernel, by decide +kernel,
    readers_see_whole_filters terms e {} eventsWithCalls 10 hopen hwaiting⟩

end RefreshCourse
end DnsFilter
