import DnsFilter.Filter.Service
import DnsFilter.Proofs.Filter.Closing
import DnsFilter.Proofs.Filter.Failing
import DnsFilter.Proofs.Filter.Life
import DnsFilter.Proofs.Filter.Steps
/-!
# Reports of refreshes

A refresh in which no filter failed reports how many filters are live: the enabled ones of which a
checksum is known. As long as the engine is open, these are the ones with rules in service. Closing
drops the rules and leaves the checksums, so a refresh that ends behind it reports what had been in
service.
-/
namespace DnsFilter

def InService.isServing (x : InService) : Bool := x.filter.enabled && x.rules.isSome

namespace Engine

def servingCount (e : Engine) : Nat := e.index.entries.countP (·.isServing)

variable {e e' : Engine} {filters : List Filter} {contents : Set Bytes}

theorem liveCount_eq (e : Engine) :
    e.liveCount = e.index.entries.countP (fun x => x.filter.enabled && x.filter.isCompiled) := by
  rw [liveCount, filters, FilterIndex.filters, List.countP_map]
  rfl

theorem liveCount_congr (h : e'.filters = e.filters) : e'.liveCount = e.liveCount := by
  rw [liveCount, liveCount, h]

theorem Publishes.liveCount_eq (he : e.Publishes filters contents) (hopen : e.isClosed = false) :
    e.liveCount = e.servingCount := by
  rw [Engine.liveCount_eq, servingCount]
  refine List.countP_congr fun x hx => ?_
  obtain ⟨position, hposition⟩ := List.mem_iff_getElem?.mp hx
  have hiff := (he.while_open hopen position x hposition).isDescribed.isSome_iff
  simp only [InService.isServing, Filter.isCompiled, Bool.and_eq_true, hiff]

theorem servingCount_of_no_rules (h : ∀ position, e.index.rulesAt? position = none) :
    e.servingCount = 0 := by
  rw [servingCount, List.countP_eq_zero]
  intro x hx
  obtain ⟨position, hposition⟩ := List.mem_iff_getElem?.mp hx
  have hnone : x.rules = none := by simpa [FilterIndex.rulesAt?, hposition] using h position
  simp [InService.isServing, hnone]

end Engine

/-- A filter that was fetched has rules in service, and their checksum is known. -/
theorem FilterOutcome.apply_succeeded {o : FilterOutcome} (ho : o.succeeded = true)
    (terms : RefreshTerms) (x : InService) :
    (o.apply terms x).rules.isSome = true ∧ (o.apply terms x).filter.isCompiled = true := by
  cases o with
  | failed => cases ho
  | recalled content => cases ho
  | fetched content time =>
    simp only [apply]
    split_ifs with hcurrent
    · simp only [InService.isCurrent, Bool.and_eq_true, beq_iff_eq] at hcurrent
      obtain ⟨⟨-, hrules⟩, hchecksum⟩ := hcurrent
      exact ⟨hrules, by simp [Filter.isCompiled, Engine.renewed, hchecksum]⟩
    · exact ⟨rfl, rfl⟩

namespace RefreshCourse

variable {terms : RefreshTerms} {e : Engine} {d : Disk} {x : RefreshCourse}

def report (x : RefreshCourse) : Option (Except Failure Nat) :=
  x.result.map (FilterService.report x.engine)

theorem report_eq_ok_iff {n : Nat} :
    x.report = some (.ok n) ↔ x.result = some (.ok ()) ∧ n = x.engine.liveCount := by
  rw [report]
  rcases x.result with _ | failure | _
  · simp
  · simp [FilterService.report, Except.map]
  · simp [FilterService.report, Except.map, eq_comm]

/-! ## Refreshes without failures -/

theorem succeeded_of_ok (hf : x.Follows e terms) (hresult : x.result = some (.ok ())) :
    x.finished.map Finished.place = e.enabled ∧
      ∀ y ∈ x.finished, y.outcome.succeeded = true := by
  rcases hf.phase with ⟨r, hu⟩ | hended
  · cases hu.result.symm.trans hresult
  · cases hended with
    | unprepared _ hfiles => cases hfiles.symm.trans hresult
    | complete _ hplaces hnames =>
      rw [hresult] at hnames
      split_ifs at hnames with hnone
      · refine ⟨hplaces, fun y hy => ?_⟩
        have hfailed := List.filter_eq_nil_iff.mp (List.map_eq_nil_iff.mp hnone) y hy
        simpa using hfailed
      · cases hnames

theorem effect_enabled (h : RefreshHistory) (terms : RefreshTerms) (position : Nat)
    (y : InService) : (h.effect terms position y).filter.enabled = y.filter.enabled := by
  unfold RefreshHistory.effect
  split
  · exact (FilterOutcome.apply_filter ..).1
  · rfl

/-- When no filter failed and the engine is open, every enabled filter is in service. -/
theorem serves_all (hf : x.Follows e terms) (hresult : x.result = some (.ok ()))
    (hopen : x.engine.isClosed = false) {y : InService} (hy : y ∈ x.engine.index.entries)
    (henabled : y.filter.enabled = true) :
    y.rules.isSome = true ∧ y.filter.isCompiled = true := by
  obtain ⟨hplaces, hsucceeded⟩ := succeeded_of_ok hf hresult
  obtain ⟨position, hposition⟩ := List.mem_iff_getElem?.mp hy
  have hshown := hf.shows.while_open hopen position
  rw [hposition] at hshown
  obtain ⟨before, hbefore, rfl⟩ := Option.map_eq_some_iff.mp hshown.symm
  rw [effect_enabled] at henabled
  have hmem := Engine.enabled_of_entry hbefore henabled
  rw [← hplaces] at hmem
  obtain ⟨z, hz, hplace⟩ := List.mem_map.mp hmem
  obtain ⟨rfl, -⟩ := Prod.mk.inj hplace
  obtain ⟨w, -, -, hw⟩ := RefreshHistory.shown_finished hf.shows hplaces hopen hz
  rw [Option.some.inj (hposition.symm.trans hw)]
  exact FilterOutcome.apply_succeeded (hsucceeded z hz) terms w

theorem counts_of_open (hf : x.Follows e terms) (hresult : x.result = some (.ok ()))
    (hopen : x.engine.isClosed = false) :
    x.engine.liveCount = x.engine.filters.countP (·.enabled) ∧
      x.engine.servingCount = x.engine.filters.countP (·.enabled) := by
  rw [Engine.liveCount_eq, Engine.servingCount, Engine.filters, FilterIndex.filters,
    List.countP_map]
  constructor
  · refine List.countP_congr fun y hy => ?_
    simpa using fun henabled => (serves_all hf hresult hopen hy henabled).2
  · refine List.countP_congr fun y hy => ?_
    simpa [InService.isServing] using fun henabled => (serves_all hf hresult hopen hy henabled).1

/-! ## Refreshes of an engine that is closed meanwhile -/

theorem step_engine (h : x.result = none) (m : RefreshEvent) :
    (x.step m).engine = (x.engine.handle x.disk m).engine := by
  unfold step
  rw [if_neg (by simp [h])]
  cases m <;> rfl

theorem start_open (h : (start terms e d).result = none) :
    (start terms e d).engine.isClosed = false := by
  obtain ⟨hidle, hopen⟩ := idle_of_start h
  rwa [start_of_idle hidle hopen]

theorem run_index_of_closed (h : x.engine.isClosed = true) (events : List RefreshEvent) :
    (x.run events).engine.index = x.engine.index := by
  induction events generalizing x with
  | nil => rfl
  | cons m events ih =>
    refine (ih (step_isClosed h m)).trans ?_
    cases hresult : x.result with
    | some result => rw [step_of_ended (by simp [hresult])]
    | none =>
      rw [step_engine hresult]
      exact Engine.handle_index_of_closed h x.disk m

/-- An engine that is open at first is closed by one of the events, while the refresh is still
under way. -/
theorem exists_close {events : List RefreshEvent} (hopen : x.engine.isClosed = false)
    (hclosed : (x.run events).engine.isClosed = true) :
    ∃ before after, events = before ++ .close :: after ∧ (x.run before).result = none ∧
      (x.run before).engine.isClosed = false := by
  induction events generalizing x with
  | nil => cases hopen.symm.trans hclosed
  | cons m events ih =>
    have hresult : x.result = none := by
      cases hresult : x.result with
      | none => rfl
      | some result =>
        rw [run_of_ended (by simp [hresult])] at hclosed
        cases hopen.symm.trans hclosed
    cases hstep : (x.step m).engine.isClosed with
    | false =>
      obtain ⟨before, after, rfl, hbefore⟩ := ih hstep hclosed
      exact ⟨m :: before, after, rfl, hbefore⟩
    | true =>
      rw [step_engine hresult] at hstep
      rcases (Engine.handle_isClosed_iff x.engine x.disk m).mp hstep with hc | rfl
      · cases hopen.symm.trans hc
      · exact ⟨[], events, rfl, hresult, hopen⟩

theorem open_of_unclosed (hopen : x.engine.isClosed = false) (events : List RefreshEvent)
    (h : .close ∉ events) : (x.run events).engine.isClosed = false := by
  cases hclosed : (x.run events).engine.isClosed with
  | false => rfl
  | true =>
    obtain ⟨before, after, rfl, -⟩ := exists_close hopen hclosed
    exact absurd (List.mem_append_right before List.mem_cons_self) h

theorem liveCount_of_close {before after : List RefreshEvent}
    (hresult : (x.run before).result = none) :
    (x.run (before ++ .close :: after)).engine.liveCount = (x.run before).engine.liveCount := by
  have hengine : ((x.run before).step .close).engine = (x.run before).engine.close :=
    step_engine hresult .close
  have hclosed : ((x.run before).step .close).engine.isClosed = true := by simp [hengine]
  have hindex := run_index_of_closed hclosed after
  rw [run_append]
  apply Engine.liveCount_congr
  change (((x.run before).step .close).run after).engine.filters = _
  rw [Engine.filters, hindex, hengine]
  exact Engine.close_filters _

/-! ## Refreshes without interruption -/

def turn (x : RefreshCourse) : Turn := ⟨x.engine, x.disk, x.result⟩

/-- A refresh that is let go on until it ends is a course in which nothing else happens. -/
theorem advanceMany_eq (s : Surroundings) (n : Nat) (hresult : x.result = none) :
    x.engine.advanceMany s n x.disk = (x.run (List.replicate n (.advance s))).turn := by
  induction n generalizing x with
  | zero => simp [Engine.advanceMany, run, turn, hresult]
  | succ n ih =>
    have hstep : x.step (.advance s) = x.advance s := if_neg (by simp [hresult])
    have hrun : x.run (List.replicate (n + 1) (.advance s)) =
        (x.advance s).run (List.replicate n (.advance s)) := by
      rw [List.replicate_succ, ← hstep]
      rfl
    have hturn : x.engine.advance s x.disk = (x.advance s).turn := by
      simp [turn, advance, RefreshHistory.advance, hresult]
    rw [hrun, Engine.advanceMany, hturn]
    cases hmore : (x.advance s).result with
    | some result =>
      rw [run_of_ended (by simp [hmore])]
      exact if_pos (by simp [turn, hmore])
    | none =>
      refine (if_neg (by simp [turn, hmore])).trans ?_
      exact ih hmore

theorem refreshAll_eq (terms : RefreshTerms) (s : Surroundings) (e : Engine) (d : Disk) :
    e.refreshAll terms s d =
      ((start terms e d).run (List.replicate e.stepLimit (.advance s))).turn := by
  have hstart : e.startRefresh terms d = (start terms e d).turn := by
    unfold start RefreshHistory.start Engine.startRefresh
    split_ifs <;> rfl
  rw [Engine.refreshAll, hstart]
  cases hbegun : (start terms e d).result with
  | some result =>
    rw [run_of_ended (by simp [hbegun])]
    exact if_pos (by simp [turn, hbegun])
  | none =>
    obtain ⟨hidle, hopen⟩ := idle_of_start hbegun
    have hlimit : (start terms e d).engine.stepLimit = e.stepLimit := by
      rw [start_of_idle hidle hopen]
      rfl
    refine (if_neg (by simp [turn, hbegun])).trans ?_
    rw [← hlimit]
    exact advanceMany_eq s _ hbegun

theorem refresh_report (v : FilterService) (s : Surroundings) (d : Disk) :
    let x := (start v.terms v.engine d).run (List.replicate v.engine.stepLimit (.advance s))
    x.report = some (v.refresh s d).1 ∧ (v.refresh s d).2.1.engine = x.engine := by
  intro x
  have hended : x.result.isSome = true := by
    cases hbegun : (start v.terms v.engine d).result with
    | some result =>
      have hsame : x = start v.terms v.engine d := run_of_ended (by simp [hbegun]) _
      simp [hsame, hbegun]
    | none =>
      apply run_ends_of_stepLimit hbegun
      rw [List.countP_replicate]
      exact Nat.le_of_eq (if_pos rfl).symm
  obtain ⟨result, hresult⟩ := Option.isSome_iff_exists.mp hended
  have hturn : v.engine.refreshAll v.terms s d = x.turn := refreshAll_eq ..
  rw [FilterService.refresh, hturn]
  simp [report, turn, hresult]

/-- A refresh of a service that is left alone, in which no filter fails, reports how many filters
have rules in service. These are all enabled ones. -/
theorem refresh_counts_enabled {v : FilterService} {s : Surroundings} {d : Disk} {n : Nat}
    (h : (v.refresh s d).1 = .ok n) :
    n = (v.refresh s d).2.1.engine.servingCount ∧
      n = (v.refresh s d).2.1.engine.filters.countP (·.enabled) := by
  obtain ⟨hreport, hengine⟩ := refresh_report v s d
  rw [h] at hreport
  obtain ⟨hresult, hn⟩ := report_eq_ok_iff.mp hreport
  have hbegun := begun_of_result hresult (by simp) (by simp)
  have hopen := open_of_unclosed (start_open hbegun)
    (List.replicate v.engine.stepLimit (.advance s)) fun hmem =>
      absurd (List.eq_of_mem_replicate hmem) (by simp)
  obtain ⟨hlive, hserving⟩ := counts_of_open (run_follows (start_follows hbegun) _) hresult hopen
  rw [hengine, hn, hlive, hserving]
  exact ⟨rfl, rfl⟩

/-! ## Reports -/

/-- In any state of an engine, and whatever happens while a refresh is under way: if it ends without
failures and reports a count, this is the count of the filters with rules in service exactly if the
engine has not been closed, or if it is zero. While the engine is open, these are all enabled
filters. Otherwise the engine was closed during the refresh, and the count is the one of the moment
before. -/
theorem report_counts_in_service_iff (name : String) (filters : List Filter) (d : Disk)
    (past : List RefreshEvent) (terms : RefreshTerms) (events : List RefreshEvent) {n : Nat} :
    let h := (EngineHistory.ofFilters name filters d).run past
    let x := (start terms h.engine h.disk).run events
    x.report = some (.ok n) →
      (n = x.engine.servingCount ↔ x.engine.isClosed = false ∨ n = 0) ∧
      (x.engine.isClosed = false → n = x.engine.filters.countP (·.enabled)) ∧
      (x.engine.isClosed = true → ∃ before after, events = before ++ .close :: after ∧
        let y := (start terms h.engine h.disk).run before
        y.result = none ∧ y.engine.isClosed = false ∧ n = y.engine.liveCount ∧
          ((∀ f ∈ filters, f.configured = f) → n = y.engine.servingCount)) := by
  intro h x hreport
  obtain ⟨hresult, hn⟩ := report_eq_ok_iff.mp hreport
  have hbegun := begun_of_result hresult (by simp) (by simp)
  have hf : x.Follows h.engine terms := run_follows (start_follows hbegun) events
  cases hclosed : x.engine.isClosed with
  | false =>
    obtain ⟨hlive, hserving⟩ := counts_of_open hf hresult hclosed
    simp [hn, hlive, hserving]
  | true =>
    have hnone := Engine.servingCount_of_no_rules (hf.shows.when_closed hclosed)
    obtain ⟨before, after, rfl, hunder, hbefore⟩ := exists_close (start_open hbegun) hclosed
    have hcount := hn.trans (liveCount_of_close hunder)
    refine ⟨by simp [hnone], by simp, fun _ => ⟨before, after, rfl, hunder, hbefore, hcount,
      fun hfilters => hcount.trans ?_⟩⟩
    have hstart : h.engine.IsSound filters Set.univ :=
      EngineHistory.run_sound (Engine.ofFilters_sound name hfilters Set.univ) past
    have hsound := run_sound (start_sound hstart terms h.disk) before fun _ _ => Set.mem_univ _
    exact hsound.publishes.liveCount_eq hbefore

/-- A list that is switched off, and a local one. -/
def ownFilters : List Filter :=
  [{ id := 1, name := "Remote", locator := .http "http://lists.example/one.txt", enabled := false },
    { id := 2, name := "Own", locator := .file "own.txt", enabled := true }]

def secondRefresh (events : List RefreshEvent) : RefreshCourse :=
  let terms : RefreshTerms := { cacheDir := "cache", maxSize := 100, scratch := [0] }
  let h := (EngineHistory.ofFilters "test" ownFilters
    ⟨[(["own.txt"], .plain (Utf8.encode "||a.example^".toList))]⟩).run
      (EngineHistory.refreshWith "" 5)
  (start terms h.engine h.disk).run events

theorem closed_refresh_reports_count_before :
    let events := EngineHistory.advances "" 1 ++ .close :: EngineHistory.advances "" 4
    let x := secondRefresh events
    (∀ f ∈ ownFilters, f.configured = f) ∧ x.engine.isClosed = true ∧ x.report = some (.ok 1) ∧
      (1 = x.engine.servingCount ↔ x.engine.isClosed = false ∨ 1 = 0) ∧
      ∃ before after, events = before ++ .close :: after ∧
        (secondRefresh before).result = none ∧ (secondRefresh before).engine.isClosed = false ∧
        1 = (secondRefresh before).engine.servingCount := by
  intro events x
  have hfilters : ∀ f ∈ ownFilters, f.configured = f := by decide
  obtain ⟨hclosed, hreport⟩ : x.engine.isClosed = true ∧ x.report = some (.ok 1) := by
    decide +kernel
  obtain ⟨hiff, -, hbefore⟩ := report_counts_in_service_iff "test" ownFilters
    ⟨[(["own.txt"], .plain (Utf8.encode "||a.example^".toList))]⟩
    (EngineHistory.refreshWith "" 5)
    { cacheDir := "cache", maxSize := 100, scratch := [0] } events hreport
  obtain ⟨before, after, hevents, hresult, hopen, -, hcount⟩ := hbefore hclosed
  exact ⟨hfilters, hclosed, hreport, hiff, before, after, hevents, hresult, hopen,
    hcount hfilters⟩

/-- A refresh of an engine that was closed meanwhile reports a live filter, and none has rules in
service. -/
theorem closed_refresh_reports_missing_filter :
    let x := secondRefresh (EngineHistory.advances "" 1 ++ .close :: EngineHistory.advances "" 4)
    x.report = some (.ok 1) ∧ x.engine.servingCount = 0 := by
  decide +kernel

end RefreshCourse
end DnsFilter
