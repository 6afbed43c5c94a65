import Mathlib.Data.Set.Function
import DnsFilter.Proofs.Filter.Accounts
import DnsFilter.Proofs.Filter.Failing
/-!
# The outcome of a refresh

A refresh that goes on often enough ends, and it reports the filters that could not be fetched. Each
filter is in service then with what its own source gave, or its own cached copy, or as before.
-/
namespace DnsFilter

/-! ## One filter -/

namespace InService

variable {contents : Set Bytes} {content : Bytes} {before : InService}

/-- Where no two contents have one digest, the rules of a current filter are those of the content. -/
theorem isFrom_of_current (hinj : Set.InjOn Sha256.hexDigest contents)
    (hbefore : before.IsMade contents) (hcontent : content ∈ contents) {terms : RefreshTerms}
    (hcurrent : before.isCurrent terms content = true) : before.IsFrom content := by
  simp only [isCurrent, Bool.and_eq_true, beq_iff_eq] at hcurrent
  obtain ⟨⟨-, hsome⟩, hchecksum⟩ := hcurrent
  cases hbefore with
  | vacant hrules _ => simp [hrules] at hsome
  | made c hc _ hfrom =>
    have hdigest : Sha256.hexDigest c = Sha256.hexDigest content :=
      Option.some.inj (hfrom.checksum.symm.trans hchecksum)
    obtain rfl : c = content := hinj hc hcontent hdigest
    exact hfrom

theorem IsFrom.renewed (h : before.IsFrom content) (time : Timestamp) :
    (Engine.renewed time before).IsFrom content :=
  ⟨h.rules, h.sizeBytes, h.checksum, h.rulesCount⟩

theorem apply_fetched (hinj : Set.InjOn Sha256.hexDigest contents)
    (hbefore : before.IsMade contents) (hcontent : content ∈ contents) (terms : RefreshTerms)
    (time : Timestamp) :
    ((FilterOutcome.fetched content time).apply terms before).IsFrom content ∧
      ((FilterOutcome.fetched content time).apply terms before).filter.lastUpdated = some time := by
  simp only [FilterOutcome.apply]
  split_ifs with hcurrent
  · exact ⟨(isFrom_of_current hinj hbefore hcontent hcurrent).renewed time, rfl⟩
  · exact ⟨FilterOutcome.compiled_isFrom content true time before, rfl⟩

theorem apply_recalled (hinj : Set.InjOn Sha256.hexDigest contents)
    (hbefore : before.IsMade contents) (hcontent : content ∈ contents) (terms : RefreshTerms) :
    ((FilterOutcome.recalled content).apply terms before).IsFrom content ∧
      ((FilterOutcome.recalled content).apply terms before).filter.lastUpdated =
        before.filter.lastUpdated := by
  simp only [FilterOutcome.apply]
  split_ifs with hcurrent
  · exact ⟨isFrom_of_current hinj hbefore hcontent hcurrent, rfl⟩
  · exact ⟨FilterOutcome.compiled_isFrom content false default before, rfl⟩

end InService

namespace Visit

theorem copy?_eq_some_iff {terms : RefreshTerms} (hscratch : terms.scratch ≠ []) {d : Disk}
    {v : Visit} {content : Bytes} :
    v.copy? terms d = some content ↔ v.turnsBack = true ∧
      d.read (terms.copyPath v.filter) = .ok content ∧ content.length ≤ terms.maxSize := by
  constructor
  · exact read_of_copy?
  · rintro ⟨hback, hread⟩
    rw [copy?, if_pos hback, (readFile_eq_ok_iff hscratch).mpr hread]
    rfl

theorem turnsBack_iff {v : Visit} {failure : Failure} (h : v.source = .error failure) :
    v.turnsBack = true ↔ failure.isTimeout = false ∧ v.filter.locator.isRemote = true := by
  simp [turnsBack, h]

theorem failure_of_turnsBack {v : Visit} (h : v.turnsBack = true) :
    ∃ failure, v.source = .error failure ∧ failure.isTimeout = false := by
  obtain ⟨failure, hsource⟩ := source_of_turnsBack h
  exact ⟨failure, hsource, ((turnsBack_iff hsource).mp h).1⟩

/-- An outcome is a success just if the source gave the content. -/
theorem AccountsFor.succeeded {q : Premises} {v : Visit} {o : FilterOutcome}
    (h : v.AccountsFor q o) : o.succeeded = v.source.isOk := by
  cases o with
  | fetched content time => rw [h.1]; rfl
  | recalled content =>
    obtain ⟨failure, hsource⟩ := source_of_turnsBack (read_of_copy? h.1).1
    rw [hsource]
    rfl
  | failed =>
    cases hsource : v.source with
    | error failure => rfl
    | ok content =>
      have hnone := h.1
      rw [hsource] at hnone
      cases hnone

/-- What is in service for a filter after a refresh, for what was before. -/
structure Ends (terms : RefreshTerms) (d : Disk) (times : Set Timestamp) (v : Visit)
    (before after : InService) : Prop where
  configured : after.filter.configured = before.filter.configured
  fetched : ∀ content, v.source = .ok content →
    after.IsFrom content ∧ ∃ time ∈ times, after.filter.lastUpdated = some time
  recalled : ∀ failure content, v.source = .error failure → failure.isTimeout = false →
    v.filter.locator.isRemote = true → d.read (terms.copyPath v.filter) = .ok content →
    content.length ≤ terms.maxSize →
    after.IsFrom content ∧ after.filter.lastUpdated = before.filter.lastUpdated
  kept : ∀ failure, v.source = .error failure →
    (failure.isTimeout = true ∨ v.filter.locator.isRemote = false ∨
      ∀ content, d.read (terms.copyPath v.filter) = .ok content →
        terms.maxSize < content.length) →
    after = before

theorem AccountsFor.ends {q : Premises} {v : Visit} {o : FilterOutcome} (h : v.AccountsFor q o)
    (hinj : Set.InjOn Sha256.hexDigest q.contents) (hscratch : q.terms.scratch ≠ [])
    {before : InService} (hbefore : before.IsMade q.contents) :
    v.Ends q.terms q.disk q.times before (o.apply q.terms before) := by
  have hconfigured := o.apply_configured q.terms before
  cases o with
  | fetched content time =>
    obtain ⟨hsource, hcontent, htime⟩ := h
    obtain ⟨hfrom, hupdated⟩ := InService.apply_fetched hinj hbefore hcontent q.terms time
    refine ⟨hconfigured, fun c hc => ?_, fun failure c hc => ?_, fun failure hc => ?_⟩
    · obtain rfl : content = c := Except.ok.inj (hsource.symm.trans hc)
      exact ⟨hfrom, time, htime, hupdated⟩
    · rw [hsource] at hc
      cases hc
    · rw [hsource] at hc
      cases hc
  | recalled content =>
    obtain ⟨hcopy, hcontent⟩ := h
    obtain ⟨hback, hread, hlength⟩ := (copy?_eq_some_iff hscratch).mp hcopy
    obtain ⟨failure, hsource⟩ := source_of_turnsBack hback
    obtain ⟨htimeout, hremote⟩ := (turnsBack_iff hsource).mp hback
    refine ⟨hconfigured, fun c hc => ?_, fun _ c _ _ _ hc _ => ?_, fun failure' hc hwhy => ?_⟩
    · rw [hsource] at hc
      cases hc
    · obtain rfl : content = c := Except.ok.inj (hread.symm.trans hc)
      exact InService.apply_recalled hinj hbefore hcontent q.terms
    · obtain rfl : failure = failure' := Except.error.inj (hsource.symm.trans hc)
      rcases hwhy with hlate | hlocal | hlong
      · rw [htimeout] at hlate
        cases hlate
      · rw [hremote] at hlocal
        cases hlocal
      · exact absurd hlength (Nat.not_le_of_lt (hlong content hread))
  | failed =>
    obtain ⟨hsource, hcopy⟩ := h
    refine ⟨hconfigured, fun c hc => ?_, fun failure c hc htimeout hremote hread hlength => ?_,
      fun _ _ _ => rfl⟩
    · rw [hc] at hsource
      cases hsource
    · have hback := (turnsBack_iff hc).mpr ⟨htimeout, hremote⟩
      rw [(copy?_eq_some_iff hscratch).mpr ⟨hback, hread, hlength⟩] at hcopy
      cases hcopy

end Visit

/-! ## All filters -/

namespace RefreshCourse

variable {q : Premises} {e : Engine} {x : RefreshCourse}

/-- The filters that could not be fetched. -/
def failing (x : RefreshCourse) : List String :=
  (x.visits.filter (fun v => !v.source.isOk)).map (·.filter.name)

/-- A refresh that came to its end while the engine was open. -/
structure IsComplete (q : Premises) (e : Engine) (x : RefreshCourse) : Prop where
  places : x.visits.map Visit.place = e.enabled
  result : x.result = some (if x.failing = [] then .ok () else .error (.refreshFailed x.failing))
  shown : ∀ v ∈ x.visits, ∃ before o, v.AccountsFor q o ∧
    e.index.entries[v.position]? = some before ∧ before.filter = v.filter ∧
    x.engine.index.entries[v.position]? = some (o.apply q.terms before)
  others : ∀ i, i ∉ x.visits.map (·.position) →
    x.engine.index.entries[i]? = e.index.entries[i]?
  saved : x.unsaved = [] → ∀ v ∈ x.visits, v.IsSaved q.terms x.disk

theorem settled_failures {visits : List Visit} {finished : List Finished}
    (h : List.Forall₂ (Visit.Settles q) visits finished) :
    (finished.filter (fun y => !y.outcome.succeeded)).map (·.filter.name) =
      (visits.filter (fun v => !v.source.isOk)).map (·.filter.name) := by
  induction h with
  | nil => rfl
  | @cons v y visits finished hsettles _ ih =>
    have hname : y.filter.name = v.filter.name :=
      congrArg (fun p => p.2.name) hsettles.place.symm
    rw [List.filter_cons, List.filter_cons, hsettles.outcome.succeeded]
    split_ifs
    · rw [List.map_cons, List.map_cons, ih, hname]
    · exact ih

theorem Tracks.complete (hf : x.Follows e q.terms) (ht : x.Tracks q)
    (hidle : x.engine.refresh = none) (hopen : x.engine.isClosed = false) : x.IsComplete q e := by
  have hended : x.finished.map Finished.place = e.enabled ∧ x.result = some
      (if x.failedNames = [] then .ok () else .error (.refreshFailed x.failedNames)) := by
    rcases hf.phase with ⟨r, hu⟩ | hended
    · rw [hu.refresh] at hidle
      cases hidle
    · cases hended with
      | unprepared _ hresult => exact absurd hresult (ht.prepared _)
      | complete _ hplaces hresult => exact ⟨hplaces, hresult⟩
  obtain ⟨hsettled, hsaved⟩ : List.Forall₂ (Visit.Settles q) x.visits x.finished ∧
      ∀ v ∈ x.visits, x.unsaved = [] → v.IsSaved q.terms x.disk := by
    cases ht.books with
    | between hsettled hsaved _ => exact ⟨hsettled, hsaved⟩
    | inTurn hrefresh =>
      rw [hidle] at hrefresh
      cases hrefresh
  have hnames : x.failedNames = x.failing := settled_failures hsettled
  refine ⟨?_, ?_, fun v hv => ?_, fun i hi => ?_, fun hnone v hv => hsaved v hv hnone⟩
  · rw [settled_places hsettled, hended.1]
  · rw [hended.2, hnames]
  · obtain ⟨y, hy, hplace, houtcome⟩ := settled_mem hsettled hv
    obtain ⟨hposition, hfilter⟩ := Prod.mk.inj hplace
    obtain ⟨before, hbefore, hsame, hshown⟩ :=
      RefreshHistory.shown_finished hf.shows hended.1 hopen hy
    rw [hposition, hfilter]
    exact ⟨before, y.outcome, houtcome, hbefore, hsame, hshown⟩
  · refine shown_unfinished hf hopen fun y hy hposition => hi ?_
    have hmem : y.place ∈ x.visits.map Visit.place :=
      settled_places hsettled ▸ List.mem_map_of_mem hy
    obtain ⟨v, hv, hplace⟩ := List.mem_map.mp hmem
    have hsame : v.position = i := (congrArg Prod.fst hplace).trans hposition
    exact hsame ▸ List.mem_map_of_mem hv

end RefreshCourse

/-! ## A refresh in the life of an engine -/

/-- The times that the clock shows in the course of a refresh. -/
def RefreshEvent.times (events : List RefreshEvent) : Set Timestamp :=
  {time | ∃ s, advance s ∈ events ∧ s.now = time}

theorem Engine.Publishes.isIdentified {e : Engine} {filters : List Filter} {contents : Set Bytes}
    (he : e.Publishes filters contents) (hnodup : (filters.map (·.id)).Nodup)
    (hlt : ∀ f ∈ filters, f.id < Text.limit64) : e.IsIdentified := by
  rw [← he.configured] at hnodup hlt
  constructor
  · rw [List.map_map] at hnodup
    exact hnodup
  · intro f hf
    exact hlt f.configured (List.mem_map_of_mem hf)

namespace RefreshCourse

/-- A refresh of an engine that stays open visits the enabled filters in their order, and when it
has gone on often enough it reports those whose sources failed. What was fetched is in service then,
dated anew, a cached copy in the place of what could not be fetched, and else what was before. -/
theorem refresh_ends_filter_by_filter (name : String) {filters : List Filter} (d₀ : Disk)
    (past : List EngineUse) (terms : RefreshTerms) (d prepared : Disk) (s : Surroundings)
    (events : List RefreshEvent) :
    let life := (EngineLife.ofFilters name filters d₀).run past
    let e := life.engine
    let x := (start terms e d).run (.advance s :: events)
    (∀ f ∈ filters, f.configured = f ∧ f.id < Text.limit64) → (filters.map (·.id)).Nodup →
    e.refresh = none → terms.scratch ≠ [] →
    (OnDisk.makeDirectories terms.cacheDir).perform d = (.ok (), prepared) →
    Spares terms.cacheDir ((start terms e d).step (.advance s)) events →
    e.stepLimit ≤ events.countP (·.isAdvance) + 1 → x.engine.isClosed = false →
    Set.InjOn Sha256.hexDigest {content | content ∈ life.contents ++ x.contents} →
      x.visits.map Visit.place = e.enabled ∧
      x.result = some (if x.failing = [] then .ok () else .error (.refreshFailed x.failing)) ∧
      (∀ v ∈ x.visits, ∃ before after, e.index.entries[v.position]? = some before ∧
        before.filter = v.filter ∧ x.engine.index.entries[v.position]? = some after ∧
        v.Ends terms prepared (RefreshEvent.times (.advance s :: events)) before after) ∧
      ∀ i, i ∉ x.visits.map (·.position) →
        x.engine.index.entries[i]? = e.index.entries[i]? := by
  intro life e x hfilters hnodup hidle hscratch hmade hspares hsteps hopen hinj
  let contents : Set Bytes := {content | content ∈ life.contents ++ x.contents}
  have hsound : e.IsSound filters contents := by
    refine EngineLife.run_sound ?_ past fun content hcontent => List.mem_append_left _ hcontent
    exact Engine.ofFilters_sound name (fun f hf => (hfilters f hf).1) contents
  have hids : e.IsIdentified :=
    hsound.publishes.isIdentified hnodup fun f hf => (hfilters f hf).2
  have hstart : e.isClosed = false := open_of_start hidle (open_of_run hopen)
  have hbegun : (start terms e d).result = none := by rw [start_of_idle hidle hstart]
  have hfollows := start_follows hbegun
  obtain ⟨p, hp⟩ := Disk.isFolder_of_makeDirectories hmade
  let q : Premises := ⟨terms, prepared, p, RefreshEvent.times (.advance s :: events), contents⟩
  have htracks : x.Tracks q := by
    have hfirst : (start terms e d).step (.advance s) = (start terms e d).advance s := by
      simp [step, hbegun]
    refine Tracks.run (q := q) hp hids (step_follows hfollows (.advance s)) ?_ hspares ?_ ?_
    · rw [hfirst]
      exact tracks_made (q := q) hp hbegun hmade s
    · intro s' hs'
      exact ⟨s', List.mem_cons_of_mem _ hs', rfl⟩
    · intro content hcontent
      exact List.mem_append_right _ hcontent
  have hended : x.result.isSome = true := by
    apply run_ends_of_stepLimit hbegun
    rw [List.countP_cons]
    exact hsteps
  have hfollowsx : x.Follows e terms := run_follows hfollows _
  have hcomplete := htracks.complete hfollowsx (idle_of_ended hfollowsx hended) hopen
  refine ⟨hcomplete.places, hcomplete.result, fun v hv => ?_, hcomplete.others⟩
  obtain ⟨before, o, haccounts, hbefore, hfilter, hafter⟩ := hcomplete.shown v hv
  have hmade := hsound.publishes.while_open hstart v.position before hbefore
  exact ⟨before, o.apply terms before, hbefore, hfilter, hafter,
    haccounts.ends hinj hscratch hmade⟩

def mixedFilters : List Filter :=
  [{ id := 1, name := "Ads", locator := .http "http://lists.example/ads.txt", enabled := true },
    { id := 2, name := "Games", locator := .http "http://lists.example/games.txt",
      enabled := false },
    { id := 3, name := "Trackers", locator := .http "http://lists.example/trackers.txt",
      enabled := true },
    { id := 4, name := "Own", locator := .file "own.txt", enabled := true }]

/-- Servers that answer with a text, but for those that cannot be reached. -/
def serving (text : String) (unreachable : List String) : Surroundings where
  network url :=
    if url ∈ unreachable then .unreachable "no route to host"
    else .answered 200 none [Utf8.encode text.toList] .complete
  now := default

set_option maxRecDepth 4000 in
/-- One list is fetched, another one falls back on its cached copy, and a third one, which was there
before, is not found. -/
theorem refresh_ends_in_three_ways :
    let terms : RefreshTerms := { cacheDir := "cache", maxSize := 100, scratch := [0] }
    let trackers := "http://lists.example/trackers.txt"
    let copy : Node := .plain (Utf8.encode "||a.example^".toList)
    let outage := serving "" ["http://lists.example/ads.txt", trackers]
    let first : EngineUse := ⟨terms, List.replicate 13 (.advance outage)⟩
    let life := (EngineLife.ofFilters "test" mixedFilters ⟨[(["own.txt"], copy)]⟩).run [first]
    let e := life.engine
    let d := (life.disk.without ["own.txt"]).put ["cache", "3.txt"] copy
    let s := serving "||b.example^" [trackers]
    let events := List.replicate 12 (RefreshEvent.advance s)
    let x := (start terms e d).run (.advance s :: events)
    e.index.entries.map (fun y => y.rules.map (·.texts)) =
        [none, none, none, some ["||a.example^"]] ∧
      x.engine.index.entries.map (fun y => y.rules.map (·.texts)) =
        [some ["||b.example^"], none, some ["||a.example^"], some ["||a.example^"]] ∧
      x.failing = ["Trackers", "Own"] ∧
      x.visits.map Visit.place = e.enabled ∧
      x.result = some (if x.failing = [] then .ok () else .error (.refreshFailed x.failing)) ∧
      (∀ v ∈ x.visits, ∃ before after, e.index.entries[v.position]? = some before ∧
        before.filter = v.filter ∧ x.engine.index.entries[v.position]? = some after ∧
        v.Ends terms d (RefreshEvent.times (.advance s :: events)) before after) ∧
      ∀ i, i ∉ x.visits.map (·.position) →
        x.engine.index.entries[i]? = e.index.entries[i]? := by
  intro terms trackers copy outage first life e d s events x
  obtain ⟨hbefore, hidle, hmade, hsteps⟩ :
      e.index.entries.map (fun y => y.rules.map (·.texts)) =
          [none, none, none, some ["||a.example^"]] ∧
        e.refresh.isNone = true ∧
        (OnDisk.makeDirectories terms.cacheDir).perform d = (.ok (), d) ∧
        e.stepLimit ≤ events.countP (·.isAdvance) + 1 := by decide +kernel
  obtain ⟨hafter, hfailing, hopen, hcontents⟩ :
      x.engine.index.entries.map (fun y => y.rules.map (·.texts)) =
          [some ["||b.example^"], none, some ["||a.example^"], some ["||a.example^"]] ∧
        x.failing = ["Trackers", "Own"] ∧ x.engine.isClosed = false ∧
        ∀ content ∈ life.contents ++ x.contents, content = Utf8.encode "||a.example^".toList ∨
          content = Utf8.encode "||b.example^".toList := by decide +kernel
  have hdigests : Sha256.hexDigest (Utf8.encode "||a.example^".toList) ≠
      Sha256.hexDigest (Utf8.encode "||b.example^".toList) := by decide +kernel
  have hinj : Set.InjOn Sha256.hexDigest {content | content ∈ life.contents ++ x.contents} := by
    intro a (ha : a ∈ life.contents ++ x.contents) b (hb : b ∈ life.contents ++ x.contents) hab
    rcases hcontents a ha with rfl | rfl <;> rcases hcontents b hb with rfl | rfl
    · rfl
    · exact absurd hab hdigests
    · exact absurd hab.symm hdigests
    · rfl
  have hspares : Spares terms.cacheDir ((start terms e d).step (.advance s)) events :=
    spares_advances _ _ 12 s
  have hrest := refresh_ends_filter_by_filter "test" _ [first] terms d d s events (by decide)
    (by decide) (Option.isNone_iff_eq_none.mp hidle) (by decide) hmade hspares hsteps hopen hinj
  exact ⟨hbefore, hafter, hfailing, hrest⟩

end RefreshCourse
end DnsFilter
