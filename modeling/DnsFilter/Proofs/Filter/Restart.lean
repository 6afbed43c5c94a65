import DnsFilter.Proofs.Filter.Mirror
/-!
# A new engine over the same cache

An engine that begins anew, with the same filters and the cache directory of another one, and that
can fetch nothing, puts in service what the other one had in service. All that it does not know is
when that was fetched.
-/
namespace DnsFilter

structure InService.Agrees (y z : InService) : Prop where
  configured : z.filter.configured = y.filter.configured
  rules : z.rules = y.rules
  sizeBytes : z.filter.sizeBytes = y.filter.sizeBytes
  rulesCount : z.filter.rulesCount = y.filter.rulesCount
  checksum : z.filter.checksum = y.filter.checksum

namespace InService

variable {y z : InService}

theorem IsFrom.agrees {content : Bytes} (hy : y.IsFrom content) (hz : z.IsFrom content)
    (hconfigured : z.filter.configured = y.filter.configured) : y.Agrees z where
  configured := hconfigured
  rules := hz.rules.trans hy.rules.symm
  sizeBytes := hz.sizeBytes.trans hy.sizeBytes.symm
  rulesCount := hz.rulesCount.trans hy.rulesCount.symm
  checksum := hz.checksum.trans hy.checksum.symm

/-- A filter that never had rules is as it was configured. -/
theorem agrees_vacant (hrules : y.rules = none) (hfilter : y.filter.configured = y.filter) :
    y.Agrees ⟨y.filter.configured, none⟩ := by
  rw [hfilter]
  exact ⟨rfl, hrules.symm, rfl, rfl, rfl⟩

section
variable {dir : String} {limit : Nat} {p : Path} {d : Disk} (h : y.IsMirrored dir limit p d)
include h

theorem IsMirrored.isFrom_of_read (hfolder : d.IsFolder dir p) (hid : y.filter.id < Text.limit64)
    {content : Bytes} (hread : d.read (Disk.join dir y.filter.cacheName) = .ok content) :
    y.IsFrom content := by
  cases h with
  | vacant _ _ hnone =>
    have hmissing : Disk.contentOf (d.entry p y.filter.cacheName) = .error .missing := by
      rw [hnone]
      rfl
    exact absurd hread
      (hfolder.read_of_not_file (Filter.isPlainName_cacheName hid) hmissing content)
  | copied c _ hfrom _ hcopy =>
    obtain rfl : c = content := Except.ok.inj (hcopy.symm.trans hread)
    exact hfrom

/-- Where no copy can be used, there are no rules. -/
theorem IsMirrored.agrees_of_unread (hread : ∀ content,
    d.read (Disk.join dir y.filter.cacheName) = .ok content → limit < content.length) :
    y.Agrees ⟨y.filter.configured, none⟩ := by
  cases h with
  | vacant hrules hfilter _ => exact agrees_vacant hrules hfilter
  | copied c _ _ hlength hcopy => exact absurd hlength (Nat.not_le_of_lt (hread c hcopy))

theorem IsMirrored.agrees_of_disabled (hoff : y.filter.enabled = false) :
    y.Agrees ⟨y.filter.configured, none⟩ := by
  cases h with
  | vacant hrules hfilter _ => exact agrees_vacant hrules hfilter
  | copied _ hon _ _ _ => exact absurd hon (by simp [hoff])

end

theorem Agrees.rule?_eq (h : y.Agrees z) (action : Action) (host : List Char)
    (answer : Option IpAddress) (type : RecordType) :
    z.rule? action host answer type = y.rule? action host answer type := by
  have henabled : z.filter.enabled = y.filter.enabled := congrArg (·.enabled) h.configured
  have hid : z.filter.id = y.filter.id := congrArg (·.id) h.configured
  have hname : z.filter.name = y.filter.name := congrArg (·.name) h.configured
  simp only [rule?, h.rules, henabled, hid, hname]

end InService

namespace FilterIndex

structure Agrees (x x' : FilterIndex) : Prop where
  length : x'.entries.length = x.entries.length
  entries : ∀ (i : Nat) (y : InService), x.entries[i]? = some y →
    ∃ z, x'.entries[i]? = some z ∧ y.Agrees z

variable {x x' : FilterIndex}

theorem Agrees.map_eq {β : Type} {g : InService → β} (h : x.Agrees x')
    (hg : ∀ y z : InService, y.Agrees z → g z = g y) : x'.entries.map g = x.entries.map g := by
  apply List.ext_getElem?
  intro i
  rw [List.getElem?_map, List.getElem?_map]
  cases hy : x.entries[i]? with
  | none =>
    have hend : x'.entries[i]? = none := by
      rw [List.getElem?_eq_none_iff] at hy ⊢
      rwa [h.length]
    rw [hend]
  | some y =>
    obtain ⟨z, hz, hagrees⟩ := h.entries i y hy
    rw [hz]
    exact congrArg some (hg y z hagrees)

theorem Agrees.rule?_eq (h : x.Agrees x') (action : Action) (host : List Char)
    (answer : Option IpAddress) (type : RecordType) :
    x'.rule? action host answer type = x.rule? action host answer type := by
  have hmap := h.map_eq (g := (·.rule? action host answer type)) fun _ _ hagrees =>
    hagrees.rule?_eq action host answer type
  have hall (u : FilterIndex) : u.rule? action host answer type =
      (u.entries.map (·.rule? action host answer type)).findSome? id := by
    rw [List.findSome?_map]
    rfl
  rw [hall, hall, hmap]

/-- Indices that agree give the same verdicts. -/
theorem Agrees.check_eq (h : x.Agrees x') (r : FilterRequest) : x'.check r = x.check r := by
  unfold check
  simp only [h.rule?_eq]

end FilterIndex

namespace Engine

theorem Publishes.length_eq {e : Engine} {filters : List Filter} {contents : Set Bytes}
    (he : e.Publishes filters contents) : e.index.entries.length = filters.length := by
  rw [← he.configured, Engine.filters, FilterIndex.filters, List.length_map, List.length_map]

theorem Publishes.configured_at {e : Engine} {filters : List Filter} {contents : Set Bytes}
    (he : e.Publishes filters contents) {i : Nat} {y : InService}
    (hy : e.index.entries[i]? = some y) : filters[i]? = some y.filter.configured := by
  rw [← he.configured, Engine.filters, FilterIndex.filters, List.getElem?_map, List.getElem?_map, hy]
  rfl

theorem ofFilters_entry (name : String) {filters : List Filter} {i : Nat} {f : Filter}
    (hf : filters[i]? = some f) : (ofFilters name filters).index.entries[i]? = some ⟨f, none⟩ := by
  simp [ofFilters, FilterIndex.ofFilters, hf]

theorem enabled_names (e : Engine) :
    e.enabled.map (·.2.name) = (e.filters.filter (·.enabled)).map (·.name) := by
  have hfilters : e.filters.filter (·.enabled) =
      (e.filters.zipIdx.filter (·.1.enabled)).map Prod.fst := by
    have hzip := List.filter_map (f := Prod.fst) (p := Filter.enabled) (l := e.filters.zipIdx)
    rw [List.zipIdx_map_fst] at hzip
    exact hzip
  rw [hfilters, enabled, List.map_map, List.map_map]
  rfl

end Engine

namespace RefreshCourse

variable {q : Premises} {e e' : Engine} {x : RefreshCourse} {filters : List Filter}

/-- Where every source fails, all enabled filters are reported. -/
theorem IsComplete.failing_all (hx : x.IsComplete q e)
    (hsources : ∀ v ∈ x.visits, ∃ failure, v.source = .error failure) :
    x.failing = (e.filters.filter (·.enabled)).map (·.name) := by
  have hall : x.visits.filter (fun v => !v.source.isOk) = x.visits := by
    refine List.filter_eq_self.mpr fun v hv => ?_
    obtain ⟨failure, hsource⟩ := hsources v hv
    rw [hsource]
    rfl
  rw [failing, hall, ← e.enabled_names, ← hx.places, List.map_map]
  rfl

/-- A filter without rules takes over what the cached copy of a mirrored one holds. -/
theorem IsComplete.takes_over (hq : q.disk.IsFolder q.terms.cacheDir q.place)
    (hx : x.IsComplete q e) (hscratch : q.terms.scratch ≠ [])
    (hinj : Set.InjOn Sha256.hexDigest q.contents)
    (hsources : ∀ v ∈ x.visits, v.turnsBack = true) {i : Nat} {y : InService}
    (hid : y.filter.id < Text.limit64)
    (hy : y.IsMirrored q.terms.cacheDir q.terms.maxSize q.place q.disk)
    (he : e.index.entries[i]? = some ⟨y.filter.configured, none⟩) :
    ∃ z, x.engine.index.entries[i]? = some z ∧ y.Agrees z ∧ z.filter.lastUpdated = none := by
  by_cases hi : i ∈ x.visits.map (·.position)
  · obtain ⟨v, hv, rfl⟩ := List.mem_map.mp hi
    obtain ⟨before, o, haccounts, hbefore, hfilter, hafter⟩ := hx.shown v hv
    obtain rfl : before = ⟨y.filter.configured, none⟩ := Option.some.inj (hbefore.symm.trans he)
    have hpath : q.terms.copyPath v.filter = Disk.join q.terms.cacheDir y.filter.cacheName := by
      rw [← hfilter]
      rfl
    refine ⟨_, hafter, ?_⟩
    cases o with
    | fetched content time =>
      obtain ⟨failure, hsource⟩ := Visit.source_of_turnsBack (hsources v hv)
      rw [haccounts.1] at hsource
      cases hsource
    | recalled content =>
      obtain ⟨hcopy, hcontent⟩ := haccounts
      obtain ⟨-, hread, -⟩ := Visit.read_of_copy? hcopy
      rw [hpath] at hread
      have hmade : InService.IsMade q.contents ⟨y.filter.configured, none⟩ := .vacant rfl rfl
      obtain ⟨hfrom, hupdated⟩ := InService.apply_recalled hinj hmade hcontent q.terms
      refine ⟨(hy.isFrom_of_read hq hid hread).agrees hfrom ?_, hupdated⟩
      exact FilterOutcome.apply_configured _ _ _
    | failed =>
      refine ⟨hy.agrees_of_unread fun content hread => ?_, rfl⟩
      by_contra hlength
      rw [← hpath] at hread
      have hcopy := (Visit.copy?_eq_some_iff hscratch).mpr
        ⟨hsources v hv, hread, Nat.le_of_not_lt hlength⟩
      rw [haccounts.2] at hcopy
      cases hcopy
  · refine ⟨_, (hx.others i hi).trans he, hy.agrees_of_disabled ?_, rfl⟩
    -- an enabled filter is visited
    rw [← Bool.not_eq_true]
    intro hon
    have hmem : (i, y.filter.configured) ∈ x.visits.map Visit.place :=
      hx.places ▸ Engine.enabled_of_entry he hon
    obtain ⟨v, hv, hplace⟩ := List.mem_map.mp hmem
    have hposition : v.position = i := congrArg Prod.fst hplace
    exact hi (hposition ▸ List.mem_map_of_mem hv)

/-- Entry by entry, an engine without rules becomes what a mirrored one is. -/
theorem IsComplete.agrees (hq : q.disk.IsFolder q.terms.cacheDir q.place) {name : String}
    (hx : x.IsComplete q (.ofFilters name filters)) (hscratch : q.terms.scratch ≠ [])
    (hinj : Set.InjOn Sha256.hexDigest q.contents)
    (hsources : ∀ v ∈ x.visits, v.turnsBack = true)
    (hfilters : ∀ f ∈ filters, f.id < Text.limit64) {old : Engine}
    (hold : old.Publishes filters q.contents) (hnew : x.engine.Publishes filters q.contents)
    (hmirrored : ∀ (i : Nat) (y : InService), old.index.entries[i]? = some y →
      y.IsMirrored q.terms.cacheDir q.terms.maxSize q.place q.disk) :
    old.index.Agrees x.engine.index ∧ ∀ f ∈ x.engine.filters, f.lastUpdated = none := by
  have hlength : x.engine.index.entries.length = old.index.entries.length :=
    hnew.length_eq.trans hold.length_eq.symm
  have hentries (i : Nat) (y : InService) (hy : old.index.entries[i]? = some y) :
      ∃ z, x.engine.index.entries[i]? = some z ∧ y.Agrees z ∧ z.filter.lastUpdated = none := by
    have hat := hold.configured_at hy
    have hid : y.filter.configured.id < Text.limit64 := hfilters _ (List.mem_of_getElem? hat)
    exact hx.takes_over hq hscratch hinj hsources hid (hmirrored i y hy)
      (Engine.ofFilters_entry name hat)
  refine ⟨⟨hlength, fun i y hy => ?_⟩, fun f hf => ?_⟩
  · obtain ⟨z, hz, hyz, -⟩ := hentries i y hy
    exact ⟨z, hz, hyz⟩
  · obtain ⟨z, hz, rfl⟩ := List.mem_map.mp hf
    obtain ⟨i, hi⟩ := List.mem_iff_getElem?.mp hz
    have hbound : i < old.index.entries.length := hlength ▸ (List.getElem?_eq_some_iff.mp hi).1
    obtain ⟨z', hz', -, hnever⟩ := hentries i _ (List.getElem?_eq_getElem hbound)
    obtain rfl : z' = z := Option.some.inj (hz'.symm.trans hi)
    exact hnever

/-- After a life in which everything was saved to a cache directory that was empty at first, a new
engine that can fetch nothing reports all enabled filters, and puts in service what the old one
has. -/
theorem new_engine_takes_over (name name' : String) (filters : List Filter) (d : Disk)
    (dir : String) (limit : Nat) (past : List EngineUse) (last : EngineUse) :
    let old := (EngineLife.ofFilters name filters d).run past
    let new := start last.terms (.ofFilters name' filters) old.disk
    let x := new.run last.events
    let enabled := (filters.filter (·.enabled)).map (·.name)
    (∀ f ∈ filters, f.configured = f ∧ f.id < Text.limit64 ∧ f.locator.isRemote = true) →
    (filters.map (·.id)).Nodup →
    (∃ p, d.IsFolder dir p ∧ d.children p = []) →
    (∀ u ∈ last :: past, u.terms.cacheDir = dir ∧ u.terms.maxSize = limit) →
    (EngineLife.ofFilters name filters d).Spares dir past → new.Spares dir last.events →
    old.unsaved = [] → old.engine.refresh = none → old.engine.isClosed = false →
    last.terms.scratch ≠ [] →
    (Engine.ofFilters name' filters).stepLimit ≤ last.events.countP (·.isAdvance) →
    x.engine.isClosed = false →
    (∀ v ∈ x.visits, ∃ failure, v.source = .error failure ∧ failure.isTimeout = false) →
    Set.InjOn Sha256.hexDigest {content | content ∈ old.contents ++ x.contents} →
      x.result = some (if enabled = [] then .ok () else .error (.refreshFailed enabled)) ∧
      (∀ f ∈ x.engine.filters, f.lastUpdated = none) ∧
      x.engine.filters.map (fun f => (f.sizeBytes, f.rulesCount, f.checksum)) =
        old.engine.filters.map (fun f => (f.sizeBytes, f.rulesCount, f.checksum)) ∧
      ∀ request, x.engine.check request = old.engine.check request := by
  intro old new x enabled hfilters hnodup ⟨p, hfolder, hempty⟩ hterms hpast hlast hsaved hidle hopen
    hscratch hsteps hstill hsources hinj
  obtain ⟨hdir, hlimit⟩ := hterms last List.mem_cons_self
  let contents : Set Bytes := {content | content ∈ old.contents ++ x.contents}
  have hconfigured : ∀ f ∈ filters, f.configured = f := fun f hf => (hfilters f hf).1
  have hlt : ∀ f ∈ filters, f.id < Text.limit64 := fun f hf => (hfilters f hf).2.1
  have hmirrors : old.Mirrors filters dir limit p contents := by
    refine EngineLife.Mirrors.run
      (EngineLife.ofFilters_mirrors name hconfigured hfolder hempty limit contents) hnodup hlt hinj
      (fun u hu => hterms u (List.mem_cons_of_mem last hu)) hpast hsaved hidle hopen ?_
    exact fun content hcontent => List.mem_append_left _ hcontent
  have hsound := Engine.ofFilters_sound name' hconfigured contents
  have hids := hsound.publishes.isIdentified hnodup hlt
  have hbegun : new.result = none := rfl
  have hfollows := start_follows hbegun
  subst hdir hlimit
  let q : Premises :=
    ⟨last.terms, old.disk, p, RefreshEvent.times last.events, contents⟩
  have hcontents : ∀ content ∈ x.contents, content ∈ contents := fun content hcontent =>
    List.mem_append_right _ hcontent
  have htracks : x.Tracks q :=
    Tracks.run (q := q) hmirrors.folder hids hfollows (tracks_start (q := q) hmirrors.folder hbegun)
      hlast (fun s hs => ⟨s, hs, rfl⟩) hcontents
  have hended : x.result.isSome = true := run_ends_of_stepLimit hbegun hsteps
  have hfollowsx : x.Follows (.ofFilters name' filters) last.terms := run_follows hfollows _
  have hcomplete := htracks.complete hfollowsx (idle_of_ended hfollowsx hended) hstill
  have hremote : ∀ v ∈ x.visits, v.turnsBack = true := by
    intro v hv
    obtain ⟨failure, hsource, htimeout⟩ := hsources v hv
    obtain ⟨before, o, -, hbefore, hfilter, -⟩ := hcomplete.shown v hv
    have hat := hsound.publishes.configured_at hbefore
    have hmem : before.filter.configured ∈ filters := List.mem_of_getElem? hat
    refine (Visit.turnsBack_iff hsource).mpr ⟨htimeout, ?_⟩
    rw [← hfilter]
    exact (hfilters _ hmem).2.2
  have hx := run_sound (start_sound hsound last.terms old.disk) last.events hcontents
  obtain ⟨hagrees, hnever⟩ := hcomplete.agrees hmirrors.folder hscratch hinj hremote hlt
    hmirrors.sound.publishes hx.publishes hmirrors.entries
  refine ⟨?_, hnever, ?_, hagrees.check_eq⟩
  · have hsame : (Engine.ofFilters name' filters).filters = filters :=
      Engine.ofFilters_filters filters
    have hnames : x.failing = enabled := by
      rw [hcomplete.failing_all fun v hv => Visit.source_of_turnsBack (hremote v hv), hsame]
    rw [hcomplete.result, hnames]
  · have hmap := hagrees.map_eq
      (g := fun y => (y.filter.sizeBytes, y.filter.rulesCount, y.filter.checksum))
      fun y z h => by rw [h.sizeBytes, h.rulesCount, h.checksum]
    simp only [Engine.filters, FilterIndex.filters, List.map_map]
    exact hmap

/-! ## A life with an outage -/

def remoteFilters : List Filter := mixedFilters.filter (·.locator.isRemote)

def emptyCache : Disk := ⟨[(["cache"], .directory)]⟩

/-- A refresh in which one of two lists can be fetched. -/
def firstUse : EngineUse where
  terms := { cacheDir := "cache", maxSize := 100, scratch := [0] }
  events := List.replicate 12
    (.advance (serving "||a.example^" ["http://lists.example/trackers.txt"]))

/-- A refresh in which no list can be fetched. -/
def outageUse (scratch : Bytes) : EngineUse where
  terms := { firstUse.terms with scratch }
  events := List.replicate 12 (.advance
    (serving "" ["http://lists.example/ads.txt", "http://lists.example/trackers.txt"]))

set_option maxRecDepth 4000 in
/-- One of two lists could be fetched. -/
theorem new_engine_takes_over_one_list :
    let last := outageUse [0]
    let old := (EngineLife.ofFilters "old" remoteFilters emptyCache).run [firstUse]
    let x := (start last.terms (.ofFilters "new" remoteFilters) old.disk).run last.events
    old.engine.index.entries.map (fun y => y.rules.map (·.texts)) =
        [some ["||a.example^"], none, none] ∧
      x.engine.index.entries.map (fun y => y.rules.map (·.texts)) =
        [some ["||a.example^"], none, none] ∧
      x.result = some (.error (.refreshFailed ["Ads", "Trackers"])) ∧
      (∀ f ∈ x.engine.filters, f.lastUpdated = none) ∧
      x.engine.filters.map (fun f => (f.sizeBytes, f.rulesCount, f.checksum)) =
        old.engine.filters.map (fun f => (f.sizeBytes, f.rulesCount, f.checksum)) ∧
      ∀ request, x.engine.check request = old.engine.check request := by
  intro last old x
  obtain ⟨hold, hnew, hsaved, hidle, hopen, hstill, hsources, hcontents⟩ :
      old.engine.index.entries.map (fun y => y.rules.map (·.texts)) =
          [some ["||a.example^"], none, none] ∧
        x.engine.index.entries.map (fun y => y.rules.map (·.texts)) =
          [some ["||a.example^"], none, none] ∧
        old.unsaved.isEmpty = true ∧ old.engine.refresh.isNone = true ∧
        old.engine.isClosed = false ∧ x.engine.isClosed = false ∧
        (∀ v ∈ x.visits, v.turnsBack = true) ∧
        ∀ content ∈ old.contents ++ x.contents, content = Utf8.encode "||a.example^".toList := by
    decide +kernel
  have hinj : Set.InjOn Sha256.hexDigest {content | content ∈ old.contents ++ x.contents} := by
    intro a ha b hb _
    rw [hcontents a ha, hcontents b hb]
  have hfolder : emptyCache.IsFolder "cache" ["cache"] := .inr ⟨rfl, by decide +kernel⟩
  have hrest := new_engine_takes_over "old" "new" remoteFilters emptyCache "cache" 100 [firstUse]
    last (by decide +kernel) (by decide +kernel) ⟨["cache"], hfolder, by decide +kernel⟩
    (by decide) ⟨spares_advances _ _ 12 _, trivial⟩ (spares_advances _ _ 12 _)
    (List.isEmpty_iff.mp hsaved) (Option.isNone_iff_eq_none.mp hidle) hopen (by decide)
    (by decide +kernel) hstill (fun v hv => Visit.failure_of_turnsBack (hsources v hv)) hinj
  exact ⟨hold, hnew, hrest⟩

set_option maxRecDepth 4000 in
/-- With an empty scratch buffer no cached copy can be read. -/
theorem new_engine_without_scratch :
    let last := outageUse []
    let old := (EngineLife.ofFilters "old" remoteFilters emptyCache).run [firstUse]
    let new := start last.terms (.ofFilters "new" remoteFilters) old.disk
    let x := new.run last.events
    (remoteFilters.map (·.id)).Nodup ∧ emptyCache.IsFolder "cache" ["cache"] ∧
      emptyCache.children ["cache"] = [] ∧
      (EngineLife.ofFilters "old" remoteFilters emptyCache).Spares "cache" [firstUse] ∧
      new.Spares "cache" last.events ∧ old.unsaved = [] ∧
      old.engine.refresh = none ∧ old.engine.isClosed = false ∧ x.engine.isClosed = false ∧
      (∀ v ∈ x.visits, ∃ failure, v.source = .error failure ∧ failure.isTimeout = false) ∧
      Set.InjOn Sha256.hexDigest {content | content ∈ old.contents ++ x.contents} ∧
      x.result = some (.error (.refreshFailed ["Ads", "Trackers"])) ∧
      old.engine.index.entries.map (fun y => (y.filter.sizeBytes, y.rules.map (·.texts))) =
        [(12, some ["||a.example^"]), (0, none), (0, none)] ∧
      x.engine.index.entries.map (fun y => (y.filter.sizeBytes, y.rules.map (·.texts))) =
        [(0, none), (0, none), (0, none)] := by
  intro last old new x
  obtain ⟨hsaved, hidle, hopen, hstill, hsources, hcontents, hresult, hold, hnew⟩ :
      old.unsaved.isEmpty = true ∧ old.engine.refresh.isNone = true ∧
        old.engine.isClosed = false ∧ x.engine.isClosed = false ∧
        (∀ v ∈ x.visits, v.turnsBack = true) ∧
        (∀ content ∈ old.contents ++ x.contents, content = Utf8.encode "||a.example^".toList) ∧
        x.result = some (.error (.refreshFailed ["Ads", "Trackers"])) ∧
        old.engine.index.entries.map (fun y => (y.filter.sizeBytes, y.rules.map (·.texts))) =
          [(12, some ["||a.example^"]), (0, none), (0, none)] ∧
        x.engine.index.entries.map (fun y => (y.filter.sizeBytes, y.rules.map (·.texts))) =
          [(0, none), (0, none), (0, none)] := by
    decide +kernel
  refine ⟨by decide +kernel, .inr ⟨rfl, by decide +kernel⟩, by decide +kernel,
    ⟨spares_advances _ _ 12 _, trivial⟩, spares_advances _ _ 12 _, List.isEmpty_iff.mp hsaved,
    Option.isNone_iff_eq_none.mp hidle, hopen, hstill,
    fun v hv => Visit.failure_of_turnsBack (hsources v hv), ?_, hresult, hold, hnew⟩
  intro a ha b hb _
  rw [hcontents a ha, hcontents b hb]

end RefreshCourse
end DnsFilter
