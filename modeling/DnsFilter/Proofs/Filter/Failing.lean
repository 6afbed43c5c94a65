import DnsFilter.Proofs.Filter.Course
/-!
# Filters that fail

A filter that fails keeps its rules as long as no other content is read back from the cache for it.
A cached copy that differs from the content of the rules in service takes their place, although the
filter is reported as failed.
-/
namespace DnsFilter
namespace RefreshHistory

variable {e : Engine} {terms : RefreshTerms}

theorem complete_of_refreshFailed {h : RefreshHistory} {names : List String}
    (hf : h.Follows e terms) (hresult : h.result = some (.error (.refreshFailed names))) :
    names = h.failedNames ∧ h.finished.map Finished.place = e.enabled := by
  rcases hf.phase with ⟨r, hu⟩ | hended
  · rw [hu.result] at hresult
    cases hresult
  · cases hended with
    | unprepared _ hfiles =>
      rw [hfiles] at hresult
      cases hresult
    | complete _ hplaces hnames =>
      rw [hnames] at hresult
      split_ifs at hresult with hnone
      · cases hresult
      · simp only [Option.some.injEq, Except.error.injEq, Failure.refreshFailed.injEq] at hresult
        exact ⟨hresult.symm, hplaces⟩

theorem find?_position {l : List Finished} (hl : (l.map (·.position)).Nodup) {x : Finished}
    (hx : x ∈ l) : l.find? (·.position == x.position) = some x := by
  induction l with
  | nil => cases hx
  | cons y l ih =>
    rw [List.map_cons, List.nodup_cons] at hl
    rcases List.mem_cons.mp hx with rfl | hx
    · exact List.find?_cons_of_pos (by simp)
    · have hne : y.position ≠ x.position := by
        intro heq
        exact hl.1 (heq ▸ List.mem_map_of_mem hx)
      rw [List.find?_cons_of_neg (by simpa using hne)]
      exact ih hl.2 hx

theorem shown_finished {h : RefreshHistory} (hs : h.Shows e terms)
    (hplaces : h.finished.map Finished.place = e.enabled) (hopen : h.engine.isClosed = false)
    {x : Finished} (hx : x ∈ h.finished) :
    ∃ y, e.index.entries[x.position]? = some y ∧ y.filter = x.filter ∧
      h.engine.index.entries[x.position]? = some (x.outcome.apply terms y) := by
  have hmem : x.place ∈ e.enabled := hplaces ▸ List.mem_map_of_mem hx
  obtain ⟨y, hy, hf⟩ := Engine.mem_enabled hmem
  refine ⟨y, hy, hf, ?_⟩
  have hnodup : (h.finished.map (·.position)).Nodup := by
    have hall := e.enabled_nodup
    rw [← hplaces, List.map_map] at hall
    exact hall
  have houtcome : h.outcomeAt? x.position = some x.outcome := by
    rw [outcomeAt?, find?_position hnodup hx]
    rfl
  rw [hs.while_open hopen, hy]
  simp [effect, houtcome]

end RefreshHistory

namespace FilterIndex

def alone (x : FilterIndex) (position : Nat) : FilterIndex := ⟨x.entries[position]?.toList⟩

/-- The verdict of one filter depends on its rules, on whether it is enabled, and on its names. -/
theorem check_alone_congr {x x' : FilterIndex} {position : Nat} {y y' : InService}
    (hy : x.entries[position]? = some y) (hy' : x'.entries[position]? = some y')
    (hrules : y'.rules = y.rules) (henabled : y'.filter.enabled = y.filter.enabled)
    (hid : y'.filter.id = y.filter.id) (hname : y'.filter.name = y.filter.name)
    (request : FilterRequest) :
    (x'.alone position).check request = (x.alone position).check request := by
  have hrule : ∀ action host answer type,
      (x'.alone position).rule? action host answer type =
        (x.alone position).rule? action host answer type := by
    intro action host answer type
    simp [alone, rule?, InService.rule?, hy, hy', hrules, henabled, hid, hname]
  unfold check
  simp only [hrule]

end FilterIndex

namespace FilterOutcome

theorem apply_filter (o : FilterOutcome) (terms : RefreshTerms) (y : InService) :
    (o.apply terms y).filter.enabled = y.filter.enabled ∧
      (o.apply terms y).filter.id = y.filter.id ∧
      (o.apply terms y).filter.name = y.filter.name := by
  cases o with
  | failed => exact ⟨rfl, rfl, rfl⟩
  | fetched content time =>
    simp only [apply]
    split_ifs <;> exact ⟨rfl, rfl, rfl⟩
  | recalled content =>
    simp only [apply]
    split_ifs <;> exact ⟨rfl, rfl, rfl⟩

/-- A filter without success keeps its rules, but for those of another content from the cache. -/
theorem apply_rules_iff {o : FilterOutcome} (ho : o.succeeded = false) (terms : RefreshTerms)
    {y : InService} {rules : RuleSet} (hy : y.rules = some rules) :
    (o.apply terms y).rules = some rules ↔
      ∀ content, o = .recalled content →
        y.isCurrent terms content = true ∨
          RuleSet.ofText (Utf8.decodeLossy content) = rules := by
  cases o with
  | failed => simp [apply, hy]
  | fetched content time => cases ho
  | recalled content =>
    by_cases hc : y.isCurrent terms content = true
    · simp [apply, hc, hy]
    · simp [apply, hc, Engine.compiled]

end FilterOutcome

namespace RefreshCourse

variable {e : Engine} {terms : RefreshTerms}

/-- In a refresh that reports filters as failed, a filter that fails keeps its rules exactly if the
engine stays open and no copy that differs from the content of these rules is read from the cache.
Then it also answers as before. -/
theorem failed_filter_keeps_rules_iff {d : Disk} {events : List RefreshEvent} {names : List String} :
    let x := (start terms e d).run events
    x.result = some (.error (.refreshFailed names)) →
      names = x.failedNames ∧ x.finished.map Finished.place = e.enabled ∧
        ∀ z ∈ x.finished, z.outcome.succeeded = false →
          ∀ rules, e.index.rulesAt? z.position = some rules →
            (x.engine.index.rulesAt? z.position = some rules ↔
              x.engine.isClosed = false ∧ ∀ content, z.outcome = .recalled content →
                terms.isForced = false ∧ z.filter.checksum = some (Sha256.hexDigest content) ∨
                  RuleSet.ofText (Utf8.decodeLossy content) = rules) ∧
            (x.engine.index.rulesAt? z.position = some rules → ∀ request,
              (x.engine.index.alone z.position).check request =
                (e.index.alone z.position).check request) := by
  intro x hresult
  have hbegun := begun_of_result hresult (by simp) (by simp)
  have hf : x.Follows e terms := run_follows (start_follows hbegun) events
  obtain ⟨hnames, hplaces⟩ := RefreshHistory.complete_of_refreshFailed hf hresult
  refine ⟨hnames, hplaces, fun z hz hz' rules hrules => ?_⟩
  cases hc : x.engine.isClosed with
  | true =>
    have hnone := hf.shows.when_closed hc z.position
    simp [hnone]
  | false =>
    obtain ⟨y, hy, hyf, hshown⟩ := RefreshHistory.shown_finished hf.shows hplaces hc hz
    have hyrules : y.rules = some rules := by
      rw [FilterIndex.rulesAt?, hy] at hrules
      exact hrules
    have hafter : x.engine.index.rulesAt? z.position = (z.outcome.apply terms y).rules := by
      rw [FilterIndex.rulesAt?, hshown]
      rfl
    have hiff := FilterOutcome.apply_rules_iff hz' terms hyrules
    obtain ⟨henabled, hid, hname⟩ := z.outcome.apply_filter terms y
    constructor
    · rw [hafter, hiff]
      simp [InService.isCurrent, hyrules, hyf]
    · intro hkept request
      rw [hafter] at hkept
      exact FilterIndex.check_alone_congr hy hshown (hkept.trans hyrules.symm) henabled hid hname
        request

def adsFilter : Filter :=
  { id := 1, name := "Ads", locator := .http "http://lists.example/one.txt", enabled := true }

/-- A refresh while no server can be reached, with or without a cached copy of the filter. -/
def refreshOffline (e : Engine) (copy : Option String) : RefreshCourse :=
  let file (text : String) : Path × Node :=
    (["cache", "1.txt"], .plain (Utf8.encode text.toList))
  let d : Disk := ⟨(["cache"], .directory) :: (copy.map file).toList⟩
  let outage : Surroundings := ⟨fun _ => .unreachable "no route to host", default⟩
  (start { cacheDir := "cache", maxSize := 100, scratch := [0] } e d).run
    (List.replicate 4 (.advance outage))

def cachedEngine : Engine :=
  (refreshOffline (.ofFilters "test" [adsFilter]) (some "||a.example^")).engine

theorem missing_copy_keeps_rules :
    let h := refreshOffline cachedEngine none
    h.result = some (.error (.refreshFailed ["Ads"])) ∧
      (cachedEngine.index.rulesAt? 0).map (·.texts) = some ["||a.example^"] ∧
      h.engine.index.rulesAt? 0 = cachedEngine.index.rulesAt? 0 ∧
      ∀ request, (h.engine.index.alone 0).check request =
        (cachedEngine.index.alone 0).check request := by
  intro h
  have hresult : h.result = some (.error (.refreshFailed ["Ads"])) := by decide +kernel
  have hall : h.finished.map (fun x => (x.position, x.outcome)) = [(0, .failed)] := by
    decide +kernel
  have hopen : h.engine.isClosed = false := by decide +kernel
  have htexts : (cachedEngine.index.rulesAt? 0).map (·.texts) = some ["||a.example^"] := by
    decide +kernel
  obtain ⟨x, hx, hfields⟩ := List.map_eq_singleton_iff.mp hall
  obtain ⟨hposition, houtcome⟩ : x.position = 0 ∧ x.outcome = .failed := by simpa using hfields
  obtain ⟨rules, hrules, -⟩ := Option.map_eq_some_iff.mp htexts
  have hmem : x ∈ h.finished := hx ▸ List.mem_singleton_self x
  have hfailed : x.outcome.succeeded = false := houtcome ▸ rfl
  rw [← hposition] at hrules htexts ⊢
  obtain ⟨hiff, hsame⟩ := (failed_filter_keeps_rules_iff hresult).2.2 x hmem hfailed rules hrules
  have hkept : h.engine.index.rulesAt? x.position = some rules := by
    refine hiff.mpr ⟨hopen, fun content hcontent => ?_⟩
    rw [houtcome] at hcontent
    cases hcontent
  exact ⟨hresult, htexts, hkept.trans hrules.symm, hsame hkept⟩

/-- A copy that was left in the cache by others takes the place of the rules of a filter that
fails. -/
theorem other_copy_replaces_rules :
    let h := refreshOffline cachedEngine (some "||b.example^")
    (cachedEngine.index.rulesAt? 0).map (·.texts) = some ["||a.example^"] ∧
      h.result = some (.error (.refreshFailed ["Ads"])) ∧
      (h.engine.index.rulesAt? 0).map (·.texts) = some ["||b.example^"] := by
  decide +kernel

end RefreshCourse
end DnsFilter
