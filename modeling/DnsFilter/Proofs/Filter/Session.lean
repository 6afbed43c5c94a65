import Mathlib.Data.Set.Basic
import DnsFilter.Proofs.Filter.Progress
/-!
# Sessions of an engine

Whatever is done with an engine, with any servers, clock and disk at each wait point: while it is open,
a filter without rules is as it was configured, and one with rules is described by the content that
they were made from.
-/
namespace DnsFilter

/-- A filter without anything that is known of its rules. -/
def Filter.configured (f : Filter) : Filter :=
  { f with lastUpdated := none, sizeBytes := 0, rulesCount := 0, checksum := none }

def Stage.content? : Stage → Option Bytes
  | caching content => some content
  | .renaming content => some content
  | compiling content _ _ _ => some content
  | _ => none

def FilterOutcome.content? : FilterOutcome → Option Bytes
  | failed => none
  | fetched content _ => some content
  | recalled content => some content

namespace InService

/-- The rules in service are those of a content, and so is what is known of them. -/
structure IsFrom (content : Bytes) (x : InService) : Prop where
  rules : x.rules = some (RuleSet.ofText (Utf8.decodeLossy content))
  sizeBytes : x.filter.sizeBytes = content.length
  checksum : x.filter.checksum = some (Sha256.hexDigest content)
  rulesCount : x.filter.rulesCount = (RuleSet.ofText (Utf8.decodeLossy content)).count

/-- A filter has no rules and nothing is known of them, or it is enabled and has those of one of
`contents`. -/
inductive IsMade (contents : Set Bytes) (x : InService) : Prop
  | vacant : x.rules = none → x.filter.configured = x.filter → IsMade contents x
  | made (content : Bytes) : content ∈ contents → x.filter.enabled = true → x.IsFrom content →
      IsMade contents x

/-- What is known of a filter describes the rules that it has in service. -/
structure IsDescribed (x : InService) : Prop where
  isSome_iff : x.rules.isSome ↔ x.filter.checksum.isSome
  of_rules : ∀ rules, x.rules = some rules → ∃ content : Bytes,
    rules = RuleSet.ofText (Utf8.decodeLossy content) ∧
      x.filter.sizeBytes = content.length ∧
      x.filter.checksum = some (Sha256.hexDigest content) ∧
      x.filter.rulesCount = rules.count
  of_none : x.rules = none →
    x.filter.sizeBytes = 0 ∧ x.filter.rulesCount = 0 ∧ x.filter.lastUpdated = none
  of_disabled : x.filter.enabled = false → x.rules = none

variable {contents : Set Bytes} {x : InService}

theorem IsMade.isDescribed (h : x.IsMade contents) : x.IsDescribed := by
  cases h with
  | vacant hrules hfilter =>
    rw [Filter.configured] at hfilter
    constructor
    · rw [hrules, ← hfilter]
      simp
    · simp [hrules]
    · intro _
      rw [← hfilter]
      exact ⟨rfl, rfl, rfl⟩
    · exact fun _ => hrules
  | made content _ henabled hfrom =>
    constructor
    · simp [hfrom.rules, hfrom.checksum]
    · intro rules hrules
      rw [hfrom.rules] at hrules
      obtain rfl := Option.some.inj hrules
      exact ⟨content, rfl, hfrom.sizeBytes, hfrom.checksum, hfrom.rulesCount⟩
    · intro hnone
      rw [hfrom.rules] at hnone
      cases hnone
    · intro hdisabled
      rw [henabled] at hdisabled
      cases hdisabled

end InService

namespace FilterOutcome

variable {contents : Set Bytes} {x : InService}

theorem apply_configured (o : FilterOutcome) (terms : RefreshTerms) (x : InService) :
    (o.apply terms x).filter.configured = x.filter.configured := by
  cases o with
  | failed => rfl
  | fetched content time =>
    simp only [apply]
    split_ifs <;> rfl
  | recalled content =>
    simp only [apply]
    split_ifs <;> rfl

theorem compiled_isFrom (content : Bytes) (isFresh : Bool) (time : Timestamp) (x : InService) :
    (Engine.compiled content (Sha256.hexDigest content) isFresh time x).IsFrom content :=
  ⟨rfl, rfl, rfl, rfl⟩

/-- What is current stays as it is but for the time of its fetch. -/
theorem renewed_isMade (hx : x.IsMade contents) (hsome : x.rules.isSome = true)
    (time : Timestamp) : (Engine.renewed time x).IsMade contents := by
  cases hx with
  | vacant hrules _ => simp [hrules] at hsome
  | made content hmem henabled hfrom =>
    exact .made content hmem henabled
      ⟨hfrom.rules, hfrom.sizeBytes, hfrom.checksum, hfrom.rulesCount⟩

theorem apply_isMade {o : FilterOutcome} (ho : ∀ content, o.content? = some content →
      content ∈ contents) (terms : RefreshTerms) (henabled : x.filter.enabled = true)
    (hx : x.IsMade contents) : (o.apply terms x).IsMade contents := by
  cases o with
  | failed => exact hx
  | fetched content time =>
    simp only [apply]
    split_ifs with hc
    · simp only [InService.isCurrent, Bool.and_eq_true] at hc
      exact renewed_isMade hx hc.1.2 time
    · exact .made content (ho content rfl) henabled (compiled_isFrom content true time x)
  | recalled content =>
    simp only [apply]
    split_ifs
    · exact hx
    · exact .made content (ho content rfl) henabled (compiled_isFrom content false default x)

end FilterOutcome

namespace Engine

def obtained? (s : Surroundings) (r : Refresh) (f : Filter) (d : Disk) : Option Bytes :=
  match r.stage with
  | .fetching => (fetch s r f d).toOption
  | .recalling =>
    (readFile f.name r.terms.maxSize r.terms.scratch d (r.cachePath f)).toOption
  | _ => none

def obtains (s : Surroundings) (e : Engine) (d : Disk) : Option Bytes :=
  e.refresh.bind fun r => r.pending.head?.bind fun p => obtained? s r p.2 d

/-- The published index of an engine of `filters` that gets its rules from `contents`. -/
structure Publishes (filters : List Filter) (contents : Set Bytes) (e : Engine) : Prop where
  configured : e.filters.map Filter.configured = filters
  while_open : e.isClosed = false → ∀ (position : Nat) (x : InService),
    e.index.entries[position]? = some x → x.IsMade contents
  when_closed : e.isClosed = true → ∀ position, e.index.rulesAt? position = none

/-- A refresh before its first filter, or at the filter in turn. What it has lined up is still shown
as it was, and the content at hand is one of `contents`. -/
structure IsAtWork (e : Engine) (contents : Set Bytes) (r : Refresh) : Prop where
  nodup : (r.pending.map Prod.fst).Nodup
  shown : ∀ position f, (position, f) ∈ r.pending → f.enabled = true ∧
    ∃ x, e.index.entries[position]? = some x ∧ x.filter = f
  working : ∀ position f, r.pending.head? = some (position, f) → e.IsWorking r position f
  content_mem : ∀ content, r.stage.content? = some content → content ∈ contents

theorem enabled_of_mem {e : Engine} {position : Nat} {f : Filter}
    (h : (position, f) ∈ e.enabled) : f.enabled = true := by
  obtain ⟨⟨g, i⟩, hmem, heq⟩ := List.mem_map.mp h
  obtain ⟨rfl, rfl⟩ := Prod.mk.inj heq
  exact (List.mem_filter.mp hmem).2

structure IsSound (filters : List Filter) (contents : Set Bytes) (e : Engine) : Prop where
  publishes : e.Publishes filters contents
  at_work : ∀ r, e.refresh = some r → e.IsAtWork contents r

variable {filters : List Filter} {contents : Set Bytes} {e e' : Engine} {r : Refresh}
  {position : Nat} {f : Filter} {s : Surroundings} {d : Disk}

theorem hold_refresh (e : Engine) (r : Refresh) (d : Disk) :
    (e.hold r d).engine.refresh = if r.pending = [] then none else some r := by
  unfold hold
  split_ifs <;> rfl

theorem Publishes.congr (he : e.Publishes filters contents) (hindex : e'.index = e.index)
    (hclosed : e'.isClosed = e.isClosed) : e'.Publishes filters contents := by
  constructor
  · rw [Engine.filters, hindex]
    exact he.configured
  · rw [hindex, hclosed]
    exact he.while_open
  · rw [hindex, hclosed]
    exact he.when_closed

theorem IsWorking.congr (h : e.IsWorking r position f) (hindex : e'.index = e.index) :
    e'.IsWorking r position f := by
  unfold IsWorking isCurrentAt at h ⊢
  rw [hindex]
  exact h

theorem Publishes.close (he : e.Publishes filters contents) :
    e.close.Publishes filters contents := by
  constructor
  · rw [close_filters]
    exact he.configured
  · intro hopen
    simp at hopen
  · intro _ position
    cases hc : e.isClosed with
    | true =>
      have hsame : e.close = e := if_pos hc
      rw [hsame]
      exact he.when_closed hc position
    | false => exact close_rulesAt?_of_open hc position

theorem Publishes.publish (he : e.Publishes filters contents) {x : InService}
    (hx : e.index.entries[position]? = some x) (henabled : x.filter.enabled = true)
    {o : FilterOutcome} (ho : ∀ content, o.content? = some content → content ∈ contents)
    {terms : RefreshTerms} {g : InService → InService} (hg : g x = o.apply terms x) :
    (e.publish position g).Publishes filters contents := by
  cases hc : e.isClosed with
  | true =>
    rw [publish_of_closed hc]
    exact he
  | false =>
    have hentries := publish_of_open hc position g
    constructor
    · rw [← he.configured]
      apply List.ext_getElem?
      intro i
      simp only [Engine.filters, FilterIndex.filters, List.getElem?_map, hentries]
      by_cases hi : position = i
      · subst hi
        simp [hx, hg, FilterOutcome.apply_configured]
      · rw [List.getElem?_modify_ne _ _ hi]
    · intro _ i y hy
      rw [hentries] at hy
      by_cases hi : position = i
      · subst hi
        rw [List.getElem?_modify_eq, hx] at hy
        obtain rfl := Option.some.inj hy
        rw [hg]
        exact FilterOutcome.apply_isMade ho terms henabled (he.while_open hc position x hx)
      · rw [List.getElem?_modify_ne _ _ hi] at hy
        exact he.while_open hc i y hy
    · intro hshut
      rw [publish_isClosed, hc] at hshut
      cases hshut

/-- The filters that are not in turn are shown as before when the one in turn is published. -/
theorem IsAtWork.shown_rest (hr : e.IsAtWork contents r) {rest : List (Nat × Filter)}
    (hpending : r.pending = (position, f) :: rest) (g : InService → InService) {i : Nat}
    {f' : Filter} (hmem : (i, f') ∈ rest) :
    f'.enabled = true ∧ ∃ x, (e.publish position g).index.entries[i]? = some x ∧ x.filter = f' := by
  have hne : position ≠ i := by
    have hnodup := hr.nodup
    rw [hpending, List.map_cons, List.nodup_cons] at hnodup
    rintro rfl
    exact hnodup.1 (List.mem_map.mpr ⟨(position, f'), hmem, rfl⟩)
  obtain ⟨henabled, x, hx, hf⟩ := hr.shown i f' (hpending ▸ List.mem_cons_of_mem _ hmem)
  refine ⟨henabled, x, ?_, hf⟩
  cases hc : e.isClosed with
  | true =>
    rw [publish_of_closed hc]
    exact hx
  | false =>
    rw [publish_of_open hc, List.getElem?_modify_ne _ _ hne]
    exact hx

theorem of_hold_refresh {r' : Refresh} (h : (e.hold r d).engine.refresh = some r') : r' = r := by
  rw [hold_refresh] at h
  split_ifs at h
  exact (Option.some.inj h).symm

theorem settle_contents {content : Bytes} (hcontent : content ∈ contents) {isFresh : Bool}
    {r' : Refresh}
    (h : (settle s e r position f content isFresh d).engine.refresh = some r') :
    ∀ c, r'.stage.content? = some c → c ∈ contents := by
  intro c hc
  rw [settle_eq] at h
  by_cases hcurrent : e.isCurrentAt r position f content = true
  · rw [if_pos hcurrent] at h
    rw [of_hold_refresh h] at hc
    cases hc
  · rw [if_neg hcurrent] at h
    rw [of_hold_refresh h] at hc
    obtain rfl := Option.some.inj hc
    exact hcontent

theorem work_contents (hworking : e.IsWorking r position f)
    (hstage : ∀ content, r.stage.content? = some content → content ∈ contents)
    (hobtained : ∀ content, obtained? s r f d = some content → content ∈ contents) {u : Refresh}
    (h : (work s e r position f d).engine.refresh = some u) :
    ∀ content, u.stage.content? = some content → content ∈ contents := by
  intro c hc
  unfold IsWorking at hworking
  unfold obtained? at hobtained
  unfold work at h
  cases hr : r.stage with
  | preparing =>
    rw [hr] at hworking
    exact hworking.elim
  | fetching =>
    simp only [hr] at h hobtained
    cases hfetch : fetch s r f d with
    | ok content =>
      rw [hfetch] at h hobtained
      rw [of_hold_refresh h] at hc
      exact hobtained c hc
    | error failure =>
      -- nothing is at hand behind a failed fetch
      rw [hfetch] at h
      simp only [fetchFailed] at h
      split at h
      · rw [of_hold_refresh h] at hc
        cases hc
      · split_ifs at h <;> (rw [of_hold_refresh h] at hc; cases hc)
  | caching content =>
    have hcontent := hstage content (by rw [hr]; rfl)
    simp only [hr] at h
    cases hwrite : d.write (r.temporaryPath f) content with
    | ok d' =>
      rw [hwrite] at h
      rw [of_hold_refresh h] at hc
      obtain rfl := Option.some.inj hc
      exact hcontent
    | error _ =>
      rw [hwrite] at h
      exact settle_contents hcontent h c hc
  | «renaming» content =>
    simp only [hr] at h
    exact settle_contents (hstage content (by rw [hr]; rfl)) h c hc
  | recalling =>
    simp only [hr] at h hobtained
    cases hread : readFile f.name r.terms.maxSize r.terms.scratch d (r.cachePath f) with
    | ok content =>
      rw [hread] at h hobtained
      exact settle_contents (hobtained content rfl) h c hc
    | error _ =>
      rw [hread] at h
      rw [of_hold_refresh h] at hc
      cases hc
  | compiling content checksum isFresh time =>
    simp only [hr] at h
    rw [of_hold_refresh h] at hc
    cases hc

/-- A filter is finished with the content at hand or with the one that the last step obtains. -/
theorem outcome_contents
    (hstage : ∀ content, r.stage.content? = some content → content ∈ contents)
    (hobtained : ∀ content, obtained? s r f d = some content → content ∈ contents)
    {o : FilterOutcome} (h : outcome? s e r position f d = some o) :
    ∀ content, o.content? = some content → content ∈ contents := by
  intro c hc
  unfold obtained? at hobtained
  unfold outcome? at h
  cases hr : r.stage with
  | preparing => simp [hr] at h
  | fetching =>
    simp only [hr] at h
    split at h
    · cases h
    · cases h
      cases hc
    · split_ifs at h
      cases h
      cases hc
  | caching content =>
    simp only [hr] at h
    split at h
    · cases h
    · split_ifs at h
      cases h
      exact hstage c (by rw [hr]; exact hc)
  | «renaming» content =>
    simp only [hr] at h
    split_ifs at h
    cases h
    exact hstage c (by rw [hr]; exact hc)
  | recalling =>
    simp only [hr] at h hobtained
    cases hread : readFile f.name r.terms.maxSize r.terms.scratch d (r.cachePath f) with
    | ok content =>
      simp only [hread] at h hobtained
      split_ifs at h
      cases h
      exact hobtained c hc
    | error _ =>
      rw [hread] at h
      cases h
      cases hc
  | compiling content checksum isFresh time =>
    simp only [hr, Option.some.injEq] at h
    subst h
    refine hstage c ?_
    rw [hr]
    cases isFresh <;> exact hc

/-- A refresh that has made the cache directory lines up filters as they are shown. -/
theorem prepare_sound (he : e.Publishes filters contents) (r : Refresh) (d : Disk) :
    (e.prepare r d).engine.IsSound filters contents := by
  unfold prepare
  rcases (OnDisk.makeDirectories r.terms.cacheDir).perform d with ⟨reason | _, d'⟩
  · exact ⟨he.congr rfl rfl, fun r' hr' => by cases hr'⟩
  · refine ⟨he.congr (hold_index _ _ _) (hold_isClosed _ _ _), fun r' hr' => ?_⟩
    obtain rfl := of_hold_refresh hr'
    constructor
    · exact e.enabled_nodup
    · intro i f' hmem
      rw [hold_index]
      exact ⟨enabled_of_mem hmem, mem_enabled hmem⟩
    · intro i f' _
      trivial
    · intro c hc
      cases hc

theorem work_sound (he : e.Publishes filters contents) (hr : e.IsAtWork contents r)
    {rest : List (Nat × Filter)} (hpending : r.pending = (position, f) :: rest)
    (hobtained : ∀ content, obtained? s r f d = some content → content ∈ contents) :
    (work s e r position f d).engine.IsSound filters contents := by
  have hworking := hr.working position f (by rw [hpending]; rfl)
  have hcontents := fun u => work_contents (u := u) hworking hr.content_mem hobtained
  have houtcome : ∀ o, outcome? s e r position f d = some o → ∀ content,
      o.content? = some content → content ∈ contents := fun _ =>
    outcome_contents hr.content_mem hobtained
  have hworks := work_works (s := s) (d := d) hworking
  obtain ⟨henabled, x, hx, hf⟩ := hr.shown position f (by rw [hpending]; exact List.mem_cons_self)
  generalize work s e r position f d = turn at hcontents hworks
  generalize outcome? s e r position f d = outcome at houtcome hworks
  cases hworks with
  | goesOn stage d' hnext =>
    refine ⟨he.congr (hold_index _ _ _) (hold_isClosed _ _ _), fun r' hr' => ?_⟩
    have hmem := hcontents r' hr'
    obtain rfl := of_hold_refresh hr'
    refine ⟨hr.nodup, ?_, ?_, hmem⟩
    · rw [hold_index]
      exact hr.shown
    · intro i f' hhead
      simp only [hpending, List.head?_cons, Option.some.injEq, Prod.mk.injEq] at hhead
      obtain ⟨rfl, rfl⟩ := hhead
      exact hnext.congr (hold_index _ _ _)
  | ends o isLate d' g hg =>
    have hrules : x.rules = e.index.rulesAt? position := by
      rw [FilterIndex.rulesAt?, hx]
      rfl
    have hpublished := he.publish hx (hf ▸ henabled) (houtcome o rfl) (hg x hf hrules)
    refine ⟨hpublished.congr (hold_index _ _ _) (hold_isClosed _ _ _), fun r' hr' => ?_⟩
    have hmem := hcontents r' hr'
    obtain rfl := of_hold_refresh hr'
    have htail : ({ r.pass f o.succeeded with isLate } : Refresh).pending = rest := by
      simp [Refresh.pass, hpending]
    refine ⟨?_, ?_, ?_, hmem⟩
    · rw [htail]
      have hnodup := hr.nodup
      rw [hpending, List.map_cons, List.nodup_cons] at hnodup
      exact hnodup.2
    · intro i f' hi
      rw [htail] at hi
      rw [hold_index]
      exact hr.shown_rest hpending g hi
    · intro i f' _
      trivial

theorem advance_sound (he : e.IsSound filters contents)
    (hobtained : ∀ content, e.obtains s d = some content → content ∈ contents) :
    (e.advance s d).engine.IsSound filters contents := by
  unfold advance
  unfold obtains at hobtained
  cases hr : e.refresh with
  | none => exact he
  | some r =>
    rw [hr] at hobtained
    simp only
    cases hpending : r.pending with
    | nil => exact prepare_sound he.publishes r d
    | cons p rest =>
      obtain ⟨position, f⟩ := p
      simp only [hpending, Option.bind_some, List.head?_cons] at hobtained
      exact work_sound he.publishes (he.at_work r hr) hpending hobtained

theorem startRefresh_sound (he : e.IsSound filters contents) (terms : RefreshTerms) (d : Disk) :
    (e.startRefresh terms d).engine.IsSound filters contents := by
  unfold startRefresh
  split_ifs
  · exact he
  · exact he
  · refine ⟨he.publishes.congr rfl rfl, fun r hr => ?_⟩
    obtain rfl := Option.some.inj hr
    exact ⟨List.nodup_nil, by simp, by simp, by simp [Stage.content?]⟩

theorem close_sound (he : e.IsSound filters contents) : e.close.IsSound filters contents := by
  refine ⟨he.publishes.close, fun r hr => ?_⟩
  rw [close_refresh] at hr
  have hwork := he.at_work r hr
  have hnone := he.publishes.close.when_closed (close_isClosed e)
  refine ⟨hwork.nodup, ?_, ?_, hwork.content_mem⟩
  · intro i f hmem
    obtain ⟨henabled, x, hx, hf⟩ := hwork.shown i f hmem
    have hclosed : e.close.filters[i]? = some f := by
      rw [close_filters, Engine.filters, FilterIndex.filters, List.getElem?_map, hx]
      exact congrArg some hf
    rw [Engine.filters, FilterIndex.filters, List.getElem?_map] at hclosed
    obtain ⟨y, hy, hyf⟩ := Option.map_eq_some_iff.mp hclosed
    exact ⟨henabled, y, hy, hyf⟩
  · intro i f hhead
    exact (hwork.working i f hhead).close hnone

theorem expire_sound (he : e.IsSound filters contents) : e.expire.IsSound filters contents := by
  refine ⟨he.publishes.congr rfl rfl, fun r' hr' => ?_⟩
  obtain ⟨r, hr, rfl⟩ := Option.map_eq_some_iff.mp hr'
  have hwork := he.at_work r hr
  exact ⟨hwork.nodup, hwork.shown, hwork.working, hwork.content_mem⟩

theorem handle_sound (he : e.IsSound filters contents) {m : RefreshEvent}
    (hobtained : ∀ s, m = .advance s → ∀ content, e.obtains s d = some content →
      content ∈ contents) : (e.handle d m).engine.IsSound filters contents := by
  cases m with
  | advance s => exact advance_sound he (hobtained s rfl)
  | expire => exact expire_sound he
  | call terms => exact startRefresh_sound he terms d
  | close => exact close_sound he
  | disturb d' => exact he

theorem ofFilters_sound (name : String) {filters : List Filter}
    (hfilters : ∀ f ∈ filters, f.configured = f) (contents : Set Bytes) :
    (ofFilters name filters).IsSound filters contents := by
  refine ⟨⟨?_, ?_, ?_⟩, fun r hr => by cases hr⟩
  · rw [Engine.filters, ofFilters, ofFilters_filters]
    exact (List.map_congr_left hfilters).trans (List.map_id filters)
  · intro _ position x hx
    have hmem : x ∈ filters.map (fun f => ⟨f, none⟩) := List.mem_of_getElem? hx
    obtain ⟨f, hf, rfl⟩ := List.mem_map.mp hmem
    exact .vacant rfl (hfilters f hf)
  · intro hshut
    cases hshut

/-- A filter that is enabled and one that is not. -/
def pairOfFilters : List Filter :=
  [{ id := 1, name := "Ads", locator := .http "http://lists.example/ads.txt", enabled := true },
    { id := 2, name := "Games", locator := .http "http://lists.example/games.txt",
      enabled := false }]

end Engine

namespace EngineHistory

variable {filters : List Filter} {h : EngineHistory}

theorem run_sound (hsound : h.engine.IsSound filters Set.univ) (events : List RefreshEvent) :
    (h.run events).engine.IsSound filters Set.univ := by
  induction events generalizing h with
  | nil => exact hsound
  | cons m events ih => exact ih (Engine.handle_sound hsound fun _ _ _ _ => Set.mem_univ _)

/-- At every moment of a session, an engine that is open publishes its filters as they were
configured, each with what describes the rules that it has in service. -/
theorem published_filters_described (name : String) {filters : List Filter} (d : Disk)
    (hfilters : ∀ f ∈ filters, f.configured = f) (events : List RefreshEvent) :
    let e := ((ofFilters name filters d).run events).engine
    e.isClosed = false →
      e.filters.map Filter.configured = filters ∧ ∀ x ∈ e.index.entries, x.IsDescribed := by
  intro e hopen
  have he : e.IsSound filters Set.univ :=
    run_sound (Engine.ofFilters_sound name hfilters Set.univ) events
  refine ⟨he.publishes.configured, fun x hx => ?_⟩
  obtain ⟨position, hposition⟩ := List.mem_iff_getElem?.mp hx
  exact (he.publishes.while_open hopen position x hposition).isDescribed

/-- The next steps of a refresh while every server answers with one text. -/
def advances (text : String) (steps : Nat) : List RefreshEvent :=
  let server : Surroundings :=
    ⟨fun _ => .answered 200 none [Utf8.encode text.toList] .complete, default⟩
  List.replicate steps (.advance server)

/-- A refresh while every server answers with one text. -/
def refreshWith (text : String) (steps : Nat) : List RefreshEvent :=
  .call { cacheDir := "cache", maxSize := 100, scratch := [0] } :: advances text steps

theorem fetched_filter_described :
    let e := ((ofFilters "test" Engine.pairOfFilters {}).run
      (refreshWith "||a.example^" 5)).engine
    (∀ f ∈ Engine.pairOfFilters, f.configured = f) ∧ e.isClosed = false ∧
      e.index.entries.map (fun x => x.rules.map (·.texts)) = [some ["||a.example^"], none] ∧
      e.filters.map Filter.configured = Engine.pairOfFilters ∧
      ∀ x ∈ e.index.entries, x.IsDescribed := by
  intro e
  have hfilters : ∀ f ∈ Engine.pairOfFilters, f.configured = f := by decide
  have hopen : e.isClosed = false := by decide +kernel
  obtain ⟨hconfigured, hdescribed⟩ :=
    published_filters_described "test" {} hfilters (refreshWith "||a.example^" 5) hopen
  exact ⟨hfilters, hopen, by decide +kernel, hconfigured, hdescribed⟩

end EngineHistory
end DnsFilter
