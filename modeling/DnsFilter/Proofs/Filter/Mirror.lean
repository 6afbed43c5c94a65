import DnsFilter.Proofs.Filter.Outcome
/-!
# Cached copies beside the rules in service

Where the cache directory was empty at first, nobody else changes it, and every content that is
fetched can be saved, the cached copies and the rules in service go together: a filter without rules
has no copy, and one with rules has a copy of the content that they were made from.
-/
namespace DnsFilter

namespace Engine

variable {s : Surroundings} {r : Refresh} {f : Filter} {d : Disk} {content : Bytes}

theorem fetch_length_le (h : fetch s r f d = .ok content) : content.length ≤ r.terms.maxSize := by
  unfold fetch at h
  cases hlocator : f.locator with
  | file path =>
    rw [hlocator] at h
    simp only at h
    split_ifs at h
    exact (read_of_readFile h).2
  | http url =>
    rw [hlocator] at h
    simp only at h
    split_ifs at h
    · cases hreply : s.network url <;> simp [hreply, Reply.lateContent] at h
    · exact Reply.content_length_le h

/-- Nothing is obtained that is longer than the limit. -/
theorem obtained?_length_le (h : obtained? s r f d = some content) :
    content.length ≤ r.terms.maxSize := by
  unfold obtained? at h
  cases hstage : r.stage with
  | fetching =>
    cases hfetch : fetch s r f d with
    | ok c =>
      simp only [hstage, hfetch, Except.toOption, Option.some.injEq] at h
      exact h ▸ fetch_length_le hfetch
    | error failure => simp [hstage, hfetch, Except.toOption] at h
  | recalling =>
    cases hread : readFile f.name r.terms.maxSize r.terms.scratch d (r.cachePath f) with
    | ok c =>
      simp only [hstage, hread, Except.toOption, Option.some.injEq] at h
      exact h ▸ (read_of_readFile hread).2
    | error failure => simp [hstage, hread, Except.toOption] at h
  | _ => simp [hstage] at h

end Engine

namespace RefreshCourse

variable {e : Engine} {terms : RefreshTerms} {x : RefreshCourse}

theorem step_length_le (hf : x.Follows e terms)
    (hx : ∀ content ∈ x.contents, content.length ≤ terms.maxSize) (m : RefreshEvent) :
    ∀ content ∈ (x.step m).contents, content.length ≤ terms.maxSize := by
  unfold step
  split_ifs with hresult
  · exact hx
  cases m with
  | advance s =>
    intro content hcontent
    rcases List.mem_append.mp hcontent with hold | hnew
    · exact hx content hold
    · obtain ⟨r, hu⟩ := underWay_of_open hf (by simpa using hresult)
      rw [Option.mem_toList] at hnew
      simp only [Engine.obtains, hu.refresh, Option.bind_some] at hnew
      obtain ⟨p, -, hobtained⟩ := Option.bind_eq_some_iff.mp hnew
      exact hu.terms ▸ Engine.obtained?_length_le hobtained
  | _ => exact hx

theorem run_length_le (hf : x.Follows e terms)
    (hx : ∀ content ∈ x.contents, content.length ≤ terms.maxSize) (events : List RefreshEvent) :
    ∀ content ∈ (x.run events).contents, content.length ≤ terms.maxSize := by
  induction events generalizing x with
  | nil => exact hx
  | cons m events ih => exact ih (step_follows hf m) (step_length_le hf hx m)

end RefreshCourse

/-! ## One filter -/

namespace InService

inductive IsMirrored (dir : String) (limit : Nat) (p : Path) (d : Disk) (y : InService) : Prop
  | vacant : y.rules = none → y.filter.configured = y.filter →
      d.entry p y.filter.cacheName = none → IsMirrored dir limit p d y
  | copied (content : Bytes) : y.filter.enabled = true → y.IsFrom content →
      content.length ≤ limit → d.read (Disk.join dir y.filter.cacheName) = .ok content →
      IsMirrored dir limit p d y

theorem IsMirrored.congr {dir : String} {limit : Nat} {p : Path} {d d' : Disk} {y : InService}
    (h : y.IsMirrored dir limit p d) (hfolder : d.IsFolder dir p) (hfolder' : d'.IsFolder dir p)
    (hid : y.filter.id < Text.limit64)
    (hentry : d'.entry p y.filter.cacheName = d.entry p y.filter.cacheName) :
    y.IsMirrored dir limit p d' := by
  cases h with
  | vacant hrules hfilter hnone => exact .vacant hrules hfilter (hentry.trans hnone)
  | copied content henabled hfrom hlength hread =>
    refine .copied content henabled hfrom hlength ?_
    rw [hfolder.read_congr (Filter.isPlainName_cacheName hid) hfolder' hentry]
    exact hread

theorem apply_cacheName (o : FilterOutcome) (terms : RefreshTerms) (y : InService) :
    (o.apply terms y).filter.cacheName = y.filter.cacheName := by
  rw [Filter.cacheName, Filter.cacheName, (o.apply_filter terms y).2.1]

end InService

/-! ## One refresh -/

namespace RefreshCourse

variable {q : Premises} {e : Engine} {x : RefreshCourse}

/-- A visit of a refresh that is complete is the only one at its position. -/
theorem IsComplete.visit_eq (hx : x.IsComplete q e) {v w : Visit} (hv : v ∈ x.visits)
    (hw : w ∈ x.visits) (hposition : w.position = v.position) : w = v := by
  have hnodup : (x.visits.map (·.position)).Nodup := by
    have hall := e.enabled_nodup
    rw [← hx.places, List.map_map] at hall
    exact hall
  exact List.inj_on_of_nodup_map hnodup hw hv hposition

/-- The cached copy of a filter that was not fetched is as it was. -/
theorem Tracks.copy_kept (he : e.IsIdentified) (ht : x.Tracks q) (hx : x.IsComplete q e) {i : Nat}
    {y : InService} (hy : e.index.entries[i]? = some y)
    (hsource : ∀ w ∈ x.visits, w.position = i → w.source.toOption = none) :
    x.disk.entry q.place y.filter.cacheName = q.disk.entry q.place y.filter.cacheName := by
  refine ht.kept y.filter (he.lt_of_entry hy) fun w hw hid => hsource w hw ?_
  obtain ⟨z, o, -, hz, hfilter, -⟩ := hx.shown w hw
  exact he.position_eq hz hy (by rw [hfilter, hid])

variable {filters : List Filter} {contents : Set Bytes} {limit : Nat}

/-- A refresh that is complete keeps cached copies and rules in service together. -/
theorem IsComplete.isMirrored (hq : q.disk.IsFolder q.terms.cacheDir q.place)
    (he : e.IsIdentified) (ht : x.Tracks q) (hx : x.IsComplete q e)
    (hinj : Set.InjOn Sha256.hexDigest contents)
    (hcontents : ∀ content ∈ q.contents, content ∈ contents ∧ content.length ≤ limit)
    (hsaved : x.unsaved = [])
    (hmade : ∀ (i : Nat) (y : InService), e.index.entries[i]? = some y → y.IsMade contents)
    (hmirrored : ∀ (i : Nat) (y : InService), e.index.entries[i]? = some y →
      y.IsMirrored q.terms.cacheDir limit q.place q.disk) {i : Nat} {y : InService}
    (hy : x.engine.index.entries[i]? = some y) :
    y.IsMirrored q.terms.cacheDir limit q.place x.disk := by
  by_cases hi : i ∈ x.visits.map (·.position)
  · obtain ⟨v, hv, rfl⟩ := List.mem_map.mp hi
    obtain ⟨before, o, haccounts, hbefore, hfilter, hafter⟩ := hx.shown v hv
    obtain rfl : o.apply q.terms before = y := Option.some.inj (hafter.symm.trans hy)
    have hid := he.lt_of_entry hbefore
    have henabled : (o.apply q.terms before).filter.enabled = true := by
      have hmem : (v.position, v.filter) ∈ e.enabled := hx.places ▸ List.mem_map_of_mem hv
      rw [(o.apply_filter q.terms before).1, hfilter]
      exact Engine.enabled_of_mem hmem
    have hkept (hnone : v.source.toOption = none) :
        x.disk.entry q.place before.filter.cacheName =
          q.disk.entry q.place before.filter.cacheName := by
      refine ht.copy_kept he hx hbefore fun w hw hposition => ?_
      rw [hx.visit_eq hv hw hposition]
      exact hnone
    cases o with
    | fetched content time =>
      obtain ⟨hsource, hcontent, -⟩ := haccounts
      obtain ⟨hmem, hlength⟩ := hcontents content hcontent
      have hfrom := (InService.apply_fetched hinj (hmade _ _ hbefore) hmem q.terms time).1
      refine .copied content henabled hfrom hlength ?_
      rw [InService.apply_cacheName, hfilter]
      exact hx.saved hsaved v hv content hsource
    | recalled content =>
      obtain ⟨hcopy, hcontent⟩ := haccounts
      obtain ⟨hmem, hlength⟩ := hcontents content hcontent
      have hfrom := (InService.apply_recalled hinj (hmade _ _ hbefore) hmem q.terms).1
      refine .copied content henabled hfrom hlength ?_
      obtain ⟨hback, hread, -⟩ := Visit.read_of_copy? hcopy
      obtain ⟨failure, hsource⟩ := Visit.source_of_turnsBack hback
      have hname := Filter.isPlainName_cacheName hid
      rw [RefreshTerms.copyPath, ← hfilter] at hread
      rw [InService.apply_cacheName, hq.read_congr hname ht.folder (hkept ?_)]
      · exact hread
      · rw [hsource]
        rfl
    | failed =>
      exact (hmirrored _ _ hbefore).congr hq ht.folder hid (hkept haccounts.1)
  · rw [hx.others i hi] at hy
    refine (hmirrored i y hy).congr hq ht.folder (he.lt_of_entry hy) ?_
    refine ht.copy_kept he hx hy fun w hw hposition => absurd ?_ hi
    exact hposition ▸ List.mem_map_of_mem hw

end RefreshCourse

/-! ## A whole life -/

namespace EngineLife

/-- Nobody else changes the files in a directory. -/
def Spares (dir : String) : EngineLife → List EngineUse → Prop
  | _, [] => True
  | l, u :: uses =>
    RefreshCourse.Spares dir (RefreshCourse.start u.terms l.engine l.disk) u.events ∧
      Spares dir (l.step u) uses

structure Mirrors (filters : List Filter) (dir : String) (limit : Nat) (p : Path)
    (contents : Set Bytes) (l : EngineLife) : Prop where
  sound : l.engine.IsSound filters contents
  folder : l.disk.IsFolder dir p
  entries : ∀ (i : Nat) (y : InService), l.engine.index.entries[i]? = some y →
    y.IsMirrored dir limit p l.disk

variable {filters : List Filter} {dir : String} {limit : Nat} {p : Path} {contents : Set Bytes}
  {l : EngineLife}

theorem ofFilters_mirrors (name : String) (hfilters : ∀ f ∈ filters, f.configured = f) {d : Disk}
    (hfolder : d.IsFolder dir p) (hempty : d.children p = []) (limit : Nat)
    (contents : Set Bytes) :
    (ofFilters name filters d).Mirrors filters dir limit p contents := by
  refine ⟨Engine.ofFilters_sound name hfilters contents, hfolder, fun i y hy => ?_⟩
  have hmem : y ∈ filters.map (fun f => (⟨f, none⟩ : InService)) := List.mem_of_getElem? hy
  obtain ⟨f, hf, rfl⟩ := List.mem_map.mp hmem
  refine .vacant rfl (hfilters f hf) ?_
  by_contra hsome
  have hchild : f.cacheName ∈ d.children p :=
    Disk.mem_children.mpr (Option.isSome_iff_ne_none.mpr hsome)
  rw [hempty] at hchild
  cases hchild

theorem Mirrors.step (hl : l.Mirrors filters dir limit p contents)
    (hids : l.engine.IsIdentified) (hinj : Set.InjOn Sha256.hexDigest contents) {u : EngineUse}
    (hdir : u.terms.cacheDir = dir) (hlimit : u.terms.maxSize = limit)
    (hspares : RefreshCourse.Spares dir (RefreshCourse.start u.terms l.engine l.disk) u.events)
    (hsaved : (l.step u).unsaved = []) (hidle : (l.step u).engine.refresh = none)
    (hopen : (l.step u).engine.isClosed = false)
    (hcontents : ∀ content ∈ (l.step u).contents, content ∈ contents) :
    (l.step u).Mirrors filters dir limit p contents := by
  subst hdir hlimit
  have hidle₀ : l.engine.refresh = none := RefreshCourse.idle_of_run_idle hidle
  have hopen₀ : l.engine.isClosed = false :=
    RefreshCourse.open_of_start hidle₀ (RefreshCourse.open_of_run hopen)
  have hbegun : (RefreshCourse.start u.terms l.engine l.disk).result = none := by
    rw [RefreshCourse.start_of_idle hidle₀ hopen₀]
  have hfollows := RefreshCourse.start_follows hbegun
  let q : Premises :=
    ⟨u.terms, l.disk, p, RefreshEvent.times u.events, {content | content ∈ (l.course u).contents}⟩
  have htracks : (l.course u).Tracks q :=
    RefreshCourse.Tracks.run (q := q) hl.folder hids hfollows
      (RefreshCourse.tracks_start (q := q) hl.folder hbegun) hspares
      (fun s hs => ⟨s, hs, rfl⟩) fun content hcontent => hcontent
  have hcomplete : (l.course u).IsComplete q l.engine :=
    htracks.complete (RefreshCourse.run_follows hfollows u.events) hidle hopen
  have hlength : ∀ content ∈ (l.course u).contents, content.length ≤ u.terms.maxSize := by
    apply RefreshCourse.run_length_le hfollows
    rw [RefreshCourse.start_of_idle hidle₀ hopen₀]
    intro content hcontent
    cases hcontent
  have hmade := hl.sound.publishes.while_open hopen₀
  refine ⟨step_sound hl.sound u hcontents, htracks.folder, fun i y hy => ?_⟩
  refine hcomplete.isMirrored (q := q) hl.folder hids htracks hinj (fun content hcontent => ?_)
    (List.append_eq_nil_iff.mp hsaved).2 hmade hl.entries hy
  exact ⟨hcontents content (List.mem_append_right _ hcontent), hlength content hcontent⟩

/-- Through a life in which everything is saved, cached copies and rules in service stay together. -/
theorem Mirrors.run (hl : l.Mirrors filters dir limit p contents)
    (hnodup : (filters.map (·.id)).Nodup) (hlt : ∀ f ∈ filters, f.id < Text.limit64)
    (hinj : Set.InjOn Sha256.hexDigest contents) {uses : List EngineUse}
    (hterms : ∀ u ∈ uses, u.terms.cacheDir = dir ∧ u.terms.maxSize = limit)
    (hspares : l.Spares dir uses) (hsaved : (l.run uses).unsaved = [])
    (hidle : (l.run uses).engine.refresh = none)
    (hopen : (l.run uses).engine.isClosed = false)
    (hcontents : ∀ content ∈ (l.run uses).contents, content ∈ contents) :
    (l.run uses).Mirrors filters dir limit p contents := by
  induction uses generalizing l with
  | nil => exact hl
  | cons u uses ih =>
    obtain ⟨hdir, hlimit⟩ := hterms u List.mem_cons_self
    have hids := hl.sound.publishes.isIdentified hnodup hlt
    have hstep := hl.step hids hinj hdir hlimit hspares.1 (saved_of_run (l.step u) hsaved)
      (idle_of_run (l.step u) hidle) (open_of_run (l.step u) hidle hopen)
      fun content hcontent => hcontents content (run_contents (l.step u) uses hcontent)
    exact ih hstep (fun u' hu' => hterms u' (List.mem_cons_of_mem u hu')) hspares.2 hsaved hidle
      hopen hcontents

end EngineLife
end DnsFilter
