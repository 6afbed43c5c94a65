import Mathlib.Data.List.Nodup
import DnsFilter.Proofs.Filter.Refresh
/-!
# The progress of a refresh

At every wait point of a refresh the published index shows each finished filter as its outcome left
it, and each other filter as it was at the start. Nothing is shown of a closed engine.
-/
namespace DnsFilter
namespace Engine

theorem mem_enabled {e : Engine} {position : Nat} {f : Filter} (h : (position, f) ∈ e.enabled) :
    ∃ x, e.index.entries[position]? = some x ∧ x.filter = f := by
  obtain ⟨⟨g, i⟩, hmem, heq⟩ := List.mem_map.mp h
  obtain ⟨rfl, rfl⟩ := Prod.mk.inj heq
  have hat := List.mk_mem_zipIdx_iff_getElem?.mp (List.mem_filter.mp hmem).1
  rw [filters, FilterIndex.filters, List.getElem?_map] at hat
  obtain ⟨x, hx, hf⟩ := Option.map_eq_some_iff.mp hat
  exact ⟨x, hx, hf⟩

theorem enabled_of_entry {e : Engine} {i : Nat} {y : InService}
    (hy : e.index.entries[i]? = some y) (henabled : y.filter.enabled = true) :
    (i, y.filter) ∈ e.enabled := by
  have hat : e.filters[i]? = some y.filter := by
    rw [filters, FilterIndex.filters, List.getElem?_map, hy]
    rfl
  refine List.mem_map.mpr ⟨(y.filter, i), List.mem_filter.mpr ⟨?_, henabled⟩, rfl⟩
  exact List.mk_mem_zipIdx_iff_getElem?.mpr hat

theorem enabled_nodup (e : Engine) : (e.enabled.map Prod.fst).Nodup := by
  have hsub : (e.enabled.map Prod.fst).Sublist (e.filters.zipIdx.map Prod.snd) := by
    rw [enabled, List.map_map]
    exact List.filter_sublist.map Prod.snd
  refine hsub.nodup ?_
  rw [List.zipIdx_map_snd]
  exact List.nodup_range'

@[simp] theorem publish_isClosed (e : Engine) (position : Nat) (g : InService → InService) :
    (e.publish position g).isClosed = e.isClosed := by
  unfold publish
  split_ifs <;> rfl

theorem publish_of_open {e : Engine} (h : e.isClosed = false) (position : Nat)
    (g : InService → InService) :
    (e.publish position g).index.entries = e.index.entries.modify position g := by
  simp [publish, h, FilterIndex.modify]

theorem publish_of_closed {e : Engine} (h : e.isClosed = true) (position : Nat)
    (g : InService → InService) : e.publish position g = e := by
  simp [publish, h]

@[simp] theorem hold_index (e : Engine) (r : Refresh) (d : Disk) :
    (e.hold r d).engine.index = e.index := by
  unfold hold
  split_ifs <;> rfl

@[simp] theorem hold_isClosed (e : Engine) (r : Refresh) (d : Disk) :
    (e.hold r d).engine.isClosed = e.isClosed := by
  unfold hold
  split_ifs <;> rfl

theorem hold_of_nil (e : Engine) {r : Refresh} (h : r.pending = []) (d : Disk) :
    e.hold r d = ⟨{ e with refresh := none }, d, some r.result⟩ := if_pos h

theorem hold_of_ne_nil (e : Engine) {r : Refresh} (h : r.pending ≠ []) (d : Disk) :
    e.hold r d = ⟨{ e with refresh := some r }, d, none⟩ := if_neg h

@[simp] theorem close_isClosed (e : Engine) : e.close.isClosed = true := by
  unfold close
  split_ifs with h
  · exact h
  · rfl

@[simp] theorem close_refresh (e : Engine) : e.close.refresh = e.refresh := by
  unfold close
  split_ifs <;> rfl

theorem ofFilters_filters (l : List Filter) : (FilterIndex.ofFilters l).filters = l := by
  simp [FilterIndex.ofFilters, FilterIndex.filters, Function.comp_def]

@[simp] theorem close_filters (e : Engine) : e.close.filters = e.filters := by
  unfold close
  split_ifs
  · rfl
  · exact ofFilters_filters e.filters

theorem close_rulesAt?_of_open {e : Engine} (h : e.isClosed = false) (position : Nat) :
    e.close.index.rulesAt? position = none := by
  simp [close, h, FilterIndex.rulesAt?, FilterIndex.ofFilters]

/-- What is not in service yet does not come into service by closing. -/
theorem IsWorking.close {e : Engine} {r : Refresh} {position : Nat} {f : Filter}
    (h : e.IsWorking r position f) (hclosed : ∀ p, e.close.index.rulesAt? p = none) :
    e.close.IsWorking r position f := by
  unfold IsWorking at h ⊢
  split at h
  · exact h
  · exact ⟨h.1, by simp [isCurrentAt, hclosed]⟩
  · trivial

end Engine

namespace RefreshHistory

structure Shows (e : Engine) (terms : RefreshTerms) (h : RefreshHistory) : Prop where
  while_open : h.engine.isClosed = false → ∀ position,
    h.engine.index.entries[position]? =
      (e.index.entries[position]?).map (h.effect terms position)
  when_closed : h.engine.isClosed = true → ∀ position, h.engine.index.rulesAt? position = none

/-- A refresh before the first filter, or at the filter in turn. -/
inductive IsAt (e : Engine) (h : RefreshHistory) (r : Refresh) : Prop
  | start : r.pending = [] → h.finished = [] → h.engine.filters = e.filters → IsAt e h r
  | filter {position f rest} : r.pending = (position, f) :: rest →
      h.finished.map Finished.place ++ r.pending = e.enabled →
      h.engine.IsWorking r position f → IsAt e h r

structure UnderWay (e : Engine) (terms : RefreshTerms) (h : RefreshHistory) (r : Refresh) :
    Prop where
  refresh : h.engine.refresh = some r
  result : h.result = none
  terms : r.terms = terms
  failed : r.failed = h.failedNames
  place : h.IsAt e r

/-- A refresh that ended without a cache directory, or with all filters finished. -/
inductive Ended (e : Engine) (h : RefreshHistory) : Prop
  | unprepared {reason : String} : h.engine.refresh = none →
      h.result = some (.error (.files reason)) → Ended e h
  | complete : h.engine.refresh = none → h.finished.map Finished.place = e.enabled →
      h.result = some
        (if h.failedNames = [] then .ok () else .error (.refreshFailed h.failedNames)) → Ended e h

variable {e : Engine} {terms : RefreshTerms} {h h' : RefreshHistory} {r : Refresh}

theorem Shows.congr (hs : h.Shows e terms) (hfinished : h'.finished = h.finished)
    (hindex : h'.engine.index = h.engine.index)
    (hclosed : h'.engine.isClosed = h.engine.isClosed) : h'.Shows e terms := by
  constructor
  · intro hopen position
    have heffect : h'.effect terms position = h.effect terms position := by
      funext x
      simp only [effect, outcomeAt?, hfinished]
    rw [hindex, heffect]
    exact hs.while_open (hclosed ▸ hopen) position
  · intro hshut position
    rw [hindex]
    exact hs.when_closed (hclosed ▸ hshut) position

theorem Shows.close (hs : h.Shows e terms) : h.close.Shows e terms := by
  constructor
  · intro hopen
    simp [RefreshHistory.close] at hopen
  · intro _ position
    cases hc : h.engine.isClosed with
    | true =>
      have hsame : h.close.engine = h.engine := if_pos hc
      rw [hsame]
      exact hs.when_closed hc position
    | false => exact Engine.close_rulesAt?_of_open hc position

theorem outcomeAt?_in_turn {position : Nat} {f : Filter} {rest : List (Nat × Filter)}
    (hplaces : h.finished.map Finished.place ++ (position, f) :: rest = e.enabled) :
    h.outcomeAt? position = none := by
  have hnodup := e.enabled_nodup
  rw [← hplaces, List.map_append, List.nodup_append] at hnodup
  have hfind : h.finished.find? (·.position == position) = none := by
    rw [List.find?_eq_none]
    intro x hx heq
    have hleft : position ∈ (h.finished.map Finished.place).map Prod.fst :=
      List.mem_map.mpr ⟨x.place, List.mem_map_of_mem hx, eq_of_beq heq⟩
    exact hnodup.2.2 position hleft position (by simp) rfl
  rw [outcomeAt?, hfind]
  rfl

theorem outcomeAt?_append {x : Finished} (hfinished : h'.finished = h.finished ++ [x])
    (position : Nat) :
    h'.outcomeAt? position =
      (h.outcomeAt? position).or (if x.position = position then some x.outcome else none) := by
  rw [outcomeAt?, outcomeAt?, hfinished, List.find?_append, Option.map_or]
  by_cases hx : x.position = position <;> simp [hx]

theorem Shows.finish (hs : h.Shows e terms) {x : Finished} {rest : List (Nat × Filter)}
    {g : InService → InService}
    (hplaces : h.finished.map Finished.place ++ x.place :: rest = e.enabled)
    (hg : ∀ y, y.filter = x.filter → y.rules = h.engine.index.rulesAt? x.position →
      g y = x.outcome.apply terms y)
    (hfinished : h'.finished = h.finished ++ [x])
    (hindex : h'.engine.index = (h.engine.publish x.position g).index)
    (hclosed : h'.engine.isClosed = h.engine.isClosed) : h'.Shows e terms := by
  have hnone := outcomeAt?_in_turn hplaces
  constructor
  · intro hopen position
    rw [hclosed] at hopen
    have hshown := hs.while_open hopen position
    rw [hindex, Engine.publish_of_open hopen]
    by_cases hp : x.position = position
    · subst hp
      have hmem : x.place ∈ e.enabled := by
        rw [← hplaces]
        exact List.mem_append_right _ List.mem_cons_self
      obtain ⟨y, hy, hf⟩ := Engine.mem_enabled hmem
      have hsame : h.engine.index.entries[x.position]? = some y := by
        rw [hshown, hy]
        simp [effect, hnone]
      have hrules : y.rules = h.engine.index.rulesAt? x.position := by
        rw [FilterIndex.rulesAt?, hsame]
        rfl
      have heffect : h'.effect terms x.position y = x.outcome.apply terms y := by
        simp [effect, outcomeAt?_append hfinished, hnone]
      rw [List.getElem?_modify_eq, hsame, hy]
      simp [hg y hf hrules, heffect]
    · have heffect : h'.effect terms position = h.effect terms position := by
        funext y
        simp [effect, outcomeAt?_append hfinished, hp]
      rw [List.getElem?_modify_ne _ _ hp, hshown, heffect]
  · intro hshut position
    rw [hclosed] at hshut
    rw [hindex, Engine.publish_of_closed hshut]
    exact hs.when_closed hshut position

structure Follows (e : Engine) (terms : RefreshTerms) (h : RefreshHistory) : Prop where
  shows : h.Shows e terms
  phase : (∃ r, h.UnderWay e terms r) ∨ h.Ended e

theorem failedNames_append {x : Finished} (hfinished : h'.finished = h.finished ++ [x]) :
    h'.failedNames =
      if x.outcome.succeeded then h.failedNames else h.failedNames ++ [x.filter.name] := by
  unfold failedNames
  rw [hfinished, List.filter_append, List.map_append]
  cases hx : x.outcome.succeeded <;> simp [hx]

theorem hold_phase {engine : Engine} {d : Disk} (hengine : h'.engine = (engine.hold r d).engine)
    (hresult : h'.result = (engine.hold r d).result) (hterms : r.terms = terms)
    (hfailed : r.failed = h'.failedNames) (hstage : r.stage = .fetching)
    (hplaces : h'.finished.map Finished.place ++ r.pending = e.enabled) :
    (∃ r, h'.UnderWay e terms r) ∨ h'.Ended e := by
  cases hpending : r.pending with
  | nil =>
    right
    rw [Engine.hold_of_nil engine hpending] at hengine hresult
    rw [hpending, List.append_nil] at hplaces
    refine .complete (by rw [hengine]) hplaces ?_
    rw [hresult, Refresh.result, hfailed]
  | cons next rest =>
    left
    have hne : r.pending ≠ [] := by simp [hpending]
    rw [Engine.hold_of_ne_nil engine hne] at hengine hresult
    refine ⟨r, by rw [hengine], hresult, hterms, hfailed, .filter hpending hplaces ?_⟩
    simp [Engine.IsWorking, hstage]

theorem UnderWay.advance_start (hu : h.UnderWay e terms r) (hs : h.Shows e terms)
    (hpending : r.pending = []) (hfinished : h.finished = [])
    (hfilters : h.engine.filters = e.filters) (s : Surroundings) (d : Disk) :
    (h.advance s d).Follows e terms := by
  have hadvance : h.engine.advance s d = h.engine.prepare r d := by
    simp [Engine.advance, hu.refresh, hpending]
  have hnone : (h.advance s d).finished = h.finished := by
    simp [RefreshHistory.advance, Engine.finishes, hu.refresh, hpending]
  have hengine : (h.advance s d).engine = (h.engine.prepare r d).engine := by
    rw [← hadvance]
    rfl
  have hresult : (h.advance s d).result = (h.engine.prepare r d).result := by
    simp [RefreshHistory.advance, hu.result, hadvance]
  unfold Engine.prepare at hengine hresult
  rcases hmade : (OnDisk.makeDirectories r.terms.cacheDir).perform d with ⟨reason | _, d'⟩ <;>
    rw [hmade] at hengine hresult
  · constructor
    · exact hs.congr hnone (by rw [hengine]) (by rw [hengine])
    · exact .inr (.unprepared (by rw [hengine]) hresult)
  · constructor
    · exact hs.congr hnone (by rw [hengine]; simp) (by rw [hengine]; simp)
    · refine hold_phase hengine hresult hu.terms ?_ rfl ?_
      · rw [hu.failed, failedNames, failedNames, hnone]
      · rw [hnone, hfinished]
        simp [Engine.enabled, hfilters]

theorem UnderWay.advance_filter (hu : h.UnderWay e terms r) (hs : h.Shows e terms)
    {position : Nat} {f : Filter} {rest : List (Nat × Filter)}
    (hpending : r.pending = (position, f) :: rest)
    (hplaces : h.finished.map Finished.place ++ r.pending = e.enabled)
    (hworking : h.engine.IsWorking r position f) (s : Surroundings) (d : Disk) :
    (h.advance s d).Follows e terms := by
  have hadvance : h.engine.advance s d = h.engine.work s r position f d := by
    simp [Engine.advance, hu.refresh, hpending]
  have hengine : (h.advance s d).engine = (h.engine.work s r position f d).engine := by
    rw [← hadvance]
    rfl
  have hresult : (h.advance s d).result = (h.engine.work s r position f d).result := by
    simp [RefreshHistory.advance, hu.result, hadvance]
  have hfinished : (h.advance s d).finished = h.finished ++
      ((h.engine.outcome? s r position f d).map fun o => ⟨position, f, o⟩).toList := by
    simp [RefreshHistory.advance, Engine.finishes, hu.refresh, hpending]
  have hworks := Engine.work_works (s := s) (d := d) hworking
  generalize h.engine.work s r position f d = turn at hengine hresult hworks
  generalize h.engine.outcome? s r position f d = outcome at hfinished hworks
  cases hworks with
  | goesOn stage d' hnext =>
    have hne : ({ r with stage } : Refresh).pending ≠ [] := by simp [hpending]
    rw [Engine.hold_of_ne_nil _ hne] at hengine hresult
    have hsame : (h.advance s d).finished = h.finished := by rw [hfinished]; simp
    constructor
    · exact hs.congr hsame (by rw [hengine]) (by rw [hengine])
    · refine .inl ⟨{ r with stage }, by rw [hengine], hresult, hu.terms, ?_, ?_⟩
      · rw [failedNames, hsame]
        exact hu.failed
      · refine .filter hpending ?_ ?_
        · rw [hsame]
          exact hplaces
        · rw [hengine]
          exact hnext
  | ends o isLate d' g hg =>
    rw [hpending] at hplaces
    rw [hu.terms] at hg
    constructor
    · refine hs.finish (x := ⟨position, f, o⟩) hplaces hg hfinished ?_ ?_
      · rw [hengine, Engine.hold_index]
      · rw [hengine, Engine.hold_isClosed, Engine.publish_isClosed]
    · refine hold_phase hengine hresult hu.terms ?_ rfl ?_
      · rw [failedNames_append hfinished, ← hu.failed]
        cases o <;> rfl
      · rw [hfinished, List.map_append, List.append_assoc, ← hplaces]
        simp [Refresh.pass, hpending, Finished.place]

theorem UnderWay.close (hu : h.UnderWay e terms r) (hs : h.Shows e terms) :
    h.close.UnderWay e terms r := by
  refine ⟨(Engine.close_refresh h.engine).trans hu.refresh, hu.result, hu.terms, hu.failed, ?_⟩
  cases hu.place with
  | start hpending hfinished hfilters =>
    exact .start hpending hfinished ((Engine.close_filters h.engine).trans hfilters)
  | filter hpending hplaces hworking =>
    have hclosed := hs.close.when_closed (Engine.close_isClosed h.engine)
    exact .filter hpending hplaces (hworking.close hclosed)

theorem Ended.advance (hended : h.Ended e) (s : Surroundings) (d : Disk) :
    h.advance s d = h := by
  have hrefresh : h.engine.refresh = none := by cases hended <;> assumption
  simp [RefreshHistory.advance, Engine.advance, Engine.finishes, hrefresh]

theorem Ended.close (hended : h.Ended e) : h.close.Ended e := by
  cases hended with
  | unprepared hrefresh hresult =>
    exact .unprepared ((Engine.close_refresh h.engine).trans hrefresh) hresult
  | complete hrefresh hplaces hresult =>
    exact .complete ((Engine.close_refresh h.engine).trans hrefresh) hplaces hresult

theorem close_follows (hf : h.Follows e terms) : h.close.Follows e terms := by
  refine ⟨hf.shows.close, ?_⟩
  rcases hf.phase with ⟨r, hu⟩ | hended
  · exact .inl ⟨r, hu.close hf.shows⟩
  · exact .inr hended.close

theorem advance_follows (hf : h.Follows e terms) (s : Surroundings) (d : Disk) :
    (h.advance s d).Follows e terms := by
  rcases hf.phase with ⟨r, hu⟩ | hended
  · cases hu.place with
    | start hpending hfinished hfilters =>
      exact hu.advance_start hf.shows hpending hfinished hfilters s d
    | filter hpending hplaces hworking =>
      exact hu.advance_filter hf.shows hpending hplaces hworking s d
  · rw [hended.advance s d]
    exact hf

theorem start_follows (hidle : e.refresh = none) (hopen : e.isClosed = false) :
    (start terms e).Follows e terms := by
  have hstart : start terms e =
      { engine := { e with refresh := some { terms, isLate := terms.isLate } } } := by
    simp [start, Engine.startRefresh, hidle, hopen]
  rw [hstart]
  constructor
  · constructor
    · intro _ position
      have heffect : effect { engine := { e with
          refresh := some { terms, isLate := terms.isLate } } } terms position = id := rfl
      rw [heffect, Option.map_id]
      rfl
    · intro hshut
      exact absurd (hshut.symm.trans hopen) (by simp)
  · exact .inl ⟨_, rfl, rfl, rfl, rfl, .start rfl rfl rfl⟩

end RefreshHistory
end DnsFilter
