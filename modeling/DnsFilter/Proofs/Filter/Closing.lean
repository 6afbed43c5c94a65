import DnsFilter.Proofs.Filter.Course
/-!
# Closed engines

A closed engine publishes nothing, whatever may be done with it, so what closing leaves of its index
is there for good.
-/
namespace DnsFilter

theorem FilterIndex.check_of_no_rules {x : FilterIndex} (h : ∀ y ∈ x.entries, y.rules = none)
    (request : FilterRequest) : x.check request = .noMatch := by
  have hnone (action : Action) (host : List Char) (answer : Option IpAddress)
      (type : RecordType) : x.rule? action host answer type = none := by
    rw [rule?, List.findSome?_eq_none_iff]
    intro y hy
    simp [InService.rule?, h y hy]
  simp only [check, hnone]

namespace Engine

variable {e : Engine}

theorem settle_index_of_closed (h : e.isClosed = true) (s : Surroundings) (r : Refresh)
    (position : Nat) (f : Filter) (content : Bytes) (isFresh : Bool) (d : Disk) :
    (settle s e r position f content isFresh d).engine.index = e.index := by
  rw [settle_eq]
  split_ifs <;> simp [publish_of_closed h]

theorem work_index_of_closed (h : e.isClosed = true) (s : Surroundings) (r : Refresh)
    (position : Nat) (f : Filter) (d : Disk) :
    (work s e r position f d).engine.index = e.index := by
  unfold work prepare fetchFailed
  repeat' split
  all_goals simp [settle_index_of_closed h, publish_of_closed h]

/-- A refresh publishes nothing of a closed engine. -/
theorem advance_index_of_closed (h : e.isClosed = true) (s : Surroundings) (d : Disk) :
    (e.advance s d).engine.index = e.index := by
  unfold advance
  repeat' split
  · rfl
  · unfold prepare
    split <;> simp
  · exact work_index_of_closed h ..

theorem startRefresh_of_closed (h : e.isClosed = true) (terms : RefreshTerms) (d : Disk) :
    e.startRefresh terms d = ⟨e, d, some (.error
      (if e.refresh.isSome then .refreshInProgress else .engineClosed))⟩ := by
  cases hr : e.refresh with
  | none => simp [startRefresh, hr, h]
  | some r => simp [startRefresh, hr]

@[simp] theorem startRefresh_isClosed (terms : RefreshTerms) (e : Engine) (d : Disk) :
    (e.startRefresh terms d).engine.isClosed = e.isClosed := by
  unfold startRefresh
  split_ifs <;> rfl

theorem close_of_closed (h : e.isClosed = true) : e.close = e := if_pos h

theorem advance_of_idle (h : e.refresh = none) (s : Surroundings) (d : Disk) :
    e.advance s d = ⟨e, d, none⟩ := by
  simp [advance, h]

/-! ## Events -/

theorem handle_isClosed_iff (e : Engine) (d : Disk) (m : RefreshEvent) :
    (e.handle d m).engine.isClosed = true ↔ e.isClosed = true ∨ m = .close := by
  cases m with
  | advance s => simp [handle, advance_isClosed]
  | call terms => simp [handle]
  | close => simp [handle]
  | _ => simp [handle, expire]

theorem handle_index_of_closed (h : e.isClosed = true) (d : Disk) (m : RefreshEvent) :
    (e.handle d m).engine.index = e.index := by
  cases m with
  | advance s => exact advance_index_of_closed h s d
  | call terms => simp [handle, startRefresh_of_closed h]
  | close => simp [handle, close_of_closed h]
  | _ => rfl

theorem handle_idle_of_closed (h : e.isClosed = true) (hidle : e.refresh = none) (d : Disk)
    (m : RefreshEvent) : (e.handle d m).engine.refresh = none := by
  cases m with
  | advance s => simp [handle, advance_of_idle hidle, hidle]
  | expire => simp [handle, expire, hidle]
  | call terms => simp [handle, startRefresh_of_closed h, hidle]
  | close => simp [handle, hidle]
  | disturb d => exact hidle

def IsCleared (e : Engine) : Prop :=
  e.isClosed = true → ∀ x ∈ e.index.entries, x.rules = none

theorem close_isCleared (h : e.IsCleared) : e.close.IsCleared := by
  cases hc : e.isClosed with
  | true => rwa [close_of_closed hc]
  | false =>
    intro _ x hx
    have hindex : e.close.index = .ofFilters e.filters := by simp [close, hc]
    rw [hindex] at hx
    obtain ⟨f, -, rfl⟩ := List.mem_map.mp hx
    rfl

theorem handle_isCleared (h : e.IsCleared) (d : Disk) (m : RefreshEvent) :
    (e.handle d m).engine.IsCleared := by
  intro hclosed
  -- it was closed before and shows the same, or it is closed now
  rcases (handle_isClosed_iff e d m).mp hclosed with hc | rfl
  · rw [handle_index_of_closed hc]
    exact h hc
  · exact close_isCleared h hclosed

end Engine

namespace EngineHistory

variable {h : EngineHistory}

theorem run_isCleared (hcleared : h.engine.IsCleared) (events : List RefreshEvent) :
    (h.run events).engine.IsCleared := by
  induction events generalizing h with
  | nil => exact hcleared
  | cons m events ih => exact ih (Engine.handle_isCleared hcleared h.disk m)

theorem ofFilters_isCleared (name : String) (filters : List Filter) (d : Disk) :
    (ofFilters name filters d).engine.IsCleared := by
  intro hclosed
  cases hclosed

/-! ## After the first close -/

structure IsLeft (e : Engine) (h : EngineHistory) : Prop where
  isClosed : h.engine.isClosed = true
  index : h.engine.index = e.index
  idle : e.refresh = none → h.engine.refresh = none

theorem step_isLeft {e : Engine} (hleft : h.IsLeft e) (m : RefreshEvent) :
    (h.step m).IsLeft e where
  isClosed := (Engine.handle_isClosed_iff h.engine h.disk m).mpr (.inl hleft.isClosed)
  index := (Engine.handle_index_of_closed hleft.isClosed h.disk m).trans hleft.index
  idle he := Engine.handle_idle_of_closed hleft.isClosed (hleft.idle he) h.disk m

theorem run_isLeft {e : Engine} (hleft : h.IsLeft e) (events : List RefreshEvent) :
    (h.run events).IsLeft e := by
  induction events generalizing h with
  | nil => exact hleft
  | cons m events ih => exact ih (step_isLeft hleft m)

theorem step_call (hclosed : h.engine.isClosed = true) (terms : RefreshTerms) :
    h.step (.call terms) = { h with
      results := h.results ++ [.error
        (if h.engine.refresh.isSome then .refreshInProgress else .engineClosed)] } := by
  simp [step, Engine.handle, Engine.startRefresh_of_closed hclosed]

theorem step_close (hclosed : h.engine.isClosed = true) : h.step .close = h := by
  simp [step, Engine.handle, Engine.close_of_closed hclosed]

/-- Whatever was done with an engine before it is closed, and whatever is done with it afterwards:
its filters have no rules in service, every request goes unmatched, and its index stays as it was
left, though a refresh may be under way and go on. Nothing begins any more. A call for a refresh is
rejected, as one for another refresh if there is one under way and as one of a closed engine
otherwise, and leaves the engine and the disk alone. Closing again changes nothing. -/
theorem close_is_final (name : String) (filters : List Filter) (d : Disk)
    (before after : List RefreshEvent) :
    let shown := (ofFilters name filters d).run before
    let closed := shown.step .close
    let later := closed.run after
    (∀ x ∈ later.engine.index.entries, x.rules = none) ∧
      (∀ request, later.engine.check request = .noMatch) ∧
      later.engine.index = closed.engine.index ∧
      later.engine.filters = shown.engine.filters ∧
      (shown.engine.refresh = none → later.engine.refresh = none) ∧
      (∀ terms, later.step (.call terms) = { later with
        results := later.results ++ [.error
          (if later.engine.refresh.isSome then .refreshInProgress else .engineClosed)] }) ∧
      later.step .close = later := by
  intro shown closed later
  have hcleared : later.engine.IsCleared :=
    run_isCleared (Engine.close_isCleared
      (run_isCleared (ofFilters_isCleared name filters d) before)) after
  have hleft : later.IsLeft closed.engine :=
    run_isLeft ⟨Engine.close_isClosed shown.engine, rfl, id⟩ after
  have hnone := hcleared hleft.isClosed
  have hfilters : later.engine.filters = shown.engine.filters := by
    rw [Engine.filters, hleft.index]
    exact Engine.close_filters shown.engine
  have hidle (he : shown.engine.refresh = none) : later.engine.refresh = none :=
    hleft.idle ((Engine.close_refresh shown.engine).trans he)
  exact ⟨hnone, FilterIndex.check_of_no_rules hnone, hleft.index, hfilters, hidle,
    step_call hleft.isClosed, step_close hleft.isClosed⟩

/-- A second refresh goes on to its end when the engine is closed behind its first step. -/
theorem close_during_refresh :
    let terms : RefreshTerms := { cacheDir := "cache", maxSize := 100, scratch := [0] }
    let before := refreshWith "||a.example^" 5 ++ refreshWith "||b.example^" 1
    let shown := (ofFilters "test" Engine.pairOfFilters {}).run before
    let later := (shown.step .close).run (advances "||b.example^" 4)
    shown.engine.index.entries.map (fun x => x.rules.map (·.texts)) =
        [some ["||a.example^"], none] ∧
      shown.results = [.ok ()] ∧ later.results = [.ok (), .ok ()] ∧
      (∀ x ∈ later.engine.index.entries, x.rules = none) ∧
      (∀ request, later.engine.check request = .noMatch) ∧
      later.engine.filters = shown.engine.filters ∧
      (∀ terms, later.step (.call terms) = { later with
        results := later.results ++ [.error
          (if later.engine.refresh.isSome then .refreshInProgress else .engineClosed)] }) ∧
      (later.step (.call terms)).results = [.ok (), .ok (), .error .engineClosed] ∧
      later.step .close = later := by
  intro terms before shown later
  obtain ⟨hshown, hresults, hended, hrefused⟩ :
      shown.engine.index.entries.map (fun x => x.rules.map (·.texts)) =
          [some ["||a.example^"], none] ∧
        shown.results = [.ok ()] ∧ later.results = [.ok (), .ok ()] ∧
        (later.step (.call terms)).results = [.ok (), .ok (), .error .engineClosed] := by
    decide +kernel
  obtain ⟨hnone, hcheck, -, hfilters, -, hcall, hclose⟩ :=
    close_is_final "test" Engine.pairOfFilters {} before (advances "||b.example^" 4)
  exact ⟨hshown, hresults, hended, hnone, hcheck, hfilters, hcall, hrefused, hclose⟩

end EngineHistory
end DnsFilter
