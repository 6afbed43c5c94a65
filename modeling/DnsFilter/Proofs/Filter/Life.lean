import DnsFilter.Proofs.Filter.Course
/-!
# The life of an engine

Refreshes in any number, one after the other, each with its own course. What was obtained in all of
them, and what could not be saved, is kept beside the engine.
-/
namespace DnsFilter

structure EngineUse where
  terms : RefreshTerms
  events : List RefreshEvent

structure EngineLife where
  engine : Engine
  disk : Disk
  contents : List Bytes := []
  unsaved : List Filter := []

namespace EngineLife

def ofFilters (name : String) (filters : List Filter) (d : Disk) : EngineLife :=
  { engine := .ofFilters name filters, disk := d }

def course (l : EngineLife) (u : EngineUse) : RefreshCourse :=
  (RefreshCourse.start u.terms l.engine l.disk).run u.events

def step (l : EngineLife) (u : EngineUse) : EngineLife where
  engine := (l.course u).engine
  disk := (l.course u).disk
  contents := l.contents ++ (l.course u).contents
  unsaved := l.unsaved ++ (l.course u).unsaved

def run (l : EngineLife) (uses : List EngineUse) : EngineLife := uses.foldl step l

end EngineLife

namespace RefreshCourse

variable {filters : List Filter} {contents : Set Bytes} {x : RefreshCourse}

theorem step_contents (x : RefreshCourse) (m : RefreshEvent) {content : Bytes}
    (h : content ∈ x.contents) : content ∈ (x.step m).contents := by
  unfold step
  split_ifs
  · exact h
  cases m with
  | advance s => exact List.mem_append_left _ h
  | _ => exact h

theorem run_contents (x : RefreshCourse) (events : List RefreshEvent) {content : Bytes}
    (h : content ∈ x.contents) : content ∈ (x.run events).contents := by
  induction events generalizing x with
  | nil => exact h
  | cons m events ih => exact ih (x.step m) (step_contents x m h)

theorem step_sound (hx : x.engine.IsSound filters contents) (m : RefreshEvent)
    (hcontents : ∀ content ∈ (x.step m).contents, content ∈ contents) :
    (x.step m).engine.IsSound filters contents := by
  unfold step at hcontents ⊢
  split_ifs at hcontents ⊢
  · exact hx
  cases m with
  | advance s =>
    refine Engine.advance_sound hx fun content hcontent => hcontents content ?_
    exact List.mem_append_right _ (by simp [hcontent])
  | expire => exact Engine.expire_sound hx
  | call terms => exact Engine.startRefresh_sound hx terms x.disk
  | close => exact Engine.close_sound hx
  | disturb d => exact hx

theorem run_sound (hx : x.engine.IsSound filters contents) (events : List RefreshEvent)
    (hcontents : ∀ content ∈ (x.run events).contents, content ∈ contents) :
    (x.run events).engine.IsSound filters contents := by
  induction events generalizing x with
  | nil => exact hx
  | cons m events ih =>
    refine ih (step_sound hx m fun content hcontent => ?_) hcontents
    exact hcontents content (run_contents (x.step m) events hcontent)

theorem start_sound {e : Engine} (he : e.IsSound filters contents) (terms : RefreshTerms)
    (d : Disk) : (start terms e d).engine.IsSound filters contents :=
  Engine.startRefresh_sound he terms {}

end RefreshCourse

namespace RefreshCourse

theorem idle_of_run_idle {terms : RefreshTerms} {e : Engine} {d : Disk} {events : List RefreshEvent}
    (h : ((start terms e d).run events).engine.refresh = none) : e.refresh = none := by
  cases hr : e.refresh with
  | none => rfl
  | some r =>
    have hrefused : (start terms e d).result.isSome = true := by
      simp [start, RefreshHistory.start, Engine.startRefresh, hr]
    rw [run_of_ended hrefused] at h
    simp [start, RefreshHistory.start, Engine.startRefresh, hr] at h

theorem open_of_start {terms : RefreshTerms} {e : Engine} {d : Disk} (hidle : e.refresh = none)
    (h : (start terms e d).engine.isClosed = false) : e.isClosed = false := by
  cases hc : e.isClosed with
  | false => rfl
  | true => simp [start, RefreshHistory.start, Engine.startRefresh, hidle, hc] at h

end RefreshCourse

namespace EngineLife

variable {filters : List Filter} {contents : Set Bytes} {l : EngineLife}

theorem run_contents (l : EngineLife) (uses : List EngineUse) {content : Bytes}
    (h : content ∈ l.contents) : content ∈ (l.run uses).contents := by
  induction uses generalizing l with
  | nil => exact h
  | cons u uses ih => exact ih (l.step u) (List.mem_append_left _ h)

theorem step_sound (hl : l.engine.IsSound filters contents) (u : EngineUse)
    (hcontents : ∀ content ∈ (l.step u).contents, content ∈ contents) :
    (l.step u).engine.IsSound filters contents := by
  apply RefreshCourse.run_sound (RefreshCourse.start_sound hl u.terms l.disk)
  intro content hcontent
  exact hcontents content (List.mem_append_right _ hcontent)

theorem run_sound (hl : l.engine.IsSound filters contents) (uses : List EngineUse)
    (hcontents : ∀ content ∈ (l.run uses).contents, content ∈ contents) :
    (l.run uses).engine.IsSound filters contents := by
  induction uses generalizing l with
  | nil => exact hl
  | cons u uses ih =>
    refine ih (step_sound hl u fun content hcontent => ?_) hcontents
    exact hcontents content (run_contents (l.step u) uses hcontent)

/-! ## What was so before -/

theorem idle_of_run (l : EngineLife) {uses : List EngineUse}
    (h : (l.run uses).engine.refresh = none) : l.engine.refresh = none := by
  induction uses generalizing l with
  | nil => exact h
  | cons u uses ih => exact RefreshCourse.idle_of_run_idle (ih (l.step u) h)

theorem open_of_run (l : EngineLife) {uses : List EngineUse}
    (hidle : (l.run uses).engine.refresh = none) (h : (l.run uses).engine.isClosed = false) :
    l.engine.isClosed = false := by
  induction uses generalizing l with
  | nil => exact h
  | cons u uses ih =>
    have hstep : (l.course u).engine.isClosed = false := ih (l.step u) hidle h
    exact RefreshCourse.open_of_start (@idle_of_run l (u :: uses) hidle)
      (RefreshCourse.open_of_run hstep)

theorem saved_of_run (l : EngineLife) {uses : List EngineUse} (h : (l.run uses).unsaved = []) :
    l.unsaved = [] := by
  induction uses generalizing l with
  | nil => exact h
  | cons u uses ih => exact (List.append_eq_nil_iff.mp (ih (l.step u) h)).1

end EngineLife
end DnsFilter
