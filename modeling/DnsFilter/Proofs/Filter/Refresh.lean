import Mathlib.Data.List.Basic
import Mathlib.Tactic.SplitIfs
import DnsFilter.Filter.Engine
/-!
# Histories of an engine and of a refresh

An engine with everything that may be done with it at the wait points of its refreshes: the one under
way goes on or its deadline passes, another one is asked for, the engine is closed, or others change
the disk. Beside it, one refresh from its start on, with the outcomes of its filters. These are a
conservative overlay: they never change the engine.
-/
namespace DnsFilter

inductive RefreshEvent
  /-- The refresh goes on to its next wait point. -/
  | advance (s : Surroundings)
  /-- The deadline passes. -/
  | expire
  /-- A refresh is asked for. -/
  | call (terms : RefreshTerms)
  | close
  /-- Others leave the disk like this. -/
  | disturb (d : Disk)

namespace RefreshEvent

def isAdvance : RefreshEvent → Bool
  | advance _ => true
  | _ => false

def isCall : RefreshEvent → Bool
  | call _ => true
  | _ => false

end RefreshEvent

namespace Engine

def expire (e : Engine) : Engine :=
  { e with refresh := e.refresh.map fun r => { r with isLate := true } }

/-- What an event makes of an engine and of the disk. -/
def handle (e : Engine) (d : Disk) : RefreshEvent → Turn
  | .advance s => e.advance s d
  | .expire => ⟨e.expire, d, none⟩
  | .call terms => e.startRefresh terms d
  | .close => ⟨e.close, d, none⟩
  | .disturb d => ⟨e, d, none⟩

end Engine

/-- An engine with the disk, and what was answered to calls for refreshes and what refreshes ended
with. -/
structure EngineHistory where
  engine : Engine
  disk : Disk
  results : List (Except Failure Unit) := []

namespace EngineHistory

def ofFilters (name : String) (filters : List Filter) (d : Disk) : EngineHistory :=
  { engine := .ofFilters name filters, disk := d }

def step (h : EngineHistory) (m : RefreshEvent) : EngineHistory where
  engine := (h.engine.handle h.disk m).engine
  disk := (h.engine.handle h.disk m).disk
  results := h.results ++ (h.engine.handle h.disk m).result.toList

def run (h : EngineHistory) (events : List RefreshEvent) : EngineHistory := events.foldl step h

end EngineHistory

inductive FilterOutcome
  /-- Neither its source nor the cache gives a content. -/
  | failed
  | fetched (content : Bytes) (time : Timestamp)
  /-- The fetch fails, and the cached copy is read instead. -/
  | recalled (content : Bytes)
  deriving DecidableEq, Repr

def InService.isCurrent (terms : RefreshTerms) (content : Bytes) (x : InService) : Bool :=
  !terms.isForced && x.rules.isSome && x.filter.checksum == some (Sha256.hexDigest content)

namespace FilterOutcome

def succeeded : FilterOutcome → Bool
  | fetched _ _ => true
  | _ => false

def apply (terms : RefreshTerms) (x : InService) : FilterOutcome → InService
  | failed => x
  | fetched content time =>
    if x.isCurrent terms content then Engine.renewed time x
    else Engine.compiled content (Sha256.hexDigest content) true time x
  | recalled content =>
    if x.isCurrent terms content then x
    else Engine.compiled content (Sha256.hexDigest content) false default x

end FilterOutcome

/-- A filter that a refresh is done with. -/
structure Finished where
  position : Nat
  filter : Filter
  outcome : FilterOutcome
  deriving DecidableEq, Repr

def Finished.place (x : Finished) : Nat × Filter := (x.position, x.filter)

namespace Engine

def isCurrentAt (e : Engine) (r : Refresh) (position : Nat) (f : Filter) (content : Bytes) : Bool :=
  !r.terms.isForced && (e.index.rulesAt? position).isSome &&
    f.checksum == some (Sha256.hexDigest content)

def outcome? (s : Surroundings) (e : Engine) (r : Refresh) (position : Nat) (f : Filter)
    (d : Disk) : Option FilterOutcome :=
  match r.stage with
  | .preparing => none
  | .fetching =>
    match fetch s r f d with
    | .ok _ => none
    | .error (.filterTimeout _) => some .failed
    | .error _ => if f.locator.isRemote then none else some .failed
  | .caching content =>
    match d.write (r.temporaryPath f) content with
    | .ok _ => none
    | .error _ =>
      if e.isCurrentAt r position f content then some (.fetched content s.now) else none
  | .renaming content =>
    if e.isCurrentAt r position f content then some (.fetched content s.now) else none
  | .recalling =>
    match readFile f.name r.terms.maxSize r.terms.scratch d (r.cachePath f) with
    | .ok content => if e.isCurrentAt r position f content then some (.recalled content) else none
    | .error _ => some .failed
  | .compiling content _ isFresh time =>
    some (if isFresh then .fetched content time else .recalled content)

def finishes (s : Surroundings) (e : Engine) (d : Disk) : Option Finished :=
  match e.refresh with
  | none => none
  | some r =>
    match r.pending with
    | [] => none
    | (position, f) :: _ => (outcome? s e r position f d).map fun o => ⟨position, f, o⟩

end Engine

structure RefreshHistory where
  engine : Engine
  finished : List Finished := []
  result : Option (Except Failure Unit) := none

namespace RefreshHistory

def start (terms : RefreshTerms) (e : Engine) : RefreshHistory where
  engine := (e.startRefresh terms {}).engine
  result := (e.startRefresh terms {}).result

/-- The refresh goes on to its next wait point, on the disk as it is then. -/
def advance (h : RefreshHistory) (s : Surroundings) (d : Disk) : RefreshHistory where
  engine := (h.engine.advance s d).engine
  finished := h.finished ++ (h.engine.finishes s d).toList
  result := h.result.or (h.engine.advance s d).result

def close (h : RefreshHistory) : RefreshHistory := { h with engine := h.engine.close }

def failedNames (h : RefreshHistory) : List String :=
  (h.finished.filter (fun x => !x.outcome.succeeded)).map (·.filter.name)

def outcomeAt? (h : RefreshHistory) (position : Nat) : Option FilterOutcome :=
  (h.finished.find? (·.position == position)).map (·.outcome)

def effect (h : RefreshHistory) (terms : RefreshTerms) (position : Nat) (x : InService) :
    InService :=
  match h.outcomeAt? position with
  | some o => o.apply terms x
  | none => x

end RefreshHistory

namespace Engine

theorem settle_eq (s : Surroundings) (e : Engine) (r : Refresh) (position : Nat) (f : Filter)
    (content : Bytes) (isFresh : Bool) (d : Disk) :
    settle s e r position f content isFresh d =
      if e.isCurrentAt r position f content then
        (if isFresh then e.publish position (renewed s.now) else e).hold (r.pass f isFresh) d
      else
        e.hold { r with
          stage := .compiling content (Sha256.hexDigest content) isFresh s.now } d := rfl

theorem publish_id (e : Engine) (position : Nat) : e.publish position id = e := by
  unfold publish FilterIndex.modify
  split_ifs
  · rfl
  · rw [List.modify_id]

def IsWorking (e : Engine) (r : Refresh) (position : Nat) (f : Filter) : Prop :=
  match r.stage with
  | .preparing => False
  | .compiling content checksum _ _ =>
    checksum = Sha256.hexDigest content ∧ e.isCurrentAt r position f content = false
  | _ => True

inductive Works (e : Engine) (r : Refresh) (position : Nat) (f : Filter) :
    Option FilterOutcome → Turn → Prop
  | goesOn (stage : Stage) (d : Disk) : e.IsWorking { r with stage } position f →
      Works e r position f none (e.hold { r with stage } d)
  | ends (o : FilterOutcome) (isLate : Bool) (d : Disk) (g : InService → InService) :
      (∀ x, x.filter = f → x.rules = e.index.rulesAt? position → g x = o.apply r.terms x) →
      Works e r position f (some o)
        ((e.publish position g).hold { r.pass f o.succeeded with isLate } d)

theorem isCurrentAt_eq {e : Engine} {r : Refresh} {position : Nat} {f : Filter} {x : InService}
    (hf : x.filter = f) (hr : x.rules = e.index.rulesAt? position) (content : Bytes) :
    e.isCurrentAt r position f content = x.isCurrent r.terms content := by
  rw [isCurrentAt, InService.isCurrent, hf, hr]

theorem works_failed (e : Engine) (r : Refresh) (position : Nat) (f : Filter) (isLate : Bool)
    (d : Disk) : Works e r position f (some .failed)
      (e.hold { r.pass f false with isLate } d) := by
  have hends : Works e r position f (some .failed) _ := .ends .failed isLate d id fun _ _ _ => rfl
  rw [publish_id] at hends
  exact hends

theorem settle_works (s : Surroundings) (e : Engine) (r : Refresh) (position : Nat) (f : Filter)
    (content : Bytes) (isFresh : Bool) (d : Disk) :
    Works e r position f
      (if e.isCurrentAt r position f content then
        some (if isFresh then .fetched content s.now else .recalled content) else none)
      (settle s e r position f content isFresh d) := by
  rw [settle_eq]
  cases hc : e.isCurrentAt r position f content with
  | false =>
    apply Works.goesOn
    exact ⟨rfl, hc⟩
  | true =>
    cases isFresh with
    | true =>
      refine Works.ends (.fetched content s.now) r.isLate d (renewed s.now) fun x hf hr => ?_
      rw [isCurrentAt_eq hf hr] at hc
      simp [FilterOutcome.apply, hc]
    | false =>
      have hkept : ∀ x : InService, x.filter = f → x.rules = e.index.rulesAt? position →
          id x = (FilterOutcome.recalled content).apply r.terms x := by
        intro x hf hr
        rw [isCurrentAt_eq hf hr] at hc
        simp [FilterOutcome.apply, hc]
      have hends := Works.ends _ r.isLate d id hkept
      rw [publish_id] at hends
      exact hends

theorem work_works {s : Surroundings} {e : Engine} {r : Refresh} {position : Nat} {f : Filter}
    {d : Disk} (hr : e.IsWorking r position f) :
    Works e r position f (outcome? s e r position f d) (work s e r position f d) := by
  unfold IsWorking at hr
  unfold outcome? work
  cases hstage : r.stage with
  | preparing =>
    rw [hstage] at hr
    exact hr.elim
  | fetching =>
    cases hfetch : fetch s r f d with
    | ok content => exact .goesOn (.caching content) d trivial
    | error failure =>
      simp only [fetchFailed]
      cases failure with
      | filterTimeout _ => exact works_failed e r position f true d
      | _ =>
        cases f.locator.isRemote with
        | true => exact .goesOn .recalling d trivial
        | false => exact works_failed e r position f r.isLate d
  | caching content =>
    simp only
    cases d.write (r.temporaryPath f) content with
    | ok d' => exact .goesOn (.renaming content) d' trivial
    | error _ => exact settle_works s e r position f content true d
  | «renaming» content => exact settle_works s e r position f content true _
  | recalling =>
    simp only
    cases readFile f.name r.terms.maxSize r.terms.scratch d (r.cachePath f) with
    | ok content => exact settle_works s e r position f content false d
    | error _ => exact works_failed e r position f r.isLate d
  | compiling content checksum isFresh time =>
    rw [hstage] at hr
    obtain ⟨rfl, hc⟩ := hr
    cases isFresh with
    | true =>
      refine Works.ends (.fetched content time) r.isLate d _ fun x hf hx => ?_
      rw [isCurrentAt_eq hf hx] at hc
      simp [FilterOutcome.apply, hc]
    | false =>
      refine Works.ends (.recalled content) r.isLate d _ fun x hf hx => ?_
      rw [isCurrentAt_eq hf hx] at hc
      simp [FilterOutcome.apply, hc, compiled]

end Engine
end DnsFilter
