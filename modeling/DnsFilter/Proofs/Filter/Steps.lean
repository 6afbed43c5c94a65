import DnsFilter.Proofs.Filter.Course
/-!
# The steps of a filter

Everything that one step can do for the filter in turn, said once: what was the case before it, the
refresh that is held after it, the disk that it leaves, and the outcome if it is the last one. What
a refresh does as a whole is derived from this, and so is that it ends.
-/
namespace DnsFilter

def Failure.isTimeout : Failure → Bool
  | filterTimeout _ => true
  | _ => false

namespace FilterOutcome

def got (content : Bytes) (isFresh : Bool) (time : Timestamp) : FilterOutcome :=
  if isFresh then fetched content time else recalled content

end FilterOutcome

namespace Refresh

/-- A step that gets hold of a content to put in service, and the disk that it leaves. -/
inductive Obtains (r : Refresh) (f : Filter) (d : Disk) : Bytes → Bool → Disk → Prop
  | unwritten {content : Bytes} {reason : FileError} : r.stage = .caching content →
      d.write (r.temporaryPath f) content = .error reason → Obtains r f d content true d
  | saved {content : Bytes} {d' : Disk} : r.stage = .renaming content →
      d.rename (r.temporaryPath f) (r.cachePath f) = .ok d' → Obtains r f d content true d'
  | unmoved {content : Bytes} {reason : FileError} : r.stage = .renaming content →
      d.rename (r.temporaryPath f) (r.cachePath f) = .error reason → Obtains r f d content true d
  | recalled {content : Bytes} : r.stage = .recalling →
      readFile f.name r.terms.maxSize r.terms.scratch d (r.cachePath f) = .ok content →
      Obtains r f d content false d

inductive Steps (s : Surroundings) (r : Refresh) (f : Filter) (d : Disk) :
    Option FilterOutcome → Refresh → Disk → Prop
  | fetches {content : Bytes} : r.stage = .fetching → Engine.fetch s r f d = .ok content →
      Steps s r f d none { r with stage := .caching content } d
  | turnsBack {failure : Failure} : r.stage = .fetching → Engine.fetch s r f d = .error failure →
      failure.isTimeout = false → f.locator.isRemote = true →
      Steps s r f d none { r with stage := .recalling } d
  | givesUp {failure : Failure} (isLate : Bool) : r.stage = .fetching →
      Engine.fetch s r f d = .error failure →
      failure.isTimeout = true ∨ f.locator.isRemote = false →
      Steps s r f d (some .failed) { r.pass f false with isLate } d
  | writes {content : Bytes} {d' : Disk} : r.stage = .caching content →
      d.write (r.temporaryPath f) content = .ok d' →
      Steps s r f d none { r with stage := .renaming content } d'
  | misses {failure : Failure} : r.stage = .recalling →
      readFile f.name r.terms.maxSize r.terms.scratch d (r.cachePath f) = .error failure →
      Steps s r f d (some .failed) (r.pass f false) d
  | compiles {content : Bytes} {isFresh : Bool} {d' : Disk} : r.Obtains f d content isFresh d' →
      Steps s r f d none
        { r with stage := .compiling content (Sha256.hexDigest content) isFresh s.now } d'
  | skips {content : Bytes} {isFresh : Bool} {d' : Disk} : r.Obtains f d content isFresh d' →
      Steps s r f d (some (.got content isFresh s.now)) (r.pass f isFresh) d'
  | publishes {content : Bytes} {checksum : String} {isFresh : Bool} {time : Timestamp} :
      r.stage = .compiling content checksum isFresh time →
      Steps s r f d (some (.got content isFresh time)) (r.pass f isFresh) d

end Refresh

namespace Engine

variable {s : Surroundings} {e : Engine} {r : Refresh} {position : Nat} {f : Filter} {d : Disk}

/-- A step holds a refresh that takes one of the steps for the filter in turn. -/
def Takes (s : Surroundings) (r : Refresh) (f : Filter) (d : Disk) (o : Option FilterOutcome)
    (turn : Turn) : Prop :=
  ∃ e' r' d', turn = hold e' r' d' ∧ r.Steps s f d o r' d'

theorem settle_takes {content : Bytes} {isFresh : Bool} {d' : Disk}
    (h : r.Obtains f d content isFresh d') :
    Takes s r f d
      (if e.isCurrentAt r position f content then some (.got content isFresh s.now) else none)
      (settle s e r position f content isFresh d') := by
  rw [settle_eq]
  by_cases hcurrent : e.isCurrentAt r position f content = true
  · rw [if_pos hcurrent, if_pos hcurrent]
    exact ⟨_, _, _, rfl, .skips h⟩
  · rw [if_neg hcurrent, if_neg hcurrent]
    exact ⟨_, _, _, rfl, .compiles h⟩

theorem work_takes (hr : e.IsWorking r position f) :
    Takes s r f d (outcome? s e r position f d) (work s e r position f d) := by
  unfold IsWorking at hr
  unfold outcome? work
  cases hstage : r.stage with
  | preparing =>
    rw [hstage] at hr
    exact hr.elim
  | fetching =>
    cases hfetch : fetch s r f d with
    | ok content => exact ⟨_, _, _, rfl, .fetches hstage hfetch⟩
    | error failure =>
      simp only [fetchFailed]
      cases failure with
      | filterTimeout _ => exact ⟨_, _, _, rfl, .givesUp true hstage hfetch (.inl rfl)⟩
      | _ =>
        cases hremote : f.locator.isRemote with
        | true => exact ⟨_, _, _, rfl, .turnsBack hstage hfetch rfl hremote⟩
        | false => exact ⟨_, _, _, rfl, .givesUp r.isLate hstage hfetch (.inr hremote)⟩
  | caching content =>
    simp only
    cases hwrite : d.write (r.temporaryPath f) content with
    | ok d' => exact ⟨_, _, _, rfl, .writes hstage hwrite⟩
    | error reason => exact settle_takes (.unwritten hstage hwrite)
  | «renaming» content =>
    simp only
    cases hrename : d.rename (r.temporaryPath f) (r.cachePath f) with
    | ok d' => exact settle_takes (.saved hstage hrename)
    | error reason => exact settle_takes (.unmoved hstage hrename)
  | recalling =>
    simp only
    cases hread : readFile f.name r.terms.maxSize r.terms.scratch d (r.cachePath f) with
    | ok content => exact settle_takes (.recalled hstage hread)
    | error failure => exact ⟨_, _, _, rfl, .misses hstage hread⟩
  | compiling content checksum isFresh time => exact ⟨_, _, _, rfl, .publishes hstage⟩

end Engine

namespace RefreshCourse

variable {e : Engine} {terms : RefreshTerms} {x : RefreshCourse} {r : Refresh} {position : Nat}
  {f : Filter} {rest : List (Nat × Filter)}

structure Advances (x : RefreshCourse) (s : Surroundings) (r : Refresh) (position : Nat) (f : Filter)
    (o : Option FilterOutcome) (r' : Refresh) : Prop where
  steps : r.Steps s f x.disk o r' (x.advance s).disk
  finished : (x.advance s).finished = x.finished ++ (o.map (⟨position, f, ·⟩)).toList
  refresh : (x.advance s).engine.refresh = if r'.pending = [] then none else some r'
  result : (x.advance s).result = if r'.pending = [] then some r'.result else none
  visits : (x.advance s).visits =
    x.visits ++ if r.stage = .fetching then [⟨position, f, Engine.fetch s r f x.disk⟩] else []
  unsaved : (x.advance s).unsaved = x.unsaved ++ if r.saves f x.disk then [] else [f]

theorem advances (hu : x.UnderWay e terms r) (hpending : r.pending = (position, f) :: rest)
    (hworking : x.engine.IsWorking r position f) (s : Surroundings) :
    ∃ o r', x.Advances s r position f o r' := by
  have hadvance : x.engine.advance s x.disk = x.engine.work s r position f x.disk := by
    simp [Engine.advance, hu.refresh, hpending]
  obtain ⟨e', r', d', hwork, hsteps⟩ := Engine.work_takes (s := s) (d := x.disk) hworking
  rw [← hadvance] at hwork
  have hdisk : (x.engine.advance s x.disk).disk = d' := by
    rw [hwork]
    unfold Engine.hold
    split_ifs <;> rfl
  refine ⟨x.engine.outcome? s r position f x.disk, r', ?_, ?_, ?_, ?_, ?_, ?_⟩
  · change r.Steps s f x.disk _ r' (x.engine.advance s x.disk).disk
    rwa [hdisk]
  · simp [advance, RefreshHistory.advance, Engine.finishes, hu.refresh, hpending]
  · change (x.engine.advance s x.disk).engine.refresh = _
    rw [hwork, Engine.hold_refresh]
  · change x.result.or (x.engine.advance s x.disk).result = _
    rw [hu.result, hwork]
    unfold Engine.hold
    split_ifs <;> rfl
  · simp only [advance, Engine.visit?, hu.refresh, hpending, Option.bind_some, List.head?_cons]
    split_ifs <;> rfl
  · simp only [advance, Engine.unsaved?, hu.refresh, hpending, Option.bind_some, List.head?_cons]
    split_ifs <;> rfl

end RefreshCourse

/-! ## The end of a refresh -/

def Stage.progress : Stage → Nat
  | preparing => 0
  | fetching => 0
  | caching _ => 1
  | .renaming _ => 2
  | recalling => 2
  | compiling _ _ _ _ => 3

def Refresh.remaining (e : Engine) (r : Refresh) : Nat :=
  if r.pending = [] then e.stepLimit else 4 * r.pending.length - r.stage.progress

namespace Refresh

variable {s : Surroundings} {e : Engine} {r r' : Refresh} {f : Filter} {d d' : Disk}
  {o : Option FilterOutcome} {position : Nat} {rest : List (Nat × Filter)}

theorem Obtains.progress_le {content : Bytes} {isFresh : Bool}
    (h : r.Obtains f d content isFresh d') : r.stage.progress ≤ 2 := by
  cases h with
  | unwritten hstage _ => simp [hstage, Stage.progress]
  | saved hstage _ => simp [hstage, Stage.progress]
  | unmoved hstage _ => simp [hstage, Stage.progress]
  | recalled hstage _ => simp [hstage, Stage.progress]

/-- A step goes on with the same filter, which is further then, or it has an outcome and goes on to
the first stage of the next filter. -/
theorem Steps.goes_on (h : r.Steps s f d o r' d') :
    o = none ∧ r'.pending = r.pending ∧ r.stage.progress < r'.stage.progress ∨
      o.isSome = true ∧ r'.pending = r.pending.tail ∧ r'.stage = .fetching := by
  cases h with
  | fetches hstage _ => exact .inl ⟨rfl, rfl, by simp [hstage, Stage.progress]⟩
  | turnsBack hstage _ _ _ => exact .inl ⟨rfl, rfl, by simp [hstage, Stage.progress]⟩
  | writes hstage _ => exact .inl ⟨rfl, rfl, by simp [hstage, Stage.progress]⟩
  | compiles hobtains => exact .inl ⟨rfl, rfl, Nat.lt_succ_of_le hobtains.progress_le⟩
  | givesUp | misses | skips | publishes => exact .inr ⟨rfl, rfl, rfl⟩

theorem progress_lt (r : Refresh) : r.stage.progress < 4 := by
  cases r.stage <;> simp [Stage.progress]

theorem remaining_pos (e : Engine) (r : Refresh) : 0 < r.remaining e := by
  unfold remaining
  split_ifs with hend
  · exact Nat.add_pos_left Nat.one_pos _
  · have hlength := List.length_pos_iff.mpr hend
    have hprogress := r.progress_lt
    omega

theorem Steps.remaining_lt (h : r.Steps s f d o r' d') (hpending : r.pending = (position, f) :: rest)
    (hmore : r'.pending ≠ []) : r'.remaining e < r.remaining e := by
  have hne : r.pending ≠ [] := by simp [hpending]
  have hlength : r.pending.length = rest.length + 1 := by simp [hpending]
  have hprogress := r.progress_lt
  rw [remaining, remaining, if_neg hmore, if_neg hne]
  rcases h.goes_on with ⟨-, hsame, hless⟩ | ⟨-, htail, hstage⟩
  · rw [hsame]
    have hprogress' := r'.progress_lt
    omega
  · have hlength' : r'.pending.length = rest.length := by simp [htail, hpending]
    rw [hstage, Stage.progress]
    omega

end Refresh

namespace RefreshCourse

variable {e : Engine} {terms : RefreshTerms} {x : RefreshCourse} {r : Refresh}

theorem advance_remaining (hu : x.UnderWay e terms r) (s : Surroundings) {r' : Refresh}
    (hr' : (x.advance s).engine.refresh = some r') : r'.remaining e < r.remaining e := by
  cases hu.place with
  | start hpending _ hfilters =>
    have hprepare : (x.engine.prepare r x.disk).engine.refresh = some r' := by
      rw [← hr']
      simp [advance, RefreshHistory.advance, Engine.advance, hu.refresh, hpending]
    unfold Engine.prepare at hprepare
    split at hprepare
    · cases hprepare
    · rw [Engine.hold_refresh] at hprepare
      split_ifs at hprepare with hend
      obtain rfl := Option.some.inj hprepare
      have hsame : x.engine.enabled = e.enabled := by rw [Engine.enabled, Engine.enabled, hfilters]
      rw [Refresh.remaining, Refresh.remaining, if_neg hend, if_pos hpending, Engine.stepLimit]
      simp only [hsame, Stage.progress]
      omega
  | filter hpending _ hworking =>
    obtain ⟨o, next, hadvances⟩ := advances hu hpending hworking s
    have hrefresh := hadvances.refresh
    rw [hr'] at hrefresh
    split_ifs at hrefresh with hend
    obtain rfl := Option.some.inj hrefresh
    exact hadvances.steps.remaining_lt hpending hend

theorem step_remaining (hf : x.Follows e terms) (hu : x.UnderWay e terms r) (m : RefreshEvent)
    (hmore : (x.step m).result = none) :
    ∃ r', (x.step m).UnderWay e terms r' ∧
      r'.remaining e + (if m.isAdvance then 1 else 0) ≤ r.remaining e := by
  obtain ⟨r', hu'⟩ := underWay_of_open (step_follows hf m) hmore
  refine ⟨r', hu', ?_⟩
  have hstep := hu'.refresh
  unfold step at hmore hstep
  rw [if_neg (by simp [hu.result])] at hmore hstep
  cases m with
  | advance s => exact advance_remaining hu s hstep
  | expire =>
    simp only [Engine.expire, hu.refresh, Option.map_some, Option.some.injEq] at hstep
    subst hstep
    exact Nat.le_refl _
  | call terms' =>
    simp only [call_of_busy hu.refresh, hu.refresh, Option.some.injEq] at hstep
    subst hstep
    exact Nat.le_refl _
  | close =>
    rw [Engine.close_refresh, hu.refresh, Option.some.injEq] at hstep
    subst hstep
    exact Nat.le_refl _
  | disturb d =>
    rw [hu.refresh, Option.some.injEq] at hstep
    subst hstep
    exact Nat.le_refl _

/-- A refresh ends, whatever happens meanwhile, if it goes on as often as it has wait points left. -/
theorem run_ends (hf : x.Follows e terms) (hu : x.UnderWay e terms r) {events : List RefreshEvent}
    (hsteps : r.remaining e ≤ events.countP (·.isAdvance)) :
    (x.run events).result.isSome = true := by
  induction events generalizing x r with
  | nil =>
    have hpos := r.remaining_pos e
    rw [List.countP_nil] at hsteps
    omega
  | cons m events ih =>
    change ((x.step m).run events).result.isSome = true
    cases hmore : (x.step m).result with
    | some result => rw [run_of_ended (by simp [hmore]), hmore]; rfl
    | none =>
      obtain ⟨r', hu', hless⟩ := step_remaining hf hu m hmore
      refine ih (step_follows hf m) hu' ?_
      rw [List.countP_cons] at hsteps
      omega

theorem run_ends_of_stepLimit {d : Disk} (h : (start terms e d).result = none)
    {events : List RefreshEvent} (hsteps : e.stepLimit ≤ events.countP (·.isAdvance)) :
    ((start terms e d).run events).result.isSome = true := by
  apply run_ends (start_follows h) (start_underWay h)
  rw [Refresh.remaining, if_pos rfl]
  exact hsteps

end RefreshCourse
end DnsFilter
