import DnsFilter.Proofs.Filter.Cache
/-!
# Where a filter is sent

What the source of a filter gives, and then its cached copy, decides through which stages it goes
and which outcome it has. At each stage it is known what the source gave and what was saved of it
so far.
-/
namespace DnsFilter

namespace Visit

def turnsBack (v : Visit) : Bool :=
  match v.source with
  | .ok _ => false
  | .error failure => !failure.isTimeout && v.filter.locator.isRemote

/-- The cached copy that is read in the place of what could not be fetched. -/
def copy? (terms : RefreshTerms) (d : Disk) (v : Visit) : Option Bytes :=
  if v.turnsBack then
    (readFile v.filter.name terms.maxSize terms.scratch d (terms.copyPath v.filter)).toOption
  else none

def IsSaved (terms : RefreshTerms) (d : Disk) (v : Visit) : Prop :=
  ∀ content, v.source = .ok content → d.read (terms.copyPath v.filter) = .ok content

theorem source_of_turnsBack {v : Visit} (h : v.turnsBack = true) :
    ∃ failure, v.source = .error failure := by
  unfold turnsBack at h
  cases hsource : v.source with
  | ok content => simp [hsource] at h
  | error failure => exact ⟨failure, rfl⟩

theorem isSaved_of_error {v : Visit} {failure : Failure} (h : v.source = .error failure)
    (terms : RefreshTerms) (d : Disk) : v.IsSaved terms d := by
  intro content hcontent
  rw [h] at hcontent
  cases hcontent

theorem read_of_copy? {terms : RefreshTerms} {d : Disk} {v : Visit} {content : Bytes}
    (h : v.copy? terms d = some content) :
    v.turnsBack = true ∧ d.read (terms.copyPath v.filter) = .ok content ∧
      content.length ≤ terms.maxSize := by
  unfold copy? at h
  split_ifs at h with hback
  cases hread : readFile v.filter.name terms.maxSize terms.scratch d (terms.copyPath v.filter) with
  | error failure => simp [hread, Except.toOption] at h
  | ok c =>
    simp only [hread, Except.toOption, Option.some.injEq] at h
    exact ⟨hback, h ▸ read_of_readFile hread⟩

end Visit

structure Premises where
  terms : RefreshTerms
  disk : Disk
  /-- The place of the cache directory. -/
  place : Path
  times : Set Timestamp
  contents : Set Bytes

namespace Visit

variable (q : Premises)

def AccountsFor (v : Visit) : FilterOutcome → Prop
  | .fetched content time => v.source = .ok content ∧ content ∈ q.contents ∧ time ∈ q.times
  | .recalled content => v.copy? q.terms q.disk = some content ∧ content ∈ q.contents
  | .failed => v.source.toOption = none ∧ v.copy? q.terms q.disk = none

def Explains (d : Disk) (saved : Prop) (v : Visit) : Stage → Prop
  | .caching content => v.source = .ok content ∧ content ∈ q.contents
  | .renaming content => v.source = .ok content ∧ content ∈ q.contents ∧
      d.entry q.place v.filter.temporaryName = some (.plain content)
  | .recalling => v.turnsBack = true
  | .compiling content _ isFresh time =>
      v.AccountsFor q (.got content isFresh time) ∧ (saved → v.IsSaved q.terms d)
  | _ => False

def LeadsTo (d : Disk) (saved : Prop) (v : Visit) (o : Option FilterOutcome) (r : Refresh) : Prop :=
  match o with
  | none => v.Explains q d saved r.stage
  | some o => v.AccountsFor q o ∧ (saved → v.IsSaved q.terms d)

structure Settles (v : Visit) (y : Finished) : Prop where
  place : v.place = y.place
  outcome : v.AccountsFor q y.outcome

end Visit

namespace Refresh

variable {q : Premises} {s : Surroundings} {r r' : Refresh} {f : Filter} {d d' : Disk}
  {o : Option FilterOutcome} {saved saved' : Prop} {v : Visit}

theorem Obtains.not_fetching {content : Bytes} {isFresh : Bool}
    (h : r.Obtains f d content isFresh d') : r.stage ≠ .fetching := by
  cases h with
  | unwritten hstage _ => simp [hstage]
  | saved hstage _ => simp [hstage]
  | unmoved hstage _ => simp [hstage]
  | recalled hstage _ => simp [hstage]

/-- The first step for a filter leads to where its source sends it. -/
theorem Steps.leads_of_fetching (h : r.Steps s f d o r' d') (hstage : r.stage = .fetching)
    (position : Nat)
    (hcontents : ∀ content, Engine.fetch s r f d = .ok content → content ∈ q.contents) :
    (⟨position, f, Engine.fetch s r f d⟩ : Visit).LeadsTo q d' saved o r' := by
  have hother : ∀ stage, r.stage = stage → stage = .fetching := fun stage hs => hs ▸ hstage
  -- the steps of all other stages are excluded
  cases h with
  | fetches _ hfetch => exact ⟨hfetch, hcontents _ hfetch⟩
  | turnsBack _ hfetch htimeout hremote =>
    simp [Visit.LeadsTo, Visit.Explains, Visit.turnsBack, hfetch, htimeout, hremote]
  | @givesUp failure _ _ hfetch hfinal =>
    have hback : (⟨position, f, Engine.fetch s r f d⟩ : Visit).turnsBack = false := by
      rcases hfinal with htimeout | hlocal
      · simp [Visit.turnsBack, hfetch, htimeout]
      · simp [Visit.turnsBack, hfetch, hlocal]
    refine ⟨⟨?_, ?_⟩, fun _ => Visit.isSaved_of_error hfetch _ _⟩
    · simp [hfetch, Except.toOption]
    · simp [Visit.copy?, hback]
  | writes hs _ => cases hother _ hs
  | misses hs _ => cases hother _ hs
  | compiles hobtains => exact absurd hstage hobtains.not_fetching
  | skips hobtains => exact absurd hstage hobtains.not_fetching
  | publishes hs => cases hother _ hs

theorem isWritten_of_explains (hv : v.Explains q d saved r.stage) :
    r.IsWritten v.filter d q.place := by
  intro content hstage
  rw [hstage] at hv
  exact hv.2.2

theorem copy?_of_recalling (hv : v.Explains q d saved r.stage) (hterms : r.terms = q.terms)
    (hstage : r.stage = .recalling)
    (hcopy : v.copy? q.terms d = v.copy? q.terms q.disk) :
    v.copy? q.terms q.disk = (readFile v.filter.name r.terms.maxSize r.terms.scratch d
      (r.cachePath v.filter)).toOption := by
  rw [hstage] at hv
  have hback : v.turnsBack = true := hv
  rw [← hcopy, Visit.copy?, if_pos hback, ← hterms]
  rfl

section
variable (hv : v.Explains q d saved r.stage) (hterms : r.terms = q.terms)
  (hfolder : d.IsFolder q.terms.cacheDir q.place) (hid : v.filter.id < Text.limit64)
  (hsaved : saved' → saved ∧ r.saves v.filter d = true)
  (hcopy : r.stage = .recalling → v.copy? q.terms d = v.copy? q.terms q.disk)
  (hcontents : ∀ content, Engine.obtained? s r v.filter d = some content → content ∈ q.contents)
  (hnow : s.now ∈ q.times)
include hv hterms hfolder hid hsaved hcopy hcontents hnow

theorem Obtains.leads {content : Bytes} {isFresh : Bool}
    (h : r.Obtains v.filter d content isFresh d') :
    v.AccountsFor q (.got content isFresh s.now) ∧ (saved' → v.IsSaved q.terms d') := by
  have hstored (hfresh : isFresh = true) (hsource : v.source = .ok content) (hall : saved') :
      v.IsSaved q.terms d' := by
    intro c hc
    obtain rfl : content = c := Except.ok.inj (hsource.symm.trans hc)
    subst hfresh
    rw [← hterms] at hfolder ⊢
    exact h.stored hfolder hid (isWritten_of_explains hv) (hsaved hall).2
  cases h with
  | unwritten hstage _ =>
    rw [hstage] at hv
    exact ⟨⟨hv.1, hv.2, hnow⟩, hstored rfl hv.1⟩
  | saved hstage _ =>
    rw [hstage] at hv
    exact ⟨⟨hv.1, hv.2.1, hnow⟩, hstored rfl hv.1⟩
  | unmoved hstage _ =>
    rw [hstage] at hv
    exact ⟨⟨hv.1, hv.2.1, hnow⟩, hstored rfl hv.1⟩
  | recalled hstage hread =>
    have hheld := copy?_of_recalling hv hterms hstage (hcopy hstage)
    rw [hstage] at hv
    obtain ⟨failure, hsource⟩ := Visit.source_of_turnsBack hv
    refine ⟨⟨?_, ?_⟩, fun _ => Visit.isSaved_of_error hsource _ _⟩
    · rw [hheld, hread]
      rfl
    · apply hcontents
      simp [Engine.obtained?, hstage, hread, Except.toOption]

/-- A later step for a filter leads to where its source and its cached copy send it. -/
theorem Steps.leads (h : r.Steps s v.filter d o r' d') : v.LeadsTo q d' saved' o r' := by
  cases h with
  | writes hstage hwrite =>
    rw [hstage] at hv
    rw [← hterms] at hfolder
    exact ⟨hv.1, hv.2, (write_temporary hfolder hid hwrite).2.1⟩
  | misses hstage hread =>
    have hheld := copy?_of_recalling hv hterms hstage (hcopy hstage)
    rw [hstage] at hv
    obtain ⟨failure, hsource⟩ := Visit.source_of_turnsBack hv
    refine ⟨⟨?_, ?_⟩, fun _ => Visit.isSaved_of_error hsource _ _⟩
    · rw [hsource]
      rfl
    · rw [hheld, hread]
      rfl
  | compiles hobtains => exact hobtains.leads hv hterms hfolder hid hsaved hcopy hcontents hnow
  | skips hobtains => exact hobtains.leads hv hterms hfolder hid hsaved hcopy hcontents hnow
  | publishes hstage =>
    rw [hstage] at hv
    exact ⟨hv.1, fun hall => hv.2 (hsaved hall).1⟩
  | fetches hstage _ => rw [hstage] at hv; exact hv.elim
  | turnsBack hstage _ _ _ => rw [hstage] at hv; exact hv.elim
  | givesUp _ hstage _ _ => rw [hstage] at hv; exact hv.elim

end

end Refresh

end DnsFilter
