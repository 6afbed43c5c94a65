import Mathlib.Data.Set.Function
import DnsFilter.Proofs.Filter.Session
/-!
# Content that is not compiled again

An engine that compiles each content that it obtains, beside one that skips a content whose rules
are in service. Both are taken from wait point to wait point together, where a compilation is no
wait point. As long as no two contents of the session have one digest, they publish the same.
-/
namespace DnsFilter

def RefreshTerms.forced (terms : RefreshTerms) : RefreshTerms := { terms with isForced := true }

def Refresh.forced (r : Refresh) : Refresh := { r with terms := r.terms.forced }

/-- The refresh is asked for with the demand to compile each content. -/
def RefreshEvent.forced : RefreshEvent → RefreshEvent
  | call terms => .call terms.forced
  | m => m

def Stage.isCompiling : Stage → Bool
  | compiling _ _ _ _ => true
  | _ => false

namespace Engine

/-- The engine with the refresh that is under way compiling each content. -/
def forced (e : Engine) : Engine := { e with refresh := e.refresh.map Refresh.forced }

def isCompiling (e : Engine) : Bool := e.refresh.any (·.stage.isCompiling)

end Engine

namespace Turn

def forced (t : Turn) : Turn := { t with engine := t.engine.forced }

def compileAtOnce (s : Surroundings) (t : Turn) : Turn :=
  if t.engine.isCompiling then t.engine.advance s t.disk else t

end Turn

namespace Engine

/-- Goes on to the next wait point that is not a compilation. -/
def stride (s : Surroundings) (e : Engine) (d : Disk) : Turn := (e.advance s d).compileAtOnce s

end Engine

structure EngineSession extends EngineHistory where
  contents : List Bytes := []

namespace EngineSession

def take (x : EngineSession) (t : Turn) (content : Option Bytes) : EngineSession where
  engine := t.engine
  disk := t.disk
  results := x.results ++ t.result.toList
  contents := x.contents ++ content.toList

def step (x : EngineSession) : RefreshEvent → EngineSession
  | .advance s => x.take (x.engine.stride s x.disk) (x.engine.obtains s x.disk)
  | m => x.take (x.engine.handle x.disk m) none

def run (x : EngineSession) (events : List RefreshEvent) : EngineSession := events.foldl step x

def forced (x : EngineSession) : EngineSession := { x with engine := x.engine.forced }

def ofFilters (name : String) (filters : List Filter) (d : Disk) : EngineSession :=
  { EngineHistory.ofFilters name filters d with }

end EngineSession

/-- Compiling the content of the rules in service changes at most the time of their fetch. -/
theorem InService.IsFrom.compiled_eq {content : Bytes} {x : InService} (h : x.IsFrom content)
    (isFresh : Bool) (time : Timestamp) :
    Engine.compiled content (Sha256.hexDigest content) isFresh time x =
      if isFresh then Engine.renewed time x else x := by
  obtain ⟨⟨id, name, locator, enabled, lastUpdated, sizeBytes, rulesCount, checksum⟩, rules⟩ := x
  obtain ⟨hrules, hsize, hchecksum, hcount⟩ := h
  simp only at hrules hsize hchecksum hcount
  subst hrules hsize hchecksum hcount
  cases isFresh <;> rfl

namespace Engine

variable {filters : List Filter} {contents : Set Bytes} {e : Engine} {r : Refresh}
  {position : Nat} {f : Filter} {s : Surroundings} {d : Disk}

theorem hold_forced (e : Engine) (r : Refresh) (d : Disk) :
    e.forced.hold r.forced d = (e.hold r d).forced := by
  unfold hold
  have hpending : r.forced.pending = r.pending := rfl
  rw [hpending]
  split_ifs <;> rfl

theorem publish_forced (e : Engine) (position : Nat) (g : InService → InService) :
    e.forced.publish position g = (e.publish position g).forced := by
  have hclosed : e.forced.isClosed = e.isClosed := rfl
  unfold publish
  rw [hclosed]
  split_ifs <;> rfl

theorem prepare_forced (e : Engine) (r : Refresh) (d : Disk) :
    e.forced.prepare r.forced d = (e.prepare r d).forced := by
  have hterms : r.forced.terms.cacheDir = r.terms.cacheDir := rfl
  unfold prepare
  rw [hterms]
  rcases (OnDisk.makeDirectories r.terms.cacheDir).perform d with ⟨_ | _, d'⟩
  · rfl
  · exact hold_forced e { r with pending := e.enabled, stage := .fetching } d'

theorem close_forced (e : Engine) : e.forced.close = e.close.forced := by
  have hclosed : e.forced.isClosed = e.isClosed := rfl
  unfold close
  rw [hclosed]
  split_ifs <;> rfl

theorem startRefresh_forced (e : Engine) (terms : RefreshTerms) (d : Disk) :
    e.forced.startRefresh terms.forced d = (e.startRefresh terms d).forced := by
  have hclosed : e.forced.isClosed = e.isClosed := rfl
  have hbusy : e.forced.refresh.isSome = e.refresh.isSome := Option.isSome_map
  unfold startRefresh
  rw [hclosed, hbusy]
  split_ifs <;> rfl

theorem expire_forced (e : Engine) : e.forced.expire = e.expire.forced := by
  simp [expire, forced, Function.comp_def, Refresh.forced]

theorem obtains_forced (e : Engine) (s : Surroundings) (d : Disk) :
    e.forced.obtains s d = e.obtains s d := by
  unfold obtains forced
  cases e.refresh <;> rfl

/-- What is held with nothing to compile is not gone on with. -/
theorem hold_compileAtOnce (e : Engine) {r : Refresh} (h : r.stage.isCompiling = false)
    (s : Surroundings) (d : Disk) : (e.hold r d).compileAtOnce s = e.hold r d := by
  have hidle : (e.hold r d).engine.isCompiling = false := by
    rw [isCompiling, hold_refresh]
    split_ifs
    · rfl
    · exact h
  simp [Turn.compileAtOnce, hidle]

theorem hold_forced_compileAtOnce (e : Engine) {r : Refresh} (h : r.stage.isCompiling = false)
    (s : Surroundings) (d : Disk) :
    (e.forced.hold r.forced d).compileAtOnce s = ((e.hold r d).compileAtOnce s).forced := by
  have hforced : r.forced.stage.isCompiling = false := h
  rw [hold_compileAtOnce e h, hold_compileAtOnce e.forced hforced]
  exact hold_forced e r d

theorem publish_congr {g g' : InService → InService}
    (h : e.isClosed = false → ∀ x, e.index.entries[position]? = some x → g x = g' x) :
    e.publish position g = e.publish position g' := by
  unfold publish FilterIndex.modify
  cases hc : e.isClosed with
  | true => rfl
  | false =>
    have hentries : e.index.entries.modify position g = e.index.entries.modify position g' := by
      apply List.ext_getElem?
      intro i
      by_cases hi : position = i
      · subst hi
        rw [List.getElem?_modify_eq, List.getElem?_modify_eq]
        cases hx : e.index.entries[position]? with
        | none => rfl
        | some x => exact congrArg some (h hc x hx)
      · rw [List.getElem?_modify_ne _ _ hi, List.getElem?_modify_ne _ _ hi]
    rw [hentries]

theorem hold_publish_refresh (e : Engine) (held : Option Refresh) (position : Nat)
    (g : InService → InService) (r : Refresh) (d : Disk) :
    (publish { e with refresh := held } position g).hold r d = (e.publish position g).hold r d := by
  unfold hold publish
  cases hc : e.isClosed <;> by_cases hp : r.pending = [] <;> simp [hp, hc]

def settled (e : Engine) (r : Refresh) (position : Nat) (f : Filter) (content : Bytes)
    (isFresh : Bool) (time : Timestamp) : InService → InService :=
  if e.isCurrentAt r position f content then (if isFresh then renewed time else id)
  else compiled content (Sha256.hexDigest content) isFresh time

theorem settle_compileAtOnce {rest : List (Nat × Filter)}
    (hpending : r.pending = (position, f) :: rest) (content : Bytes) (isFresh : Bool) :
    (settle s e r position f content isFresh d).compileAtOnce s =
      (e.publish position (settled e r position f content isFresh s.now)).hold
        (r.pass f isFresh) d := by
  obtain ⟨terms, pending, stage, failed, isLate⟩ := r
  subst hpending
  rw [settle_eq, settled]
  cases e.isCurrentAt _ position f content with
  | true =>
    simp only [if_true]
    rw [hold_compileAtOnce _ rfl]
    cases isFresh with
    | true => rfl
    | false => rw [if_neg Bool.false_ne_true, if_neg Bool.false_ne_true, publish_id]
  | false =>
    simp only [Bool.false_eq_true, if_false]
    rw [hold, if_neg (List.cons_ne_nil _ _)]
    simp only [Turn.compileAtOnce, isCompiling, Option.any_some, Stage.isCompiling, if_true,
      advance, work]
    exact hold_publish_refresh e _ position _ _ d

/-- What is skipped is from the content that was obtained, so that compiling it has the same
effect. -/
theorem settled_eq_compiled (he : e.IsSound filters contents)
    (hinj : Set.InjOn Sha256.hexDigest contents) (hr : e.refresh = some r)
    (hmem : (position, f) ∈ r.pending) {content : Bytes} (hcontent : content ∈ contents)
    (isFresh : Bool) (time : Timestamp) (hopen : e.isClosed = false) {x : InService}
    (hx : e.index.entries[position]? = some x) :
    settled e r position f content isFresh time x =
      compiled content (Sha256.hexDigest content) isFresh time x := by
  by_cases hcurrent : e.isCurrentAt r position f content = true
  · rw [settled, if_pos hcurrent]
    obtain ⟨-, y, hy, hf⟩ := (he.at_work r hr).shown position f hmem
    obtain rfl : y = x := Option.some.inj (hy.symm.trans hx)
    simp only [isCurrentAt, FilterIndex.rulesAt?, hx, Option.bind_some, Bool.and_eq_true,
      beq_iff_eq] at hcurrent
    obtain ⟨⟨-, hsome⟩, hchecksum⟩ := hcurrent
    cases he.publishes.while_open hopen position y hx with
    | vacant hrules _ => simp [hrules] at hsome
    | made c hc _ hfrom =>
      have hdigest : Sha256.hexDigest c = Sha256.hexDigest content := by
        have hsame := hfrom.checksum
        rw [hf, hchecksum] at hsame
        exact (Option.some.inj hsame).symm
      obtain rfl : c = content := hinj hc hcontent hdigest
      rw [hfrom.compiled_eq]
      cases isFresh <;> rfl
  · rw [settled, if_neg hcurrent]

/-- A content has the same effect on an engine that compiles each one. -/
theorem settle_forced (he : e.IsSound filters contents)
    (hinj : Set.InjOn Sha256.hexDigest contents) (hr : e.refresh = some r)
    {rest : List (Nat × Filter)} (hpending : r.pending = (position, f) :: rest) {content : Bytes}
    (hcontent : content ∈ contents) (isFresh : Bool) :
    (settle s e.forced r.forced position f content isFresh d).compileAtOnce s =
      ((settle s e r position f content isFresh d).compileAtOnce s).forced := by
  have hforced : r.forced.pending = (position, f) :: rest := hpending
  have hmem : (position, f) ∈ r.pending := by simp [hpending]
  have hall : settled e.forced r.forced position f content isFresh s.now =
      compiled content (Sha256.hexDigest content) isFresh s.now := by
    simp [settled, isCurrentAt, Refresh.forced, RefreshTerms.forced]
  rw [settle_compileAtOnce hforced, settle_compileAtOnce hpending, hall, publish_forced]
  rw [publish_congr fun hopen x hx =>
    settled_eq_compiled he hinj hr hmem hcontent isFresh s.now hopen hx]
  exact hold_forced _ (r.pass f isFresh) d

theorem fetchFailed_compileAtOnce (e : Engine) (r : Refresh) (f : Filter) (failure : Failure)
    (s : Surroundings) (d : Disk) :
    (e.fetchFailed r f failure d).compileAtOnce s = e.fetchFailed r f failure d := by
  unfold fetchFailed
  split
  · exact hold_compileAtOnce _ rfl s d
  · split_ifs <;> exact hold_compileAtOnce _ rfl s d

theorem fetchFailed_forced (e : Engine) (r : Refresh) (f : Filter) (failure : Failure) (d : Disk) :
    e.forced.fetchFailed r.forced f failure d = (e.fetchFailed r f failure d).forced := by
  unfold fetchFailed
  split
  · exact hold_forced e { r.pass f false with isLate := true } d
  · split_ifs
    · exact hold_forced e { r with stage := .recalling } d
    · exact hold_forced e (r.pass f false) d

/-- The filter in turn goes on in the same way in an engine that compiles each content. -/
theorem work_forced (he : e.IsSound filters contents)
    (hinj : Set.InjOn Sha256.hexDigest contents) (hr : e.refresh = some r)
    {rest : List (Nat × Filter)} (hpending : r.pending = (position, f) :: rest)
    (hobtained : ∀ content, obtained? s r f d = some content → content ∈ contents) :
    (work s e.forced r.forced position f d).compileAtOnce s =
      ((work s e r position f d).compileAtOnce s).forced := by
  have hstage : r.forced.stage = r.stage := rfl
  have hmem := (he.at_work r hr).content_mem
  unfold obtained? at hobtained
  unfold work
  rw [hstage]
  cases hs : r.stage with
  | preparing =>
    have hworking := (he.at_work r hr).working position f (by simp [hpending])
    rw [IsWorking, hs] at hworking
    exact hworking.elim
  | fetching =>
    simp only [hs] at hobtained ⊢
    have hfetch : fetch s r.forced f d = fetch s r f d := rfl
    rw [hfetch]
    cases fetch s r f d with
    | ok content =>
      exact hold_forced_compileAtOnce e (r := { r with stage := .caching content }) rfl s d
    | error failure =>
      simp only
      rw [fetchFailed_compileAtOnce, fetchFailed_compileAtOnce]
      exact fetchFailed_forced e r f failure d
  | caching content =>
    have hcontent := hmem content (by rw [hs]; rfl)
    have hpath : r.forced.temporaryPath f = r.temporaryPath f := rfl
    simp only [hpath]
    cases d.write (r.temporaryPath f) content with
    | ok d' =>
      exact hold_forced_compileAtOnce e (r := { r with stage := .renaming content }) rfl s d'
    | error _ => exact settle_forced he hinj hr hpending hcontent true
  | «renaming» content =>
    exact settle_forced he hinj hr hpending (hmem content (by rw [hs]; rfl)) true
  | recalling =>
    simp only [hs] at hobtained ⊢
    have hread : readFile f.name r.forced.terms.maxSize r.forced.terms.scratch d
        (r.forced.cachePath f) =
        readFile f.name r.terms.maxSize r.terms.scratch d (r.cachePath f) := rfl
    rw [hread]
    cases hcopy : readFile f.name r.terms.maxSize r.terms.scratch d (r.cachePath f) with
    | ok content =>
      rw [hcopy] at hobtained
      exact settle_forced he hinj hr hpending (hobtained content rfl) false
    | error _ =>
      exact hold_forced_compileAtOnce e (r := r.pass f false) rfl s d
  | compiling content checksum isFresh time =>
    simp only
    rw [publish_forced]
    exact hold_forced_compileAtOnce _ (r := r.pass f isFresh) rfl s d

theorem prepare_compileAtOnce (e : Engine) (r : Refresh) (s : Surroundings) (d : Disk) :
    (e.prepare r d).compileAtOnce s = e.prepare r d := by
  unfold prepare
  rcases (OnDisk.makeDirectories r.terms.cacheDir).perform d with ⟨_ | _, d'⟩
  · rfl
  · exact hold_compileAtOnce _ rfl s d'

/-- From one wait point to the next, an engine that compiles each content does as one that skips. -/
theorem stride_forced (he : e.IsSound filters contents)
    (hinj : Set.InjOn Sha256.hexDigest contents)
    (hobtained : ∀ content, e.obtains s d = some content → content ∈ contents) :
    e.forced.stride s d = (e.stride s d).forced := by
  unfold obtains at hobtained
  unfold stride advance
  cases hr : e.refresh with
  | none =>
    have hforced : e.forced.refresh = none := by simp [forced, hr]
    simp [hforced, Turn.compileAtOnce, isCompiling, hr, Turn.forced]
  | some r =>
    have hforced : e.forced.refresh = some r.forced := by simp [forced, hr]
    have hsame : r.forced.pending = r.pending := rfl
    rw [hforced]
    simp only [hsame]
    cases hpending : r.pending with
    | nil =>
      simp only
      rw [prepare_compileAtOnce, prepare_compileAtOnce]
      exact prepare_forced e r d
    | cons p rest =>
      simp only [hr, hpending, Option.bind_some, List.head?_cons] at hobtained
      exact work_forced he hinj hr hpending hobtained

theorem stride_sound (he : e.IsSound filters contents)
    (hobtained : ∀ content, e.obtains s d = some content → content ∈ contents) :
    (e.stride s d).engine.IsSound filters contents := by
  have hnext := advance_sound he hobtained
  unfold stride Turn.compileAtOnce
  split_ifs with hcompiling
  · -- a compilation obtains nothing
    refine advance_sound hnext fun content hcontent => ?_
    obtain ⟨r, hr, hstage⟩ := (Option.any_eq_true _ _).mp hcompiling
    simp only [obtains, hr, Option.bind_some] at hcontent
    obtain ⟨p, -, hobtained⟩ := Option.bind_eq_some_iff.mp hcontent
    cases hs : r.stage <;> simp [hs, Stage.isCompiling, obtained?] at hstage hobtained
  · exact hnext

end Engine

namespace EngineSession

variable {filters : List Filter} {contents : Set Bytes}

theorem run_contents (x : EngineSession) (events : List RefreshEvent) {content : Bytes}
    (h : content ∈ x.contents) : content ∈ (x.run events).contents := by
  induction events generalizing x with
  | nil => exact h
  | cons m events ih =>
    apply ih
    cases m <;> exact List.mem_append_left _ h

theorem step_sound {x : EngineSession} (hx : x.engine.IsSound filters contents) (m : RefreshEvent)
    (hcontents : ∀ content ∈ (x.step m).contents, content ∈ contents) :
    (x.step m).engine.IsSound filters contents := by
  cases m with
  | advance s =>
    refine Engine.stride_sound hx fun content hcontent => hcontents content ?_
    exact List.mem_append_right _ (by simp [hcontent])
  | expire => exact Engine.expire_sound hx
  | call terms => exact Engine.startRefresh_sound hx terms x.disk
  | close => exact Engine.close_sound hx
  | disturb d => exact hx

theorem step_forced {x : EngineSession} (hx : x.engine.IsSound filters contents)
    (hinj : Set.InjOn Sha256.hexDigest contents) (m : RefreshEvent)
    (hcontents : ∀ content ∈ (x.step m).contents, content ∈ contents) :
    x.forced.step m.forced = (x.step m).forced := by
  cases m with
  | advance s =>
    have hturn : x.engine.forced.stride s x.disk = (x.engine.stride s x.disk).forced := by
      refine Engine.stride_forced hx hinj fun content hcontent => hcontents content ?_
      exact List.mem_append_right _ (by simp [hcontent])
    simp only [step, RefreshEvent.forced, forced, hturn, Engine.obtains_forced]
    rfl
  | expire =>
    simp only [step, RefreshEvent.forced, Engine.handle, forced, Engine.expire_forced]
    rfl
  | call terms =>
    have hturn := Engine.startRefresh_forced x.engine terms x.disk
    simp only [step, RefreshEvent.forced, Engine.handle, forced, hturn]
    rfl
  | close =>
    simp only [step, RefreshEvent.forced, Engine.handle, forced, Engine.close_forced]
    rfl
  | disturb d => rfl

theorem run_forced {x : EngineSession} (hx : x.engine.IsSound filters contents)
    (hinj : Set.InjOn Sha256.hexDigest contents) (events : List RefreshEvent)
    (hcontents : ∀ content ∈ (x.run events).contents, content ∈ contents) :
    x.forced.run (events.map RefreshEvent.forced) = (x.run events).forced := by
  induction events generalizing x with
  | nil => rfl
  | cons m events ih =>
    have hstep : ∀ content ∈ (x.step m).contents, content ∈ contents := fun content hmem =>
      hcontents content (run_contents (x.step m) events hmem)
    have hfirst := step_forced hx hinj m hstep
    have hrest := ih (step_sound hx m hstep) hcontents
    rw [List.map_cons, run, List.foldl_cons, hfirst]
    exact hrest

/-- In a session of any length, an engine that compiles each content it obtains and one that skips
what is in service publish the same index, leave the same on the disk, report the same results, and
give the same verdicts. -/
theorem skipping_is_invisible (name : String) {filters : List Filter} (d : Disk)
    (hfilters : ∀ f ∈ filters, f.configured = f) (events : List RefreshEvent) :
    let start := ofFilters name filters d
    let skipping := start.run events
    let compiling := start.run (events.map RefreshEvent.forced)
    Set.InjOn Sha256.hexDigest {content | content ∈ skipping.contents} →
      compiling.engine.index = skipping.engine.index ∧
        compiling.results = skipping.results ∧ compiling.disk = skipping.disk ∧
        ∀ request, compiling.engine.check request = skipping.engine.check request := by
  intro start skipping compiling hinj
  have hsound := Engine.ofFilters_sound name hfilters {content | content ∈ skipping.contents}
  have hsame : compiling = skipping.forced :=
    run_forced (x := start) hsound hinj events fun _ hcontent => hcontent
  rw [hsame]
  exact ⟨rfl, rfl, rfl, fun _ => rfl⟩

/-- Two refreshes with one text, the second of which is skipped, and a third one with another. -/
def threeRefreshes : List RefreshEvent :=
  EngineHistory.refreshWith "||a.example^" 4 ++ EngineHistory.refreshWith "||a.example^" 4 ++
    EngineHistory.refreshWith "||b.example^" 4

theorem skipped_refresh_is_invisible :
    let start := ofFilters "test" Engine.pairOfFilters {}
    let skipping := start.run threeRefreshes
    let compiling := start.run (threeRefreshes.map RefreshEvent.forced)
    Set.InjOn Sha256.hexDigest {content | content ∈ skipping.contents} ∧
      skipping.results = [.ok (), .ok (), .ok ()] ∧
      (skipping.engine.index.rulesAt? 0).map (·.texts) = some ["||b.example^"] ∧
      compiling.engine.index = skipping.engine.index ∧ compiling.results = skipping.results ∧
      compiling.disk = skipping.disk ∧
      ∀ request, compiling.engine.check request = skipping.engine.check request := by
  intro start skipping compiling
  obtain ⟨hcontents, hresults, htexts⟩ : skipping.contents =
        [Utf8.encode "||a.example^".toList, Utf8.encode "||a.example^".toList,
          Utf8.encode "||b.example^".toList] ∧
      skipping.results = [.ok (), .ok (), .ok ()] ∧
      (skipping.engine.index.rulesAt? 0).map (·.texts) = some ["||b.example^"] := by
    decide +kernel
  have hdigests : Sha256.hexDigest (Utf8.encode "||a.example^".toList) ≠
      Sha256.hexDigest (Utf8.encode "||b.example^".toList) := by decide +kernel
  have hinj : Set.InjOn Sha256.hexDigest {content | content ∈ skipping.contents} := by
    intro a (ha : a ∈ skipping.contents) b (hb : b ∈ skipping.contents) hab
    simp only [hcontents, List.mem_cons, List.not_mem_nil, or_false, or_self_left] at ha hb
    rcases ha with rfl | rfl <;> rcases hb with rfl | rfl
    · rfl
    · exact absurd hab hdigests
    · exact absurd hab.symm hdigests
    · rfl
  have hfilters : ∀ f ∈ Engine.pairOfFilters, f.configured = f := by decide
  have hsame := skipping_is_invisible "test" {} hfilters threeRefreshes hinj
  exact ⟨hinj, hresults, htexts, hsame⟩

end EngineSession
end DnsFilter
