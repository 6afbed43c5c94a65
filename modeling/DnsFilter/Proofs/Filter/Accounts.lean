import Mathlib.Data.List.Forall2
import DnsFilter.Proofs.Filter.Life
import DnsFilter.Proofs.Filter.Visits
/-!
# Accounts of a refresh

At each wait point the filters that a refresh is done with are accounted for by what their sources
and their cached copies gave, and so is the stage of the one in turn. A cached copy is as it was,
unless a content that was fetched was saved in its place. This needs that nobody else changes the
cache directory, and that the filters have different ids.
-/
namespace DnsFilter

/-! ## Filters with different ids -/

structure Engine.IsIdentified (e : Engine) : Prop where
  nodup : (e.filters.map (·.id)).Nodup
  lt : ∀ f ∈ e.filters, f.id < Text.limit64

theorem Engine.mem_of_places {e : Engine} {finished : List Finished} {place : Nat × Filter}
    {rest : List (Nat × Filter)}
    (hplaces : finished.map Finished.place ++ place :: rest = e.enabled) : place ∈ e.enabled := by
  rw [← hplaces]
  exact List.mem_append_right _ List.mem_cons_self

namespace Engine.IsIdentified

variable {e : Engine} (he : e.IsIdentified)
include he

theorem lt_of_entry {i : Nat} {y : InService} (hy : e.index.entries[i]? = some y) :
    y.filter.id < Text.limit64 :=
  he.lt y.filter (List.mem_map_of_mem (List.mem_of_getElem? hy))

theorem lt_of_enabled {position : Nat} {f : Filter} (h : (position, f) ∈ e.enabled) :
    f.id < Text.limit64 := by
  obtain ⟨y, hy, rfl⟩ := mem_enabled h
  exact he.lt_of_entry hy

theorem position_eq {i j : Nat} {y z : InService} (hy : e.index.entries[i]? = some y)
    (hz : e.index.entries[j]? = some z) (hid : y.filter.id = z.filter.id) : i = j := by
  have hlt : i < (e.filters.map (·.id)).length := by
    simp only [Engine.filters, FilterIndex.filters, List.length_map]
    exact (List.getElem?_eq_some_iff.mp hy).1
  apply (List.getElem?_inj hlt he.nodup).mp
  simp [Engine.filters, FilterIndex.filters, hy, hz, hid]

theorem id_ne {finished : List Finished} {position : Nat} {f : Filter}
    {rest : List (Nat × Filter)}
    (hplaces : finished.map Finished.place ++ (position, f) :: rest = e.enabled) {y : Finished}
    (hy : y ∈ finished) : y.filter.id ≠ f.id := by
  have hmem : y.place ∈ e.enabled := by
    rw [← hplaces]
    exact List.mem_append_left _ (List.mem_map_of_mem hy)
  obtain ⟨a, ha, haf⟩ := mem_enabled hmem
  obtain ⟨b, hb, hbf⟩ := mem_enabled (Engine.mem_of_places hplaces)
  intro hid
  have hposition : y.position = position := he.position_eq ha hb (by rw [haf, hbf, hid])
  have hnodup := e.enabled_nodup
  rw [← hplaces, List.map_append, List.nodup_append] at hnodup
  refine hnodup.2.2 y.position ?_ position (by simp) hposition
  exact List.mem_map.mpr ⟨y.place, List.mem_map_of_mem hy, rfl⟩

end Engine.IsIdentified

theorem Visit.IsSaved.congr {terms : RefreshTerms} {d d' : Disk} {p : Path} {v : Visit}
    (h : v.IsSaved terms d) (hfolder : d.IsFolder terms.cacheDir p)
    (hfolder' : d'.IsFolder terms.cacheDir p) (hid : v.filter.id < Text.limit64)
    (hentry : d'.entry p v.filter.cacheName = d.entry p v.filter.cacheName) :
    v.IsSaved terms d' := by
  intro content hcontent
  rw [RefreshTerms.copyPath,
    hfolder.read_congr (Filter.isPlainName_cacheName hid) hfolder' hentry]
  exact h content hcontent

/-! ## Accounts at a wait point -/

namespace RefreshCourse

variable {q : Premises} {e : Engine} {x : RefreshCourse} {r r' : Refresh} {s : Surroundings}
  {position : Nat} {f : Filter} {rest : List (Nat × Filter)} {o : Option FilterOutcome}

inductive Books (q : Premises) (x : RefreshCourse) : Prop
  | between : List.Forall₂ (Visit.Settles q) x.visits x.finished →
      (∀ v ∈ x.visits, x.unsaved = [] → v.IsSaved q.terms x.disk) →
      (∀ r, x.engine.refresh = some r → r.pending = [] ∨ r.stage = .fetching) → Books q x
  | inTurn {r : Refresh} {done : List Visit} {v : Visit} : x.engine.refresh = some r →
      r.pending.head? = some v.place → x.visits = done ++ [v] →
      List.Forall₂ (Visit.Settles q) done x.finished →
      (∀ w ∈ done, x.unsaved = [] → w.IsSaved q.terms x.disk) →
      v.Explains q x.disk (x.unsaved = []) r.stage → Books q x

structure Tracks (q : Premises) (x : RefreshCourse) : Prop where
  folder : x.disk.IsFolder q.terms.cacheDir q.place
  /-- Only the copies of what was fetched have changed. -/
  kept : ∀ f : Filter, f.id < Text.limit64 →
    (∀ v ∈ x.visits, v.filter.id = f.id → v.source.toOption = none) →
    x.disk.entry q.place f.cacheName = q.disk.entry q.place f.cacheName
  books : x.Books q
  prepared : ∀ reason, x.result ≠ some (.error (.files reason))

structure Entered (q : Premises) (x : RefreshCourse) (s : Surroundings) (r : Refresh)
    (position : Nat) (f : Filter) (o : Option FilterOutcome) (r' : Refresh) (done : List Visit)
    (v : Visit) : Prop where
  visits : (x.advance s).visits = done ++ [v]
  place : v.place = (position, f)
  settled : List.Forall₂ (Visit.Settles q) done x.finished
  saved : ∀ w ∈ done, x.unsaved = [] → w.IsSaved q.terms x.disk
  leads : v.LeadsTo q (x.advance s).disk ((x.advance s).unsaved = []) o r'
  written : r.IsWritten f x.disk q.place
  fetched : ∀ content, r.stage = .renaming content → v.source = .ok content

theorem Advances.saves (h : x.Advances s r position f o r') (hnone : (x.advance s).unsaved = []) :
    x.unsaved = [] ∧ r.saves f x.disk = true := by
  rw [h.unsaved, List.append_eq_nil_iff] at hnone
  refine ⟨hnone.1, ?_⟩
  by_contra hsaves
  rw [if_neg hsaves] at hnone
  exact absurd hnone.2 (by simp)

theorem Tracks.copy?_eq (hq : q.disk.IsFolder q.terms.cacheDir q.place) (ht : x.Tracks q)
    {v : Visit} (hid : v.filter.id < Text.limit64)
    (hsource : ∀ w ∈ x.visits, w.filter.id = v.filter.id → w.source.toOption = none) :
    v.copy? q.terms x.disk = v.copy? q.terms q.disk := by
  have hname := Filter.isPlainName_cacheName hid
  have hfind : x.disk.find (q.terms.copyPath v.filter) = q.disk.find (q.terms.copyPath v.filter) := by
    rw [RefreshTerms.copyPath, ht.folder.find_join hname, hq.find_join hname,
      ht.kept v.filter hid hsource]
  simp only [Visit.copy?, readFile, hfind]

theorem settled_places {done : List Visit} {finished : List Finished}
    (h : List.Forall₂ (Visit.Settles q) done finished) :
    done.map Visit.place = finished.map Finished.place := by
  induction h with
  | nil => rfl
  | cons hsettles _ ih => rw [List.map_cons, List.map_cons, hsettles.place, ih]

theorem settled_mem {done : List Visit} {finished : List Finished}
    (h : List.Forall₂ (Visit.Settles q) done finished) {v : Visit} (hv : v ∈ done) :
    ∃ y ∈ finished, v.Settles q y := by
  induction h with
  | nil => cases hv
  | @cons w y _ _ hsettles _ ih =>
    rcases List.mem_cons.mp hv with rfl | hrest
    · exact ⟨y, List.mem_cons_self, hsettles⟩
    · obtain ⟨z, hz, hsettles'⟩ := ih hrest
      exact ⟨z, List.mem_cons_of_mem y hz, hsettles'⟩

/-- The cached copy of the filter in turn is as it was, if it is looked for. -/
theorem Tracks.copy?_in_turn (hq : q.disk.IsFolder q.terms.cacheDir q.place) (he : e.IsIdentified)
    (ht : x.Tracks q) {done : List Visit} {v : Visit} (hvisits : x.visits = done ++ [v])
    (hsettled : List.Forall₂ (Visit.Settles q) done x.finished)
    (hplaces : x.finished.map Finished.place ++ v.place :: rest = e.enabled)
    (hback : v.turnsBack = true) : v.copy? q.terms x.disk = v.copy? q.terms q.disk := by
  obtain ⟨failure, hsource⟩ := Visit.source_of_turnsBack hback
  have hid : v.filter.id < Text.limit64 := he.lt_of_enabled (Engine.mem_of_places hplaces)
  refine ht.copy?_eq hq hid fun w hw hsame => ?_
  rw [hvisits] at hw
  rcases List.mem_append.mp hw with hdone | hlast
  · -- the filters before have other ids
    obtain ⟨y, hy, hsettles⟩ := settled_mem hsettled hdone
    have hfilter : w.filter = y.filter := congrArg Prod.snd hsettles.place
    exact absurd (hfilter ▸ hsame) (he.id_ne hplaces hy)
  · obtain rfl := List.mem_singleton.mp hlast
    rw [hsource]
    rfl

theorem Tracks.enters (hq : q.disk.IsFolder q.terms.cacheDir q.place) (he : e.IsIdentified)
    (ht : x.Tracks q) (hu : x.UnderWay e q.terms r) (hpending : r.pending = (position, f) :: rest)
    (hplaces : x.finished.map Finished.place ++ (position, f) :: rest = e.enabled)
    (hadvances : x.Advances s r position f o r')
    (hcontents : ∀ content, x.engine.obtains s x.disk = some content → content ∈ q.contents)
    (hnow : s.now ∈ q.times) :
    ∃ done v, x.Entered q s r position f o r' done v := by
  have hobtained : ∀ content, Engine.obtained? s r f x.disk = some content →
      content ∈ q.contents := by
    intro content hcontent
    apply hcontents
    simpa [Engine.obtains, hu.refresh, hpending] using hcontent
  cases ht.books with
  | between hsettled hsaved hstage =>
    -- the source is asked in this step
    have hfetching : r.stage = .fetching :=
      (hstage r hu.refresh).resolve_left (by simp [hpending])
    have hother (content : Bytes) : r.stage ≠ .renaming content := by
      rw [hfetching]
      exact nofun
    refine ⟨x.visits, ⟨position, f, Engine.fetch s r f x.disk⟩, ?_, rfl, hsettled, hsaved, ?_,
      fun content hrenaming => absurd hrenaming (hother content),
      fun content hrenaming => absurd hrenaming (hother content)⟩
    · rw [hadvances.visits, if_pos hfetching]
    · refine hadvances.steps.leads_of_fetching hfetching position fun content hfetch => ?_
      apply hobtained
      simp [Engine.obtained?, hfetching, hfetch, Except.toOption]
  | @inTurn r₁ done v hrefresh hhead hvisits hsettled hsaved hv =>
    -- the source was asked before
    obtain rfl : r₁ = r := Option.some.inj (hrefresh.symm.trans hu.refresh)
    have hplace : v.place = (position, f) := by
      rw [hpending] at hhead
      exact (Option.some.inj hhead).symm
    obtain ⟨rfl, rfl⟩ := Prod.mk.inj hplace
    have hstage : r₁.stage ≠ .fetching := by
      intro hfetching
      rw [hfetching] at hv
      exact hv
    have hcopy : r₁.stage = .recalling → v.copy? q.terms x.disk = v.copy? q.terms q.disk := by
      intro hrecalling
      rw [hrecalling] at hv
      exact ht.copy?_in_turn hq he hvisits hsettled hplaces hv
    refine ⟨done, v, ?_, rfl, hsettled, hsaved, ?_, Refresh.isWritten_of_explains hv, ?_⟩
    · rw [hadvances.visits, if_neg hstage, List.append_nil, hvisits]
    · exact hadvances.steps.leads hv hu.terms ht.folder
        (he.lt_of_enabled (Engine.mem_of_places hplaces)) hadvances.saves hcopy hobtained hnow
    · intro content hrenaming
      rw [hrenaming] at hv
      exact hv.1

section
variable {done : List Visit} {v : Visit} (hadvances : x.Advances s r position f o r')
  (hentered : x.Entered q s r position f o r' done v)
include hadvances hentered

theorem Entered.isSaved (he : e.IsIdentified) (ht : x.Tracks q)
    (hplaces : x.finished.map Finished.place ++ (position, f) :: rest = e.enabled)
    (hterms : r.terms = q.terms) (htouches : r.Touches f q.place x.disk (x.advance s).disk) :
    ∀ w ∈ done, (x.advance s).unsaved = [] → w.IsSaved q.terms (x.advance s).disk := by
  intro w hw hnone
  obtain ⟨y, hy, hsettles⟩ := settled_mem hentered.settled hw
  have hfilter : w.filter = y.filter := congrArg Prod.snd hsettles.place
  have hturn : (w.position, w.filter) ∈ e.enabled := by
    rw [← hplaces]
    exact List.mem_append_left _ (settled_places hentered.settled ▸ List.mem_map_of_mem hw)
  refine (hentered.saved w hw (hadvances.saves hnone).1).congr ht.folder
    (hterms ▸ htouches.folder) (he.lt_of_enabled hturn) (htouches.others _ ?_ fun hsame => ?_)
  · exact Filter.cacheName_ne_temporaryName w.filter f
  · exact absurd (hfilter ▸ Filter.cacheName_inj hsame) (he.id_ne hplaces hy)

theorem Entered.kept (ht : x.Tracks q)
    (htouches : r.Touches f q.place x.disk (x.advance s).disk) {g : Filter}
    (hg : g.id < Text.limit64)
    (hsource : ∀ w ∈ (x.advance s).visits, w.filter.id = g.id → w.source.toOption = none) :
    (x.advance s).disk.entry q.place g.cacheName = q.disk.entry q.place g.cacheName := by
  have hearlier : ∀ w ∈ x.visits, w ∈ (x.advance s).visits := by
    rw [hadvances.visits]
    exact fun w hw => List.mem_append_left _ hw
  rw [htouches.others g.cacheName (Filter.cacheName_ne_temporaryName g f) ?_]
  · exact ht.kept g hg fun w hw => hsource w (hearlier w hw)
  · intro hsame content hrenaming
    -- what is renamed was fetched
    have hv : v ∈ (x.advance s).visits := by simp [hentered.visits]
    have hvf : v.filter = f := congrArg Prod.snd hentered.place
    have hnone := hsource v hv (by rw [hvf, Filter.cacheName_inj hsame])
    rw [hentered.fetched content hrenaming] at hnone
    cases hnone

theorem Entered.books (hpending : r.pending = (position, f) :: rest)
    (hsaved : ∀ w ∈ done, (x.advance s).unsaved = [] → w.IsSaved q.terms (x.advance s).disk) :
    (x.advance s).Books q := by
  have hfinished := hadvances.finished
  have hrefresh := hadvances.refresh
  have hleads := hentered.leads
  rcases hadvances.steps.goes_on with ⟨rfl, hsame, -⟩ | ⟨hsome, -, hstage⟩
  · have hmore : r'.pending ≠ [] := by simp [hsame, hpending]
    rw [if_neg hmore] at hrefresh
    refine .inTurn hrefresh ?_ hentered.visits ?_ hsaved hleads
    · rw [hsame, hpending, hentered.place]
      rfl
    · rw [hfinished]
      simpa using hentered.settled
  · obtain ⟨outcome, rfl⟩ := Option.isSome_iff_exists.mp hsome
    refine .between ?_ ?_ ?_
    · rw [hentered.visits, hfinished]
      exact List.rel_append hentered.settled (.cons ⟨hentered.place, hleads.1⟩ .nil)
    · intro w hw hnone
      rw [hentered.visits] at hw
      rcases List.mem_append.mp hw with hdone | hlast
      · exact hsaved w hdone hnone
      · obtain rfl := List.mem_singleton.mp hlast
        exact hleads.2 hnone
    · intro r'' hr''
      rw [hrefresh] at hr''
      split_ifs at hr''
      obtain rfl := Option.some.inj hr''
      exact .inr hstage

end

theorem Tracks.advance_filter (hq : q.disk.IsFolder q.terms.cacheDir q.place) (he : e.IsIdentified)
    (ht : x.Tracks q) (hu : x.UnderWay e q.terms r) (hpending : r.pending = (position, f) :: rest)
    (hplaces : x.finished.map Finished.place ++ r.pending = e.enabled)
    (hworking : x.engine.IsWorking r position f)
    (hcontents : ∀ content, x.engine.obtains s x.disk = some content → content ∈ q.contents)
    (hnow : s.now ∈ q.times) : (x.advance s).Tracks q := by
  obtain ⟨o, r', hadvances⟩ := advances hu hpending hworking s
  rw [hpending] at hplaces
  obtain ⟨done, v, hentered⟩ := ht.enters hq he hu hpending hplaces hadvances hcontents hnow
  have hid : f.id < Text.limit64 := he.lt_of_enabled (Engine.mem_of_places hplaces)
  have htouches := hadvances.steps.touches (hu.terms ▸ ht.folder) hid hentered.written
  refine ⟨hu.terms ▸ htouches.folder, fun g hg => hentered.kept hadvances ht htouches hg, ?_,
    fun reason hresult => ?_⟩
  · exact hentered.books hadvances hpending
      (hentered.isSaved hadvances he ht hplaces hu.terms htouches)
  · rw [hadvances.result] at hresult
    split_ifs at hresult
    rw [Refresh.result] at hresult
    split_ifs at hresult <;> simp at hresult

/-- A step that makes the cache directory lines up the filters and leaves the rest. -/
theorem advance_preparing (hu : x.UnderWay e q.terms r) (hpending : r.pending = []) {d : Disk}
    (hmade : (OnDisk.makeDirectories q.terms.cacheDir).perform x.disk = (.ok (), d))
    (s : Surroundings) :
    (x.advance s).disk = d ∧ (x.advance s).visits = x.visits ∧
      (x.advance s).finished = x.finished ∧ (x.advance s).unsaved = x.unsaved ∧
      (∀ r', (x.advance s).engine.refresh = some r' → r'.stage = .fetching) ∧
      ∀ reason, (x.advance s).result ≠ some (.error (.files reason)) := by
  have hprepare : x.engine.advance s x.disk =
      x.engine.hold { r with pending := x.engine.enabled, stage := .fetching } d := by
    simp [Engine.advance, hu.refresh, hpending, Engine.prepare, hu.terms, hmade]
  refine ⟨?_, ?_, ?_, ?_, fun r' hr' => ?_, fun reason hresult => ?_⟩
  · simp only [advance, hprepare, Engine.hold]
    split_ifs <;> rfl
  · simp [advance, Engine.visit?, hu.refresh, hpending]
  · simp [advance, RefreshHistory.advance, Engine.finishes, hu.refresh, hpending]
  · simp [advance, Engine.unsaved?, hu.refresh, hpending]
  · simp only [advance, RefreshHistory.advance, hprepare] at hr'
    rw [Engine.of_hold_refresh hr']
  · simp only [advance, RefreshHistory.advance, hu.result, hprepare, Engine.hold, Refresh.result]
      at hresult
    split_ifs at hresult <;> simp at hresult

theorem Tracks.advance_start (ht : x.Tracks q) (hu : x.UnderWay e q.terms r)
    (hpending : r.pending = []) (s : Surroundings) : (x.advance s).Tracks q := by
  obtain ⟨hdisk, hvisits, hfinished, hunsaved, hstage, hresult⟩ :=
    advance_preparing hu hpending ht.folder.makeDirectories s
  refine ⟨?_, ?_, ?_, hresult⟩
  · rw [hdisk]
    exact ht.folder
  · rw [hdisk, hvisits]
    exact ht.kept
  · cases ht.books with
    | between hsettled hsaved _ =>
      refine .between ?_ ?_ fun r' hr' => .inr (hstage r' hr')
      · rw [hvisits, hfinished]
        exact hsettled
      · rw [hvisits, hunsaved, hdisk]
        exact hsaved
    | inTurn hrefresh hhead =>
      obtain rfl := Option.some.inj (hrefresh.symm.trans hu.refresh)
      simp [hpending] at hhead

/-- At the start nothing is in the books, and the cache directory is there. -/
theorem tracks_start (hq : q.disk.IsFolder q.terms.cacheDir q.place)
    (h : (start q.terms e q.disk).result = none) : (start q.terms e q.disk).Tracks q := by
  obtain ⟨hidle, hopen⟩ := idle_of_start h
  rw [start_of_idle hidle hopen]
  refine ⟨hq, fun _ _ _ => rfl, .between .nil (fun v hv => by cases hv) fun r hr => ?_,
    fun reason hresult => by cases hresult⟩
  obtain rfl := Option.some.inj hr
  exact .inl rfl

/-- The same after the first step, where it was made. -/
theorem tracks_made (hq : q.disk.IsFolder q.terms.cacheDir q.place) {d : Disk}
    (h : (start q.terms e d).result = none)
    (hmade : (OnDisk.makeDirectories q.terms.cacheDir).perform d = (.ok (), q.disk))
    (s : Surroundings) : ((start q.terms e d).advance s).Tracks q := by
  obtain ⟨hdisk, hvisits, hfinished, -, hstage, hresult⟩ :=
    advance_preparing (start_underWay h) rfl hmade s
  obtain ⟨hidle, hopen⟩ := idle_of_start h
  have hempty : (start q.terms e d).visits = [] ∧ (start q.terms e d).finished = [] := by
    rw [start_of_idle hidle hopen]
    exact ⟨rfl, rfl⟩
  rw [hempty.1] at hvisits
  rw [hempty.2] at hfinished
  refine ⟨?_, ?_, .between ?_ ?_ fun r' hr' => .inr (hstage r' hr'), hresult⟩
  · rw [hdisk]
    exact hq
  · intro f _ _
    rw [hdisk]
  · rw [hvisits, hfinished]
    exact .nil
  · rw [hvisits]
    exact fun v hv => by cases hv

/-! ## Accounts of a whole course -/

/-- Nobody else changes the files in a directory. -/
def Spares (dir : String) : RefreshCourse → List RefreshEvent → Prop
  | _, [] => True
  | x, .disturb d :: events => x.disk.SameFolder dir d ∧ Spares dir (x.step (.disturb d)) events
  | x, m :: events => Spares dir (x.step m) events

/-- The same files are found on another disk. -/
theorem Tracks.disturb (ht : x.Tracks q) (hbound : ∀ v ∈ x.visits, v.filter.id < Text.limit64)
    {d : Disk} (hsame : x.disk.SameFolder q.terms.cacheDir d) :
    Tracks q { x with disk := d } := by
  obtain ⟨hfolder, hentries⟩ := hsame q.place ht.folder
  have hsaved {w : Visit} (hw : w ∈ x.visits) (h : w.IsSaved q.terms x.disk) :
      w.IsSaved q.terms d := h.congr ht.folder hfolder (hbound w hw) (hentries _)
  refine ⟨hfolder, ?_, ?_, ht.prepared⟩
  · intro f hf hsource
    rw [← ht.kept f hf hsource]
    exact hentries f.cacheName
  · cases ht.books with
    | between hsettled hall hstage =>
      exact .between hsettled (fun w hw hnone => hsaved hw (hall w hw hnone)) hstage
    | @inTurn r done v hrefresh hhead hvisits hsettled hall hv =>
      have hmem : ∀ w ∈ done, w ∈ x.visits := by
        rw [hvisits]
        exact fun w hw => List.mem_append_left _ hw
      refine .inTurn hrefresh hhead hvisits hsettled
        (fun w hw hnone => hsaved (hmem w hw) (hall w hw hnone)) ?_
      cases hstage : r.stage with
      | «renaming» content =>
        rw [hstage] at hv
        exact ⟨hv.1, hv.2.1, (hentries _).trans hv.2.2⟩
      | compiling content checksum isFresh time =>
        rw [hstage] at hv
        exact ⟨hv.1, fun hnone => hsaved (by simp [hvisits]) (hv.2 hnone)⟩
      | _ =>
        rw [hstage] at hv
        exact hv

theorem Tracks.visited (ht : x.Tracks q) (hu : x.UnderWay e q.terms r) {v : Visit}
    (hv : v ∈ x.visits) : v.place ∈ e.enabled := by
  have hfinished {done : List Visit} (hsettled : List.Forall₂ (Visit.Settles q) done x.finished)
      (hdone : v ∈ done) : v.place ∈ e.enabled := by
    have hmem : v.place ∈ x.finished.map Finished.place :=
      settled_places hsettled ▸ List.mem_map_of_mem hdone
    cases hu.place with
    | start _ hnone _ => simp [hnone] at hmem
    | filter _ hplaces _ => exact hplaces ▸ List.mem_append_left _ hmem
  cases ht.books with
  | between hsettled _ _ => exact hfinished hsettled hv
  | @inTurn r₁ done w hrefresh hhead hvisits hsettled _ _ =>
    obtain rfl : r₁ = r := Option.some.inj (hrefresh.symm.trans hu.refresh)
    rw [hvisits] at hv
    rcases List.mem_append.mp hv with hdone | hlast
    · exact hfinished hsettled hdone
    · obtain rfl := List.mem_singleton.mp hlast
      cases hu.place with
      | start hpending _ _ => simp [hpending] at hhead
      | filter _ hplaces _ =>
        exact hplaces ▸ List.mem_append_right _ (List.mem_of_head? hhead)

theorem Tracks.expire (ht : x.Tracks q) :
    Tracks q { x with engine := x.engine.expire } := by
  refine ⟨ht.folder, ht.kept, ?_, ht.prepared⟩
  cases ht.books with
  | between hsettled hsaved hstage =>
    refine .between hsettled hsaved fun r' hr' => ?_
    obtain ⟨r, hr, rfl⟩ := Option.map_eq_some_iff.mp hr'
    exact hstage r hr
  | @inTurn r done v hrefresh hhead hvisits hsettled hsaved hv =>
    have hlate : x.engine.expire.refresh = some { r with isLate := true } := by
      simp [Engine.expire, hrefresh]
    exact .inTurn hlate hhead hvisits hsettled hsaved hv

/-- The accounts do not depend on the index, nor on the answers to other calls. -/
theorem Tracks.congr (ht : x.Tracks q) {engine : Engine} (answers : List (Except Failure Unit))
    (hrefresh : engine.refresh = x.engine.refresh) :
    Tracks q { x with engine, answers } := by
  refine ⟨ht.folder, ht.kept, ?_, ht.prepared⟩
  cases ht.books with
  | between hsettled hsaved hstage =>
    exact .between hsettled hsaved fun r hr => hstage r (hrefresh ▸ hr)
  | inTurn hr hhead hvisits hsettled hsaved hv =>
    exact .inTurn (hrefresh.trans hr) hhead hvisits hsettled hsaved hv

structure Allows (q : Premises) (x : RefreshCourse) (m : RefreshEvent) : Prop where
  spares : ∀ d, m = .disturb d → x.disk.SameFolder q.terms.cacheDir d
  now : ∀ s, m = .advance s → s.now ∈ q.times
  contents : ∀ content ∈ (x.step m).contents, content ∈ q.contents

theorem Tracks.step (hq : q.disk.IsFolder q.terms.cacheDir q.place) (he : e.IsIdentified)
    (hf : x.Follows e q.terms) (ht : x.Tracks q) {m : RefreshEvent} (hallows : x.Allows q m) :
    (x.step m).Tracks q := by
  have hcontents := hallows.contents
  unfold RefreshCourse.step at hcontents ⊢
  split_ifs at hcontents ⊢ with hresult
  · exact ht
  obtain ⟨r, hu⟩ := underWay_of_open hf (by simpa using hresult)
  cases m with
  | advance s =>
    cases hu.place with
    | start hpending _ _ => exact ht.advance_start hu hpending s
    | filter hpending hplaces hworking =>
      refine ht.advance_filter hq he hu hpending hplaces hworking (fun content hcontent => ?_)
        (hallows.now s rfl)
      apply hcontents
      exact List.mem_append_right _ (by simp [hcontent])
  | expire => exact ht.expire
  | call terms' =>
    simp only [call_of_busy hu.refresh]
    exact ht.congr _ rfl
  | close => exact ht.congr x.answers (Engine.close_refresh x.engine)
  | disturb d =>
    exact ht.disturb (fun v hv => he.lt_of_enabled (ht.visited hu hv)) (hallows.spares d rfl)

theorem spares_cons {dir : String} {m : RefreshEvent} {events : List RefreshEvent} :
    Spares dir x (m :: events) ↔
      (∀ d, m = .disturb d → x.disk.SameFolder dir d) ∧ Spares dir (x.step m) events := by
  cases m <;> simp [Spares]

theorem spares_of_undisturbed (dir : String) (x : RefreshCourse) {events : List RefreshEvent}
    (h : ∀ d, .disturb d ∉ events) : Spares dir x events := by
  induction events generalizing x with
  | nil => trivial
  | cons m events ih =>
    refine spares_cons.mpr ⟨fun d hd => ?_, ih (x.step m) fun d hd => ?_⟩
    · exact absurd (hd ▸ List.mem_cons_self) (h d)
    · exact h d (List.mem_cons_of_mem m hd)

theorem spares_advances (dir : String) (x : RefreshCourse) (n : Nat) (s : Surroundings) :
    Spares dir x (List.replicate n (.advance s)) := by
  refine spares_of_undisturbed dir x fun d hd => ?_
  cases List.eq_of_mem_replicate hd

theorem Tracks.run (hq : q.disk.IsFolder q.terms.cacheDir q.place) (he : e.IsIdentified)
    (hf : x.Follows e q.terms) (ht : x.Tracks q) {events : List RefreshEvent}
    (hspares : Spares q.terms.cacheDir x events)
    (htimes : ∀ s, .advance s ∈ events → s.now ∈ q.times)
    (hcontents : ∀ content ∈ (x.run events).contents, content ∈ q.contents) :
    (x.run events).Tracks q := by
  induction events generalizing x with
  | nil => exact ht
  | cons m events ih =>
    obtain ⟨hm, hrest⟩ := spares_cons.mp hspares
    have hallows : x.Allows q m := by
      refine ⟨hm, fun s hs => htimes s (hs ▸ List.mem_cons_self), fun content hcontent => ?_⟩
      exact hcontents content (run_contents _ events hcontent)
    exact ih (step_follows hf m) (ht.step hq he hf hallows) hrest
      (fun s hs => htimes s (List.mem_cons_of_mem _ hs)) hcontents

end RefreshCourse
end DnsFilter
