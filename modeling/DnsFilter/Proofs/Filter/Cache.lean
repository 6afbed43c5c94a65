import DnsFilter.Proofs.Filter.Content
import DnsFilter.Proofs.Filter.Steps
import DnsFilter.Proofs.Storage.Copies
import DnsFilter.Proofs.Text.Digits
/-!
# The cache directory during a refresh

Cached copies are told apart by the ids of their filters, and from the files that are still being
written. A step of a refresh changes at most the two files of the filter in turn, and its cached
copy only where a content that was fetched takes its place.
-/
namespace DnsFilter

namespace Filter

def temporaryName (f : Filter) : String := f.cacheName ++ ".tmp"

theorem cacheName_eq (f : Filter) :
    f.cacheName = String.ofList (Nat.toDigits 10 f.id ++ ".txt".toList) := by
  simp [cacheName, Text.decimalText, String.ofList_append]

theorem temporaryName_eq (f : Filter) :
    f.temporaryName = String.ofList (Nat.toDigits 10 f.id ++ ".txt.tmp".toList) := by
  have hending : ".txt" ++ ".tmp" = ".txt.tmp" := by decide
  simp [temporaryName, cacheName_eq, String.ofList_append, String.append_assoc, hending]

theorem cacheName_inj {f g : Filter} (h : f.cacheName = g.cacheName) : f.id = g.id := by
  rw [cacheName_eq, cacheName_eq, String.ofList_inj] at h
  have hvalue := congrArg Text.decimalValue (List.append_cancel_right h)
  rwa [Text.decimalValue_toDigits, Text.decimalValue_toDigits] at hvalue

theorem cacheName_ne_temporaryName (f g : Filter) : f.cacheName ≠ g.temporaryName := by
  intro h
  rw [cacheName_eq, temporaryName_eq, String.ofList_inj] at h
  have hlast := congrArg List.getLast? h
  simp at hlast

theorem isPlainName_digits {id : Nat} (hid : id < Text.limit64) {ending : List Char}
    (hending : ending.all fun c => c != '/' && c != '\x00' && decide (c.val ≤ 127))
    (hlong : 2 < ending.length) (hshort : ending.length ≤ 200) :
    Disk.IsPlainName (String.ofList (Nat.toDigits 10 id ++ ending)) := by
  have hdigits : (Nat.toDigits 10 id).length ≤ 20 :=
    (Nat.length_toDigits_le_iff (by decide) (by decide)).mpr
      (hid.trans (by decide))
  have hall : ∀ c ∈ Nat.toDigits 10 id ++ ending, c ≠ '/' ∧ c ≠ '\x00' ∧ c.val ≤ 127 := by
    intro c hc
    rcases List.mem_append.mp hc with hdigit | hmem
    · have hrange := Text.isDigit_of_mem_toDigits hdigit
      simp only [Text.isDigit, Bool.and_eq_true, decide_eq_true_eq, Char.le_def] at hrange
      refine ⟨?_, ?_, UInt32.le_trans hrange.2 (by decide)⟩
      · rintro rfl
        exact absurd hrange.1 (by decide)
      · rintro rfl
        exact absurd hrange.1 (by decide)
    · have hchar := List.all_eq_true.mp hending c hmem
      simpa [and_assoc] using hchar
  refine Disk.isPlainName_of_ascii (fun h => (hall _ h).1 rfl) (fun h => (hall _ h).2.1 rfl)
    (fun c hc => (hall c hc).2.2) ?_ ?_
  · rw [List.length_append]
    omega
  · have hlimit : 220 ≤ Disk.nameLimit := by decide
    rw [List.length_append]
    omega

variable {f : Filter} (hid : f.id < Text.limit64)
include hid

theorem isPlainName_cacheName : Disk.IsPlainName f.cacheName := by
  rw [cacheName_eq]
  exact isPlainName_digits hid (by decide) (by decide) (by decide)

theorem isPlainName_temporaryName : Disk.IsPlainName f.temporaryName := by
  rw [temporaryName_eq]
  exact isPlainName_digits hid (by decide) (by decide) (by decide)

end Filter

def RefreshTerms.copyPath (terms : RefreshTerms) (f : Filter) : String :=
  Disk.join terms.cacheDir f.cacheName

namespace Refresh

variable {s : Surroundings} {r r' : Refresh} {f : Filter} {d d' : Disk} {p : Path}
  {o : Option FilterOutcome}

theorem temporaryPath_eq (r : Refresh) (f : Filter) :
    r.temporaryPath f = Disk.join r.terms.cacheDir f.temporaryName := by
  simp only [temporaryPath, cachePath, Disk.join, Filter.temporaryName]
  split_ifs <;> simp only [String.append_assoc]

variable (hfolder : d.IsFolder r.terms.cacheDir p) (hid : f.id < Text.limit64)
include hfolder hid

theorem write_temporary {content : Bytes} (hwrite : d.write (r.temporaryPath f) content = .ok d') :
    d'.IsFolder r.terms.cacheDir p ∧ d'.entry p f.temporaryName = some (.plain content) ∧
      ∀ other, other ≠ f.temporaryName → d'.entry p other = d.entry p other := by
  rw [temporaryPath_eq] at hwrite
  exact hfolder.write_join (Filter.isPlainName_temporaryName hid) hwrite

theorem rename_temporary {content : Bytes}
    (hwritten : d.entry p f.temporaryName = some (.plain content))
    (hrename : d.rename (r.temporaryPath f) (r.cachePath f) = .ok d') :
    d'.IsFolder r.terms.cacheDir p ∧ d'.read (r.terms.copyPath f) = .ok content ∧
      ∀ other, other ≠ f.temporaryName → other ≠ f.cacheName →
        d'.entry p other = d.entry p other := by
  rw [temporaryPath_eq] at hrename
  exact hfolder.rename_join (Filter.isPlainName_temporaryName hid) hwritten
    (Filter.isPlainName_cacheName hid) (Filter.cacheName_ne_temporaryName f f).symm hrename

/-- What is at hand for a filter was written to the file that is going to be renamed. -/
def IsWritten (r : Refresh) (f : Filter) (d : Disk) (p : Path) : Prop :=
  ∀ content, r.stage = .renaming content → d.entry p f.temporaryName = some (.plain content)

/-- The folder is as it was, but for the file of the filter that is being written, and for its
cached copy where something takes its place. -/
structure Touches (r : Refresh) (f : Filter) (p : Path) (d d' : Disk) : Prop where
  folder : d'.IsFolder r.terms.cacheDir p
  others : ∀ name, name ≠ f.temporaryName → (name = f.cacheName → ∀ c, r.stage ≠ .renaming c) →
    d'.entry p name = d.entry p name

theorem Obtains.touches {content : Bytes} {isFresh : Bool} (h : r.Obtains f d content isFresh d')
    (hwritten : r.IsWritten f d p) : r.Touches f p d d' := by
  cases h with
  | saved hstage hrename =>
    obtain ⟨hfolder', -, hothers⟩ :=
      rename_temporary hfolder hid (hwritten content hstage) hrename
    exact ⟨hfolder', fun name hne hcopy => hothers name hne fun hsame => hcopy hsame _ hstage⟩
  | unwritten | unmoved | recalled => exact ⟨hfolder, fun _ _ _ => rfl⟩

theorem Steps.touches (h : r.Steps s f d o r' d') (hwritten : r.IsWritten f d p) :
    r.Touches f p d d' := by
  cases h with
  | writes hstage hwrite =>
    obtain ⟨hfolder', -, hothers⟩ := write_temporary hfolder hid hwrite
    exact ⟨hfolder', fun name hne _ => hothers name hne⟩
  | compiles hobtains => exact hobtains.touches hfolder hid hwritten
  | skips hobtains => exact hobtains.touches hfolder hid hwritten
  | fetches | turnsBack | givesUp | misses | publishes => exact ⟨hfolder, fun _ _ _ => rfl⟩

theorem Obtains.stored {content : Bytes} (h : r.Obtains f d content true d')
    (hwritten : r.IsWritten f d p) (hsaves : r.saves f d = true) :
    d'.read (r.terms.copyPath f) = .ok content := by
  cases h with
  | unwritten hstage hwrite => simp [saves, hstage, hwrite, Except.isOk, Except.toBool] at hsaves
  | unmoved hstage hrename => simp [saves, hstage, hrename, Except.isOk, Except.toBool] at hsaves
  | saved hstage hrename =>
    exact (rename_temporary hfolder hid (hwritten content hstage) hrename).2.1

end Refresh
end DnsFilter
