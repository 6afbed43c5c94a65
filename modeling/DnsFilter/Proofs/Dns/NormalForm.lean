import DnsFilter.Filter.Index
import DnsFilter.Log.QueryLog
import DnsFilter.Proofs.Dns.HostName
import DnsFilter.Proofs.Log.Params
/-!
# The normal form of a name

The normal form takes away the white space around a name and then the dots at its end, each of them
once. Dots may have white space in front of them, which then stays. All other names are laid bare, and
what they are looked up under does not depend on how they are spelled.
-/
namespace DnsFilter
namespace HostName

def isTrailing (c : Char) : Bool := Text.isBlank c || c == '.'

structure IsBare (name : List Char) : Prop where
  starts : Text.Stops Text.isBlank name
  ends : Text.Stops isTrailing name.reverse
  noUpper : ∀ c ∈ name, Text.isUpper c = false

/-- White space stands in front of the dots at the end. -/
def HidesBlank (name : List Char) : Prop :=
  ∃ front c dots, Text.trim name = front ++ c :: dots ∧ Text.isBlank c = true ∧ ∀ d ∈ dots, d = '.'

/-- The spellings of a name in lower case: in any case, with white space before and with white space
and dots after. -/
def IsSpelling (name s : List Char) : Prop :=
  ∃ before core after, s = before ++ core ++ after ∧ Text.AllBlank before ∧
    (∀ c ∈ after, isTrailing c = true) ∧ Text.lower core = name

def Respelled (s t : List Char) : Prop := ∃ name, IsSpelling name s ∧ IsSpelling name t

def bare (name : List Char) : List Char :=
  Text.lower (Text.dropEndWhile isTrailing (Text.trimStart name))

def stem (name : List Char) : List Char := Text.dropEndWhile (· == '.') (Text.trim name)

theorem normalForm_eq (name : List Char) : normalForm name = Text.lower (stem name) := rfl

/-! ## What may stand around a name -/

theorem isDot_lowerChar (c : Char) : (Text.lowerChar c == '.') = (c == '.') := by
  rw [Bool.eq_iff_iff, beq_iff_eq, beq_iff_eq, Text.lowerChar_eq_iff (by decide) (by decide)]

theorem isTrailing_lowerChar (c : Char) : isTrailing (Text.lowerChar c) = isTrailing c := by
  rw [isTrailing, Text.isBlank_lowerChar, isDot_lowerChar, isTrailing]

theorem stops_isTrailing_iff {s : List Char} :
    Text.Stops isTrailing s ↔ Text.Stops Text.isBlank s ∧ Text.Stops (· == '.') s := by
  simp only [Text.Stops, isTrailing, Bool.or_eq_false_iff, forall_and]

theorem bare_lower (s : List Char) : bare (Text.lower s) = bare s := by
  rw [bare, Text.trimStart, Text.dropWhile_lower Text.isBlank_lowerChar,
    Text.dropEndWhile_lower isTrailing_lowerChar, Text.lower_lower, bare, Text.trimStart]

theorem isBare_bare (s : List Char) : IsBare (bare s) where
  starts := (Text.stops_lower Text.isBlank_lowerChar).mpr
    (Text.stops_dropWhile Text.isBlank s).dropEndWhile
  ends := by
    rw [bare, Text.lower_reverse]
    exact (Text.stops_lower isTrailing_lowerChar).mpr (Text.stops_dropEndWhile isTrailing _)
  noUpper := fun _ => Text.not_isUpper_of_mem_lower

theorem IsBare.bare_eq {s : List Char} (h : IsBare s) : bare s = s := by
  rw [bare, Text.trimStart, h.starts.dropWhile_eq, h.ends.dropEndWhile_eq,
    Text.lower_eq_self h.noUpper]

theorem IsBare.normalForm_eq {s : List Char} (h : IsBare s) : normalForm s = s := by
  obtain ⟨hblank, hdot⟩ := stops_isTrailing_iff.mp h.ends
  have htrim : Text.IsTrimmed s := ⟨h.starts, hblank⟩
  rw [normalForm, htrim.trim_eq, hdot.dropEndWhile_eq, Text.lower_eq_self h.noUpper]

theorem isSpelling_bare (s : List Char) : IsSpelling (bare s) s := by
  obtain ⟨after, hafter, htrailing⟩ := Text.exists_tail isTrailing (Text.trimStart s)
  refine ⟨s.takeWhile Text.isBlank, Text.dropEndWhile isTrailing (Text.trimStart s), after, ?_,
    ?_, htrailing, rfl⟩
  · rw [List.append_assoc, ← hafter, Text.trimStart, List.takeWhile_append_dropWhile]
  · intro c hc
    exact List.all_eq_true.mp List.all_takeWhile c hc

theorem bare_eq_of_isSpelling {name s : List Char} (h : IsSpelling name s) :
    bare s = bare name := by
  obtain ⟨before, core, after, rfl, hbefore, hafter, rfl⟩ := h
  have hstart : Text.trimStart (before ++ core ++ after) = Text.trimStart (core ++ after) := by
    rw [Text.trimStart, List.append_assoc, List.dropWhile_append_of_pos hbefore, Text.trimStart]
  rw [bare_lower, bare, bare, hstart, Text.trimStart, List.dropWhile_append]
  split_ifs with hblank
  · -- Nothing but white space and dots.
    have hcore : core.dropWhile Text.isBlank = [] := List.isEmpty_iff.mp hblank
    have hrest : ∀ c ∈ after.dropWhile Text.isBlank, isTrailing c = true := fun c hc =>
      hafter c ((List.dropWhile_sublist _).subset hc)
    rw [← List.nil_append (after.dropWhile Text.isBlank), Text.dropEndWhile_append hrest,
      Text.trimStart, hcore]
  · rw [Text.dropEndWhile_append hafter, Text.trimStart]

theorem respelled_iff {s t : List Char} : Respelled s t ↔ bare s = bare t := by
  constructor
  · rintro ⟨name, hs, ht⟩
    rw [bare_eq_of_isSpelling hs, bare_eq_of_isSpelling ht]
  · intro h
    exact ⟨bare s, isSpelling_bare s, h ▸ isSpelling_bare t⟩

/-! ## What is left in a normal form -/

theorem stem_starts (s : List Char) : Text.Stops Text.isBlank (stem s) :=
  (Text.isTrimmed_trim s).starts.dropEndWhile

theorem stem_ends (s : List Char) : Text.Stops (· == '.') (stem s).reverse :=
  Text.stops_dropEndWhile _ _

theorem exists_dots (s : List Char) :
    ∃ dots, Text.trim s = stem s ++ dots ∧ ∀ d ∈ dots, d = '.' := by
  obtain ⟨dots, hdots, hall⟩ := Text.exists_tail (· == '.') (Text.trim s)
  exact ⟨dots, hdots, fun d hd => beq_iff_eq.mp (hall d hd)⟩

theorem hidesBlank_iff {s : List Char} :
    HidesBlank s ↔ ¬Text.Stops Text.isBlank (stem s).reverse := by
  constructor
  · rintro ⟨front, c, dots, htrim, hblank, hdots⟩ hstops
    have hdot : (c == '.') = false := by
      rw [beq_eq_false_iff_ne]
      rintro rfl
      exact absurd hblank (by decide)
    have hends : Text.Stops (· == '.') (front ++ [c]).reverse := by
      rw [List.reverse_append]
      exact Text.stops_cons (p := (· == '.')) hdot front.reverse
    have hstem : stem s = front ++ [c] := by
      rw [stem, htrim, List.append_cons, Text.dropEndWhile_append (by simpa using hdots),
        hends.dropEndWhile_eq]
    rw [hstem, List.reverse_append] at hstops
    exact absurd hblank (by simp [hstops c rfl])
  · intro hstops
    obtain ⟨dots, htrim, hdots⟩ := exists_dots s
    cases hrev : (stem s).reverse with
    | nil => exact absurd (hrev ▸ Text.stops_nil _) hstops
    | cons c rest =>
      have hblank : Text.isBlank c = true := by
        cases hc : Text.isBlank c with
        | false => exact absurd (hrev ▸ Text.stops_cons hc rest) hstops
        | true => rfl
      have hstem : stem s = rest.reverse ++ [c] := by
        rw [← List.reverse_reverse (stem s), hrev, List.reverse_cons]
      exact ⟨rest.reverse, c, dots, by rw [htrim, hstem, ← List.append_cons], hblank, hdots⟩

theorem normalForm_starts (s : List Char) : Text.Stops Text.isBlank (normalForm s) :=
  (Text.stops_lower Text.isBlank_lowerChar).mpr (stem_starts s)

theorem normalForm_noDot (s : List Char) : Text.Stops (· == '.') (normalForm s).reverse := by
  rw [normalForm_eq, Text.lower_reverse]
  exact (Text.stops_lower isDot_lowerChar).mpr (stem_ends s)

theorem normalForm_noBlank_iff {s : List Char} :
    Text.Stops Text.isBlank (normalForm s).reverse ↔ ¬HidesBlank s := by
  rw [normalForm_eq, Text.lower_reverse, Text.stops_lower Text.isBlank_lowerChar, hidesBlank_iff,
    not_not]

theorem isBare_normalForm_iff {s : List Char} : IsBare (normalForm s) ↔ ¬HidesBlank s := by
  rw [← normalForm_noBlank_iff]
  constructor
  · intro h
    exact (stops_isTrailing_iff.mp h.ends).1
  · intro h
    exact ⟨normalForm_starts s, stops_isTrailing_iff.mpr ⟨h, normalForm_noDot s⟩,
      fun _ => Text.not_isUpper_of_mem_lower⟩

/-- A text that is its own normal form does not end in white space, since none of it is taken away. -/
theorem ends_of_fixed {s : List Char} (h : normalForm s = s) :
    Text.Stops Text.isBlank s.reverse := by
  have hstart : Text.trimStart s = s := by
    have hstarts := normalForm_starts s
    rw [h] at hstarts
    exact hstarts.dropWhile_eq
  obtain ⟨gap, hgap, -⟩ := Text.exists_tail Text.isBlank s
  have hstem : (stem s).length = s.length := by
    rw [← congrArg List.length h, normalForm_eq, Text.lower, List.length_map]
  have hle : (stem s).length ≤ (Text.dropEndWhile Text.isBlank s).length := by
    rw [stem, Text.trim, hstart]
    exact Text.length_dropEndWhile_le _ _
  have hlen := congrArg List.length hgap
  rw [List.length_append] at hlen
  have hnil : gap = [] := List.length_eq_zero_iff.mp (by omega)
  rw [hnil, List.append_nil] at hgap
  rw [hgap]
  exact Text.stops_dropEndWhile _ _

theorem normalForm_fixed_iff {s : List Char} :
    normalForm (normalForm s) = normalForm s ↔ ¬HidesBlank s := by
  constructor
  · intro h
    exact normalForm_noBlank_iff.mp (ends_of_fixed h)
  · intro h
    exact (isBare_normalForm_iff.mpr h).normalForm_eq

theorem bare_normalForm (s : List Char) : bare (normalForm s) = bare s := by
  obtain ⟨gap, hgap, hblank⟩ := Text.exists_tail Text.isBlank (Text.trimStart s)
  obtain ⟨dots, hdots, hall⟩ := exists_dots s
  have hwhole : Text.trimStart s = stem s ++ (dots ++ gap) := by
    rw [hgap, ← List.append_assoc, ← hdots]
    rfl
  have htail : ∀ c ∈ dots ++ gap, isTrailing c = true := by
    intro c hc
    rcases List.mem_append.mp hc with hdot | hgap
    · simp [isTrailing, hall c hdot]
    · simp [isTrailing, hblank c hgap]
  rw [normalForm_eq, bare_lower, bare, Text.trimStart, (stem_starts s).dropWhile_eq, bare, hwhole,
    Text.dropEndWhile_append htail]

theorem normalForm_eq_bare {s : List Char} (h : ¬HidesBlank s) : normalForm s = bare s := by
  rw [← bare_normalForm, (isBare_normalForm_iff.mpr h).bare_eq]

theorem not_hidesBlank_bare (s : List Char) : ¬HidesBlank (bare s) := by
  rw [← isBare_normalForm_iff, (isBare_bare s).normalForm_eq]
  exact isBare_bare s

/-! ## What a name is looked up under -/

/-- Two names that are one wherever names are looked up: in the ignored hosts, as a name that is
ignored and as one that is asked for, in the filters, and in the entries of the log. -/
structure SameKey (s t : String) : Prop where
  ignored : ∀ (settings : LogSettings) (before after : List String),
    { settings with ignored := before ++ s :: after }.ignoredHosts =
      { settings with ignored := before ++ t :: after }.ignoredHosts
  suppressed : ∀ (log : QueryLog) (ids : List String), log.shouldLog s ids = log.shouldLog t ids
  filtered : ∀ (x : FilterIndex) (type : RecordType) (isAnswer : Bool),
    x.check ⟨s, type, isAnswer⟩ = x.check ⟨t, type, isAnswer⟩
  logged : ∀ (p : LogParams) (type : RecordType) (recordClass : RecordClass) (now : Timestamp)
    (e e' : LogEntry), LogEntry.ofParams { p with questions := [⟨s, type, recordClass⟩] } now = .ok e →
      LogEntry.ofParams { p with questions := [⟨t, type, recordClass⟩] } now = .ok e' → e = e'

theorem normalize_eq_iff {s t : String} :
    normalize s = normalize t ↔ normalForm s.toList = normalForm t.toList := by
  rw [normalize, normalize, String.ofList_inj]

theorem sameKey_of_normalize_eq {s t : String} (h : normalize s = normalize t) : SameKey s t where
  ignored := by
    intro settings before after
    simp only [LogSettings.ignoredHosts, List.map_append, List.map_cons, h]
  suppressed := by
    intro log ids
    simp only [QueryLog.shouldLog, h]
  filtered := by
    intro x type isAnswer
    simp only [FilterIndex.check, normalize_eq_iff.mp h]
  logged := by
    intro p type recordClass now e e' he he'
    obtain ⟨question, ip, hsubject, rfl⟩ := LogEntry.ofParams_eq_ok_iff.mp he
    obtain ⟨question', ip', hsubject', rfl⟩ := LogEntry.ofParams_eq_ok_iff.mp he'
    obtain ⟨hquestion, -, hip⟩ := LogParams.subject_eq_ok_iff.mp hsubject
    obtain ⟨hquestion', -, hip'⟩ := LogParams.subject_eq_ok_iff.mp hsubject'
    obtain rfl : _ = question := List.head_eq_of_cons_eq hquestion
    obtain rfl : _ = question' := List.head_eq_of_cons_eq hquestion'
    obtain rfl : ip = ip' := Option.some.inj (hip.symm.trans hip')
    simp only [LogParams.entry, h]

theorem SameKey.normalize_eq {s t : String} (h : SameKey s t) : normalize s = normalize t := by
  have hlist := h.ignored {} [] []
  simp only [LogSettings.ignoredHosts, List.nil_append, List.map_cons, List.map_nil] at hlist
  by_cases hs : normalize s = ""
  · by_cases ht : normalize t = ""
    · rw [hs, ht]
    · simp [hs, ht, List.eraseDups_cons] at hlist
  · by_cases ht : normalize t = ""
    · simp [hs, ht, List.eraseDups_cons] at hlist
    · simpa [hs, ht, List.eraseDups_cons] using hlist

theorem sameKey_iff {s t : String} : SameKey s t ↔ normalize s = normalize t :=
  ⟨SameKey.normalize_eq, sameKey_of_normalize_eq⟩

/-- Names in which no white space is hidden are looked up under the same key where, and only where,
they are spellings of one name. -/
theorem sameKey_iff_respelled {s t : String} (hs : ¬HidesBlank s.toList)
    (ht : ¬HidesBlank t.toList) : SameKey s t ↔ Respelled s.toList t.toList := by
  rw [sameKey_iff, normalize_eq_iff, normalForm_eq_bare hs, normalForm_eq_bare ht, respelled_iff]

/-- A name's key is the key of its other spellings if no white space is hidden in it. Otherwise its
bare form has another one. -/
theorem sameKey_spellings_iff {s : String} :
    (∀ t : String, ¬HidesBlank t.toList → Respelled s.toList t.toList → SameKey s t) ↔
      ¬HidesBlank s.toList := by
  constructor
  · intro h
    have hbare : (String.ofList (bare s.toList)).toList = bare s.toList := String.toList_ofList
    have hfree : ¬HidesBlank (String.ofList (bare s.toList)).toList := by
      rw [hbare]
      exact not_hidesBlank_bare s.toList
    have hrespelled : Respelled s.toList (String.ofList (bare s.toList)).toList := by
      rw [respelled_iff, hbare, (isBare_bare s.toList).bare_eq]
    have hkey := normalize_eq_iff.mp (h _ hfree hrespelled).normalize_eq
    rw [hbare, (isBare_bare s.toList).normalForm_eq] at hkey
    rw [← isBare_normalForm_iff, hkey]
    exact isBare_bare s.toList
  · intro hs t ht hrespelled
    exact (sameKey_iff_respelled hs ht).mpr hrespelled

/-- The normal form never begins with white space, ends in a dot or has a letter in upper case. It
does not end in white space, is its own normal form, and is the same for all spellings of a name, if
and only if the dots at the end of the name have no white space in front of them. -/
theorem normalize_canonical_iff (s : String) :
    Text.Stops Text.isBlank (normalize s).toList ∧
      Text.Stops (· == '.') (normalize s).toList.reverse ∧
      (∀ c ∈ (normalize s).toList, Text.isUpper c = false) ∧
      (Text.Stops Text.isBlank (normalize s).toList.reverse ↔ ¬HidesBlank s.toList) ∧
      (normalize (normalize s) = normalize s ↔ ¬HidesBlank s.toList) ∧
      ((∀ t : String, ¬HidesBlank t.toList → Respelled s.toList t.toList → SameKey s t) ↔
        ¬HidesBlank s.toList) := by
  have hlist : (normalize s).toList = normalForm s.toList := String.toList_ofList
  rw [normalize_eq_iff, hlist]
  exact ⟨normalForm_starts _, normalForm_noDot _, fun _ => Text.not_isUpper_of_mem_lower,
    normalForm_noBlank_iff, normalForm_fixed_iff, sameKey_spellings_iff⟩

/-- The white space between a name and its dot stays, and is taken away only the second time. -/
theorem blank_before_dot_stays :
    normalize "a ." = "a " ∧ normalize (normalize "a .") = "a" ∧
      IsSpelling ['a'] "a .".toList ∧ IsSpelling ['a'] "a ".toList ∧ ¬SameKey "a ." "a " := by
  have hdotted : normalize "a ." = "a " := by decide
  have hspaced : normalize "a " = "a" := by decide
  refine ⟨hdotted, by rw [hdotted, hspaced], ?_, ?_, ?_⟩
  · exact ⟨[], ['a'], [' ', '.'], by decide, by decide, List.all_eq_true.mp (by decide), by decide⟩
  · exact ⟨[], ['a'], [' '], by decide, by decide, List.all_eq_true.mp (by decide), by decide⟩
  · rw [sameKey_iff, hdotted, hspaced]
    decide

end HostName
end DnsFilter
