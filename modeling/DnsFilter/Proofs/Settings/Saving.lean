import DnsFilter.Proofs.Data.Fields
import DnsFilter.Proofs.Data.TomlDocument
import DnsFilter.Proofs.Storage.Changes
import DnsFilter.Proofs.Text.Utf8
import DnsFilter.Proofs.Time.Interval
import DnsFilter.Settings.File
/-!
# Saved settings

Settings that were read have numbers of 64 bits and an interval whose text is read as the same one.
Such settings are written as a document that is read as the same settings, field by field.
-/
namespace DnsFilter

/-! ## Plain values of settings -/

theorem Toml.isPlain_ofNat {depth n : Nat} (h : n < Text.limit64) :
    IsPlain depth (.ofNat n) := by
  apply IsPlain.nat
  have hlimit : Text.limit64 ≤ Nat.pow 2 128 := by decide
  omega

theorem Toml.isPlain_texts {depth : Nat} (texts : List String) :
    IsPlain (depth + 1) (.texts texts) := by
  apply IsPlain.list
  intro v hv
  obtain ⟨s, -, rfl⟩ := List.mem_map.mp hv
  exact .text s

/-! ## Lists of filters -/

namespace FilterEntry

/-- An entry that can be written and read back. -/
def Fits (e : FilterEntry) : Prop := e.id < Text.limit64

theorem fits_of_ofValue? {v : Value} {e : FilterEntry} (h : ofValue? v = some e) : e.Fits := by
  simp only [ofValue?, Option.bind_eq_bind, Option.bind_eq_some_iff, Option.some.injEq] at h
  obtain ⟨fields, -, id, hid, name, -, url, -, enabled, -, rfl⟩ := h
  obtain ⟨w, hw⟩ := Value.Fields.exists_of_required hid
  exact Value.nat?_lt hw

variable {e : FilterEntry} (h : e.Fits)
include h

theorem ofValue?_toValue : ofValue? e.toValue = some e := by
  have hid := Value.nat?_ofNat h
  simp [ofValue?, toValue, Value.record?, Value.Fields.required, Value.Fields.optional,
    Value.Fields.under, Value.text?, Value.bool?, hid]

theorem isOrdered (depth : Nat) : Toml.IsOrdered depth e.toValue := by
  refine Toml.isOrdered_of_plain (by simp) ?_ depth
  simp only [List.forall_mem_cons]
  exact ⟨Toml.isPlain_ofNat h, .text _, .text _, .bool _, List.forall_mem_nil _⟩

end FilterEntry

namespace FilteringSettings

/-- Settings of filtering that can be written and read back. -/
structure Fits (s : FilteringSettings) : Prop where
  maxListSize : s.maxListSize < Text.limit64
  fetchTimeout : s.fetchTimeout < Text.limit64
  refreshInterval : s.refreshInterval < Text.limit64
  filters : ∀ e ∈ s.filters, e.Fits

theorem fits_of_ofValue? {v : Value} {s : FilteringSettings} (h : ofValue? v = some s) :
    s.Fits := by
  simp only [ofValue?, Option.bind_eq_bind, Option.bind_eq_some_iff, Option.some.injEq] at h
  obtain ⟨fields, -, cacheDir, -, maxListSize, hmax, fetchTimeout, htimeout, refreshInterval,
    hinterval, filters, hfilters, rfl⟩ := h
  refine ⟨Value.optional_nat?_lt hmax (by decide), Value.optional_nat?_lt htimeout (by decide),
    Value.optional_nat?_lt hinterval (by decide), ?_⟩
  intro e he
  rcases Value.Fields.exists_of_optional hfilters with rfl | ⟨v, hv⟩
  · cases he
  · obtain ⟨w, hw⟩ := Value.exists_of_list hv e he
    exact FilterEntry.fits_of_ofValue? hw

variable {s : FilteringSettings} (h : s.Fits)
include h

theorem ofValue?_toValue : ofValue? s.toValue = some s := by
  have hmax := Value.nat?_ofNat h.maxListSize
  have htimeout := Value.nat?_ofNat h.fetchTimeout
  have hinterval := Value.nat?_ofNat h.refreshInterval
  have hfilters : Value.list? FilterEntry.ofValue? (.list (s.filters.map FilterEntry.toValue)) =
      some s.filters := Value.list?_map fun e he => FilterEntry.ofValue?_toValue (h.filters e he)
  simp [ofValue?, toValue, Value.record?, Value.Fields.optional, Value.Fields.under, Value.text?,
    hmax, htimeout, hinterval, hfilters]

theorem isOrdered (depth : Nat) : Toml.IsOrdered (depth + 1) s.toValue := by
  have hplain : ∀ f ∈ [("cache_dir", Value.text s.cacheDir),
      ("max_rule_list_size", .ofNat s.maxListSize), ("fetch_timeout_secs", .ofNat s.fetchTimeout),
      ("refresh_interval_secs", .ofNat s.refreshInterval)],
      Toml.IsPlain Toml.nestingLimit f.2 := by
    simp only [List.forall_mem_cons]
    exact ⟨.text _, Toml.isPlain_ofNat h.maxListSize, Toml.isPlain_ofNat h.fetchTimeout,
      Toml.isPlain_ofNat h.refreshInterval, List.forall_mem_nil _⟩
  refine Toml.isOrdered_of_list (by simp) hplain ?_
  intro v hv
  obtain ⟨e, he, rfl⟩ := List.mem_map.mp hv
  exact FilterEntry.isOrdered (h.filters e he) depth

end FilteringSettings

/-! ## The query log -/

namespace LogSettings

/-- Settings of the query log that can be written and read back. -/
structure Fits (s : LogSettings) : Prop where
  memSize : s.memSize < Text.limit64
  maxFileSize : s.maxFileSize < Text.limit64
  maxArchives : s.maxArchives < Text.limit64
  interval : Interval.parse (Interval.text s.interval) = .ok s.interval

theorem interval_of_optional {fields : Value.Fields} {d : Duration}
    (h : fields.optional ["rotation_interval"] (Duration.ofDays 1)
      (fun v => v.text?.bind (fun s => (Interval.parse s).toOption)) = some d) :
    Interval.parse (Interval.text d) = .ok d := by
  rcases Value.Fields.exists_of_optional h with rfl | ⟨v, hv⟩
  · exact Interval.parse_text (n := 86400) (by decide)
  · obtain ⟨text, -, htext⟩ := Option.bind_eq_some_iff.mp hv
    cases hparse : Interval.parse text with
    | error e =>
      rw [hparse] at htext
      cases htext
    | ok d' =>
      rw [hparse] at htext
      obtain rfl := Option.some.inj htext
      exact Interval.parse_text_of_parse hparse

theorem fits_of_ofValue? {v : Value} {s : LogSettings} (h : ofValue? v = some s) : s.Fits := by
  simp only [ofValue?, Option.bind_eq_bind, Option.bind_eq_some_iff, Option.some.injEq] at h
  obtain ⟨fields, -, enabled, -, fileEnabled, -, dir, -, memSize, hmem, ignored, -, interval,
    hinterval, maxFileSize, hsize, maxArchives, harchives, rfl⟩ := h
  exact ⟨Value.optional_nat?_lt hmem (by decide), Value.optional_nat?_lt hsize (by decide),
    Value.optional_nat?_lt harchives (by decide), interval_of_optional hinterval⟩

variable {s : LogSettings} (h : s.Fits)
include h

theorem ofValue?_toValue : ofValue? s.toValue = some s := by
  have hmem := Value.nat?_ofNat h.memSize
  have hsize := Value.nat?_ofNat h.maxFileSize
  have harchives := Value.nat?_ofNat h.maxArchives
  have hignored := Value.list?_texts s.ignored
  simp [ofValue?, toValue, Value.record?, Value.Fields.optional, Value.Fields.under, Value.text?,
    Value.bool?, hmem, hsize, harchives, hignored, h.interval, Except.toOption]

theorem isOrdered (depth : Nat) : Toml.IsOrdered depth s.toValue := by
  refine Toml.isOrdered_of_plain (by simp) ?_ depth
  simp only [List.forall_mem_cons]
  exact ⟨.bool _, .bool _, .text _, Toml.isPlain_ofNat h.memSize, Toml.isPlain_texts _, .text _,
    Toml.isPlain_ofNat h.maxFileSize, Toml.isPlain_ofNat h.maxArchives, List.forall_mem_nil _⟩

end LogSettings

/-! ## Clients, messages and the web interface -/

theorem Client.ofValue?_toValue (c : Client) : ofValue? c.toValue = some c := by
  have hids := Value.list?_texts c.ids
  simp [ofValue?, toValue, Value.record?, Value.Fields.required, Value.Fields.optional,
    Value.Fields.under, Value.text?, Value.bool?, hids]

theorem Client.isOrdered (c : Client) (depth : Nat) : Toml.IsOrdered depth c.toValue := by
  refine Toml.isOrdered_of_plain (by simp) ?_ depth
  simp only [List.forall_mem_cons]
  exact ⟨.text _, Toml.isPlain_texts _, .bool _, List.forall_mem_nil _⟩

theorem LogFormat.named?_name (f : LogFormat) : named? f.name = some f := by
  cases f <;> decide

theorem LoggingSettings.ofValue?_toValue (s : LoggingSettings) : ofValue? s.toValue = some s := by
  simp [ofValue?, toValue, Value.record?, Value.Fields.optional, Value.Fields.under, Value.text?,
    Value.name?, LogFormat.named?_name]

theorem LoggingSettings.isOrdered (s : LoggingSettings) (depth : Nat) :
    Toml.IsOrdered depth s.toValue := by
  refine Toml.isOrdered_of_plain (by simp) ?_ depth
  simp only [List.forall_mem_cons]
  exact ⟨.text _, .text _, List.forall_mem_nil _⟩

theorem WebSettings.ofValue?_toValue (s : WebSettings) : ofValue? s.toValue = some s := by
  simp [ofValue?, toValue, Value.record?, Value.Fields.optional, Value.Fields.under, Value.text?,
    Value.bool?]

theorem WebSettings.isOrdered (s : WebSettings) (depth : Nat) :
    Toml.IsOrdered depth s.toValue := by
  refine Toml.isOrdered_of_plain (by simp) ?_ depth
  simp only [List.forall_mem_cons]
  exact ⟨.bool _, .text _, List.forall_mem_nil _⟩

/-! ## All settings -/

namespace Settings

/-- Settings that can be written and read back. -/
structure Fits (s : Settings) : Prop where
  filtering : s.filtering.Fits
  queryLog : s.queryLog.Fits

theorem fits_of_ofValue? {v : Value} {s : Settings} (h : ofValue? v = some s) : s.Fits := by
  simp only [ofValue?, Option.bind_eq_bind, Option.bind_eq_some_iff, Option.some.injEq] at h
  obtain ⟨fields, -, logging, -, filtering, hfiltering, queryLog, hlog, clients, -, web, -, rfl⟩ := h
  constructor
  · rcases Value.Fields.exists_of_optional hfiltering with rfl | ⟨v, hv⟩
    · exact FilteringSettings.fits_of_ofValue? (v := .table []) rfl
    · exact FilteringSettings.fits_of_ofValue? hv
  · rcases Value.Fields.exists_of_optional hlog with rfl | ⟨v, hv⟩
    · exact LogSettings.fits_of_ofValue? (v := .table []) rfl
    · exact LogSettings.fits_of_ofValue? hv

def firstTables (s : Settings) : Value.Fields :=
  [("logging", s.logging.toValue), ("filtering", s.filtering.toValue),
    ("query_log", s.queryLog.toValue)]

def clientsValue (s : Settings) : Value := .list (s.clients.map Client.toValue)

section
variable {s : Settings} (h : s.Fits)
include h

theorem isSection_firstTables : ∀ f ∈ s.firstTables, Toml.IsSection (Toml.InOrder 7) f.2 := by
  simp only [firstTables, List.forall_mem_cons]
  exact ⟨(s.logging.isOrdered 7).isSection, (FilteringSettings.isOrdered h.filtering 6).isSection,
    (LogSettings.isOrdered h.queryLog 7).isSection, List.forall_mem_nil _⟩

theorem ofValue?_fields {fields : Value.Fields}
    (hfields : fields = s.firstTables ++ [("clients", s.clientsValue), ("web", s.web.toValue)] ∨
      fields = ("clients", s.clientsValue) :: (s.firstTables ++ [("web", s.web.toValue)])) :
    ofValue? (.table fields) = some s := by
  have hlogging := s.logging.ofValue?_toValue
  have hfiltering := FilteringSettings.ofValue?_toValue h.filtering
  have hlog := LogSettings.ofValue?_toValue h.queryLog
  have hclients : Value.list? Client.ofValue? s.clientsValue = some s.clients :=
    Value.list?_map fun c _ => c.ofValue?_toValue
  have hweb := s.web.ofValue?_toValue
  rcases hfields with rfl | rfl
  all_goals
    simp [ofValue?, firstTables, Value.fields?, Value.Fields.optional, Value.Fields.under,
      hlogging, hfiltering, hlog, hclients, hweb]

/-- The document of settings is that of a table in order, from which they are read back: the one
that they are written as, with the list of clients in front if it is empty. -/
theorem exists_ordered : ∃ v, Toml.IsOrdered 8 v ∧ s.toToml = Toml.document v ∧
    ofValue? v = some s := by
  have hfirst := isSection_firstTables h
  have hweb : ∀ f ∈ [("web", s.web.toValue)], Toml.IsSection (Toml.InOrder 7) f.2 :=
    List.forall_mem_singleton.mpr (s.web.isOrdered 7).isSection
  by_cases hnone : s.clients = []
  · have hplain : Toml.IsPlain Toml.nestingLimit s.clientsValue := by
      rw [clientsValue, hnone]
      exact .list (List.forall_mem_nil _)
    refine ⟨_, ?_, Toml.document_plain_first hfirst (f := ("clients", s.clientsValue)) hplain,
      ofValue?_fields h (.inr rfl)⟩
    refine ⟨_, rfl, by simp [firstTables], [("clients", s.clientsValue)], _, rfl, ?_, ?_⟩
    · exact List.forall_mem_singleton.mpr hplain
    · exact List.forall_mem_append.mpr ⟨hfirst, hweb⟩
  · have hsection : Toml.IsSection (Toml.InOrder 7) s.clientsValue := by
      apply Toml.isSection_list (by simpa using hnone)
      intro v hv
      obtain ⟨c, -, rfl⟩ := List.mem_map.mp hv
      exact c.isOrdered 7
    refine ⟨s.toValue, ?_, rfl, ofValue?_fields h (.inl rfl)⟩
    refine ⟨s.firstTables ++ [("clients", s.clientsValue), ("web", s.web.toValue)], rfl,
      by simp [firstTables], [], _, rfl, List.forall_mem_nil _, ?_⟩
    exact List.forall_mem_append.mpr ⟨hfirst, List.forall_mem_cons.mpr ⟨hsection, hweb⟩⟩

end

theorem ofToml_toToml {s : Settings} (h : s.Fits) : ofToml s.toToml = .ok s := by
  obtain ⟨v, hordered, htext, hread⟩ := exists_ordered h
  rw [ofToml, htext, Toml.parse?_document hordered]
  simp only [hread]

theorem fits_of_ofToml {text : String} {s : Settings} (h : ofToml text = .ok s) : s.Fits := by
  unfold ofToml at h
  split at h
  · cases h
  · split at h
    · cases h
    · rename_i hread
      obtain rfl := Except.ok.inj h
      exact fits_of_ofValue? hread

theorem save_eq_ok {s : Settings} {d d' : Disk} {path : String} :
    s.save d path = .ok d' ↔ d.write path (Utf8.encode s.toToml.toList) = .ok d' := by
  unfold save
  split <;> rename_i hwrite <;> simp [hwrite]

theorem read_of_save {s : Settings} (h : s.Fits) {d d' : Disk} {path : String}
    (hsave : s.save d path = .ok d') : read d' path = .ok s := by
  have hread := Disk.read_of_write (save_eq_ok.mp hsave)
  have htext : d'.readText path = .ok s.toToml.toList := by
    simp only [Disk.readText, hread, bind, Except.bind, Utf8.decode?_encode]
  rw [read, htext]
  simp only [String.ofList_toList]
  exact ofToml_toToml h

/-- Settings that were read from any text survive saving. They can be saved wherever a file can be
written, and from the file that they were saved in the same settings are read again, in every field,
and so with the same filters, ignored hosts and outcome of the validation. -/
theorem saved_settings_are_read_back (text : String) (s : Settings) (h : ofToml text = .ok s) :
    ofToml s.toToml = .ok s ∧ ∀ (d : Disk) (path : String),
      ((∃ d', s.save d path = .ok d') ↔ ∃ content d', d.write path content = .ok d') ∧
      ∀ d', s.save d path = .ok d' → read d' path = .ok s := by
  have hfits := fits_of_ofToml h
  refine ⟨ofToml_toToml hfits, ?_⟩
  intro d path
  refine ⟨?_, ?_⟩
  · constructor
    · rintro ⟨d', hsave⟩
      exact ⟨_, d', save_eq_ok.mp hsave⟩
    · rintro ⟨content, d', hwrite⟩
      obtain ⟨d'', hsave⟩ := Disk.exists_store hwrite (.plain (Utf8.encode s.toToml.toList))
      exact ⟨d'', save_eq_ok.mpr hsave⟩
  · intro d' hsave
    exact read_of_save hfits hsave

def shortFile : Value :=
  .table [("query_log", .table [("rotation_interval", .text " 7200s")]),
    ("filtering", .table [("filters", .list [.table [("id", .ofNat 7), ("name", .text "ads"),
      ("path", .text "/etc/ads.txt")]])])]

theorem isOrdered_shortFile : Toml.IsOrdered 8 shortFile := by
  have hlog : Toml.IsOrdered 7 (.table [("rotation_interval", .text " 7200s")]) :=
    Toml.isOrdered_of_plain (by decide) (List.forall_mem_singleton.mpr (.text _)) 7
  have hentry : Toml.IsOrdered 6 (.table [("id", .ofNat 7), ("name", .text "ads"),
      ("path", .text "/etc/ads.txt")]) := by
    refine Toml.isOrdered_of_plain (by decide) ?_ 6
    simp only [List.forall_mem_cons]
    exact ⟨Toml.isPlain_ofNat (by decide), .text _, .text _, List.forall_mem_nil _⟩
  have hfiltering := @Toml.isOrdered_of_list 6 [] "filters" _ (by decide) (List.forall_mem_nil _)
    (List.forall_mem_singleton.mpr hentry)
  refine ⟨_, rfl, by decide, [], _, rfl, List.forall_mem_nil _, ?_⟩
  simp only [List.forall_mem_cons]
  exact ⟨hlog.isSection, hfiltering.isSection, List.forall_mem_nil _⟩

/-- What is left out there is saved with its default, and the interval in hours. -/
theorem short_file_is_saved_in_full :
    let text := "\n[query_log]\nrotation_interval = \" 7200s\"\n" ++
      "\n[filtering]\n\n[[filtering.filters]]\nid = 7\nname = \"ads\"\npath = \"/etc/ads.txt\"\n"
    let s : Settings := {
      filtering.filters := [⟨7, "ads", "/etc/ads.txt", true⟩]
      queryLog.interval := .ofSeconds 7200 }
    ofToml text = .ok s ∧ Interval.text s.queryLog.interval = "2h" ∧
      ∃ d', s.save {} "saved.toml" = .ok d' ∧ read d' "saved.toml" = .ok s := by
  intro text s
  have htext : text = Toml.document shortFile := by decide
  have hvalue : ofValue? shortFile = some s := by rfl
  have hread : ofToml text = .ok s := by
    rw [htext, ofToml, Toml.parse?_document isOrdered_shortFile]
    simp only [hvalue]
  obtain ⟨-, hsaved⟩ := saved_settings_are_read_back text s hread
  obtain ⟨hsave, hreload⟩ := hsaved {} "saved.toml"
  have hwrite : ∃ content d', ({} : Disk).write "saved.toml" content = .ok d' := ⟨[], _, rfl⟩
  obtain ⟨d', hd'⟩ := hsave.mpr hwrite
  exact ⟨hread, by decide, d', hd', hreload d' hd'⟩

end Settings

end DnsFilter
