import DnsFilter.Log.Entry
import DnsFilter.Text.Utf8
import DnsFilter.Proofs.Data.Fields
import DnsFilter.Proofs.Data.Json
import DnsFilter.Proofs.Net.Address
import DnsFilter.Proofs.Time.Rfc3339
/-!
# Lines of log entries

An entry is read back from its line, and its line has no line feed in it. The parts that a line
leaves out are those that a reader puts in.
-/
namespace DnsFilter

/-! ## Names -/

theorem RecordType.named?_name (t : RecordType) : named? t.name = some t := by
  cases t <;> rfl

theorem RecordClass.named?_name (c : RecordClass) : named? c.name = some c := by
  cases c <;> rfl

theorem Transport.named?_name (t : Transport) : named? t.name = some t := by
  cases t <;> rfl

theorem Action.named?_name (a : Action) : named? a.name = some a := by
  cases a <;> rfl

/-! ## Answer records -/

theorem AnswerRecord.ofValue?_toValue {r : AnswerRecord} (h : r.ttl < Text.limit32) :
    ofValue? r.toValue = some r := by
  have hnat := Value.nat?_ofNat h
  simp [ofValue?, toValue, Value.strictRecord?, Value.record?, Value.Fields.required,
    Value.Fields.under, Value.text?, RecordType.ofValue?, Value.name?, RecordType.named?_name, hnat]

theorem LogEntry.readRecords {rs : List AnswerRecord} (h : ∀ r ∈ rs, r.ttl < Text.limit32) :
    Value.list? AnswerRecord.ofValue? (recordsValue rs) = some rs :=
  Value.list?_map fun r hr => AnswerRecord.ofValue?_toValue (h r hr)

theorem LogEntry.canWrite_recordsValue (rs : List AnswerRecord) :
    Json.canWrite (recordsValue rs) = true :=
  Json.canWrite_list.mpr fun v hv => by
    obtain ⟨r, -, rfl⟩ := List.mem_map.mp hv
    rfl

/-! ## Verdicts -/

theorem Verdict.ofValue?_toValue {v : Verdict}
    (h : ∀ rule, v.rule? = some rule → rule.filterId < Text.limit64) :
    ofValue? v.toValue = some v := by
  cases v with
  | noMatch => rfl
  | matched m =>
    have hid := h m rfl
    have hkeep : Json.canKeep keptLevels (toValue (.matched m)) = true := by
      have hfits : Json.fits (Nat.toDigits 10 (m.filterId : Int).natAbs) = true :=
        Json.fits_toDigits hid
      simp only [toValue, Json.canKeep, Json.canKeepFields, Value.ofNat, hfits]
      rfl
    have hnat := Value.nat?_ofNat hid
    have haction := Action.named?_name m.action
    simp only [ofValue?, hkeep, if_true]
    simp [toValue, parts?, Value.strictRecord?, Value.record?, Value.Fields.required,
      Value.Fields.under, Value.text?, Value.name?, haction, hnat]

theorem Verdict.canWrite_toValue (v : Verdict) : Json.canWrite v.toValue = true := by
  cases v <;> rfl

/-! ## Entries -/

namespace LogEntry

/-- What an entry of the program's types always is: its time is a time of the calendar, and its
numbers have 64 and 32 bits. -/
structure IsWellFormed (e : LogEntry) : Prop where
  time : e.time.IsWellFormed
  elapsed : e.elapsedMicros < Text.limit64
  filterId : ∀ rule, e.verdict.rule? = some rule → rule.filterId < Text.limit64
  answer : ∀ r ∈ e.answer, r.ttl < Text.limit32
  origAnswer : ∀ rs, e.origAnswer = some rs → ∀ r ∈ rs, r.ttl < Text.limit32

/-- All fields in their order, also those that are left out. -/
def parts (e : LogEntry) : List (String × Option Value) :=
  [("time", some (.text (Rfc3339.text e.time))), ("qh", some (.text e.host)),
    ("qt", some (.text e.type.name)), ("qc", some (.text e.recordClass.name)),
    ("client_id", e.clientId.map .text),
    ("client_proto", if e.transport = .plain then none else some (.text e.transport.name)),
    ("ip", some (.text e.ip.text)), ("verdict", some e.verdict.toValue),
    ("upstream", e.upstream.map .text), ("elapsed_us", some (.ofNat e.elapsedMicros)),
    ("cached", some (.bool e.cached)), ("ad", some (.bool e.authenticated)),
    ("ecs", e.ecs.map .text),
    ("answer", if e.answer = [] then none else some (recordsValue e.answer)),
    ("orig_answer", e.origAnswer.map recordsValue)]

theorem fieldOf_eq (key : String) (part : Option Value) :
    fieldOf key part = (part.map fun v => (key, v)).toList := by
  cases part <;> rfl

theorem fields_eq (e : LogEntry) : e.fields = Value.Fields.ofParts e.parts := by
  simp [fields, parts, Value.Fields.ofParts, fieldOf_eq]

theorem names_parts (e : LogEntry) : e.parts.map (·.1) = fieldNames := rfl

theorem nodup_parts (e : LogEntry) : (e.parts.map (·.1)).Nodup := by
  rw [names_parts]
  decide

section
variable {α : Type} {e : LogEntry} {name : String} {x : α}

theorem required_part {v : Value} {read : Value → Option α} (hmem : (name, some v) ∈ e.parts)
    (hread : read v = some x) :
    (Value.Fields.ofParts e.parts).required [name] read = some x := by
  rw [Value.Fields.required_ofParts e.nodup_parts hmem, hread]

theorem required_text {s : String} {read : String → Option α}
    (hmem : (name, some (.text s)) ∈ e.parts) (hread : read s = some x) :
    (Value.Fields.ofParts e.parts).required [name] (fun v => v.text?.bind read) = some x :=
  required_part hmem hread

theorem optional_part {part : Option Value} {default : α} {read : Value → Option α}
    (hmem : (name, part) ∈ e.parts) (hread : part.elim (some default) read = some x) :
    (Value.Fields.ofParts e.parts).optional [name] default read = some x := by
  rw [Value.Fields.optional_ofParts e.nodup_parts hmem, hread]

end

theorem readText (part : Option String) :
    (part.map Value.text).elim (some none) (Value.nullable? Value.text?) = some part := by
  cases part <;> rfl

theorem readTransport (t : Transport) :
    (if t = .plain then none else some (Value.text t.name)).elim (some .plain)
      (fun v => (v.name? Value.isNull).bind Transport.named?) = some t := by
  by_cases hplain : t = .plain
  · simp [hplain]
  · simp [hplain, Value.name?, Transport.named?_name]

theorem readAnswer {rs : List AnswerRecord} (h : ∀ r ∈ rs, r.ttl < Text.limit32) :
    (if rs = [] then none else some (recordsValue rs)).elim (some [])
      (Value.list? AnswerRecord.ofValue?) = some rs := by
  split_ifs with hempty
  · rw [hempty]
    rfl
  · exact readRecords h

theorem readOrigAnswer {part : Option (List AnswerRecord)}
    (h : ∀ rs, part = some rs → ∀ r ∈ rs, r.ttl < Text.limit32) :
    (part.map recordsValue).elim (some none)
      (Value.nullable? (Value.list? AnswerRecord.ofValue?)) = some part := by
  cases part with
  | none => rfl
  | some rs => exact congrArg (Option.map some) (readRecords (h rs rfl))

theorem ofValue?_toValue {e : LogEntry} (h : e.IsWellFormed) (hyear : e.time.HasFourDigitYear) :
    ofValue? e.toValue = some e := by
  have hrecord : e.toValue.strictRecord? fieldNames = some (.ofParts e.parts) := by
    rw [toValue, fields_eq]
    rfl
  let fields := Value.Fields.ofParts e.parts
  have htime : fields.required ["time"] (fun v => v.text?.bind Rfc3339.parse?) = some e.time :=
    required_text (by simp [parts]) (Rfc3339.parse?_text h.time hyear)
  have hhost : fields.required ["qh"] Value.text? = some e.host :=
    required_part (v := .text e.host) (by simp [parts]) rfl
  have htype : fields.required ["qt"] RecordType.ofValue? = some e.type :=
    required_part (v := .text e.type.name) (by simp [parts]) (RecordType.named?_name e.type)
  have hclass : fields.required ["qc"] RecordClass.ofValue? = some e.recordClass :=
    required_part (v := .text e.recordClass.name) (by simp [parts])
      (RecordClass.named?_name e.recordClass)
  have hclientId : fields.optional ["client_id"] none (Value.nullable? Value.text?) =
      some e.clientId :=
    optional_part (by simp [parts]) (readText e.clientId)
  have htransport : fields.optional ["client_proto"] .plain
      (fun v => (v.name? Value.isNull).bind Transport.named?) = some e.transport :=
    optional_part (by simp [parts]) (readTransport e.transport)
  have hip : fields.required ["ip"] (fun v => v.text?.bind IpAddress.parse?) = some e.ip :=
    required_text (by simp [parts]) (IpAddress.parse?_text e.ip)
  have hverdict : fields.required ["verdict"] Verdict.ofValue? = some e.verdict :=
    required_part (by simp [parts]) (Verdict.ofValue?_toValue h.filterId)
  have hupstream : fields.optional ["upstream"] none (Value.nullable? Value.text?) =
      some e.upstream :=
    optional_part (by simp [parts]) (readText e.upstream)
  have helapsed : fields.required ["elapsed_us"] (Value.nat? Text.limit64) =
      some e.elapsedMicros :=
    required_part (by simp [parts]) (Value.nat?_ofNat h.elapsed)
  have hcached : fields.optional ["cached"] false Value.bool? = some e.cached :=
    optional_part (by simp [parts]; rfl) rfl
  have hauthenticated : fields.optional ["ad"] false Value.bool? = some e.authenticated :=
    optional_part (by simp [parts]; rfl) rfl
  have hecs : fields.optional ["ecs"] none (Value.nullable? Value.text?) = some e.ecs :=
    optional_part (by simp [parts]) (readText e.ecs)
  have hanswer : fields.optional ["answer"] [] (Value.list? AnswerRecord.ofValue?) =
      some e.answer :=
    optional_part (by simp [parts]) (readAnswer h.answer)
  have horigAnswer : fields.optional ["orig_answer"] none
      (Value.nullable? (Value.list? AnswerRecord.ofValue?)) = some e.origAnswer :=
    optional_part (by simp [parts]) (readOrigAnswer h.origAnswer)
  have read {α β : Type} {part : Option α} {rest : α → Option β} {a : α} {b : β}
      (hpart : part = some a) (hrest : rest a = some b) : part.bind rest = some b :=
    Option.bind_eq_some_iff.mpr ⟨a, hpart, hrest⟩
  rw [ofValue?]
  exact read hrecord <| read htime <| read hhost <| read htype <| read hclass <|
    read hclientId <| read htransport <| read hip <| read hverdict <| read hupstream <|
    read helapsed <| read hcached <| read hauthenticated <| read hecs <| read hanswer <|
    read horigAnswer rfl

theorem canWrite_toValue (e : LogEntry) : Json.canWrite e.toValue = true := by
  have htext (part : Option String) : ∀ v, part.map .text = some v → Json.canWrite v = true := by
    rintro v hv
    obtain ⟨s, -, rfl⟩ := Option.map_eq_some_iff.mp hv
    rfl
  have hall : ∀ p ∈ e.parts, ∀ v, p.2 = some v → Json.canWrite v = true := by
    simp only [parts, List.forall_mem_cons, List.not_mem_nil, false_imp_iff, implies_true,
      and_true, Option.some.injEq, forall_eq']
    refine ⟨rfl, rfl, rfl, rfl, htext _, ?transport, rfl, e.verdict.canWrite_toValue, htext _, rfl,
      rfl, rfl, htext _, ?answer, ?origAnswer⟩
    case transport =>
      intro v hv
      split_ifs at hv
      obtain rfl := Option.some.inj hv
      rfl
    case answer =>
      intro v hv
      split_ifs at hv
      obtain rfl := Option.some.inj hv
      exact canWrite_recordsValue e.answer
    case origAnswer =>
      intro v hv
      obtain ⟨rs, -, rfl⟩ := Option.map_eq_some_iff.mp hv
      exact canWrite_recordsValue rs
  rw [toValue, fields_eq, Json.canWrite_table]
  rintro ⟨name, v⟩ hmem
  exact hall _ (Value.Fields.mem_ofParts.mp hmem) v rfl

theorem parse?_line {e : LogEntry} (h : e.IsWellFormed) (hyear : e.time.HasFourDigitYear) :
    parse? e.line = some e := by
  rw [parse?, line, Json.parse?_compact e.canWrite_toValue, Option.bind_some,
    ofValue?_toValue h hyear]

/-! ## What a reader accepts -/

theorem ttl_lt {v : Value} {r : AnswerRecord} (h : AnswerRecord.ofValue? v = some r) :
    r.ttl < Text.limit32 := by
  simp only [AnswerRecord.ofValue?, Option.bind_eq_bind, Option.bind_eq_some_iff] at h
  obtain ⟨fields, -, name, -, type, -, ttl, httl, value, -, h⟩ := h
  obtain rfl := Option.some.inj h
  obtain ⟨v, hread⟩ := Value.Fields.exists_of_required httl
  exact Value.nat?_lt hread

theorem filterId_lt {v : Value} {verdict : Verdict} (h : Verdict.ofValue? v = some verdict) :
    ∀ rule, verdict.rule? = some rule → rule.filterId < Text.limit64 := by
  simp only [Verdict.ofValue?] at h
  split_ifs at h
  case neg => cases h
  obtain ⟨⟨reason, rest⟩, -, h⟩ := Option.bind_eq_some_iff.mp h
  split at h
  · obtain ⟨fields, -, rfl⟩ := Option.map_eq_some_iff.mp h
    simp [Verdict.rule?]
  · simp only [Option.bind_eq_bind, Option.bind_eq_some_iff] at h
    obtain ⟨fields, -, action, -, rule, -, filterId, hid, filterName, -, h⟩ := h
    obtain rfl := Option.some.inj h
    obtain ⟨v, hread⟩ := Value.Fields.exists_of_required hid
    intro m hm
    obtain rfl := Option.some.inj hm
    exact Value.nat?_lt hread
  · cases h

theorem parse?_isWellFormed {s : String} {e : LogEntry} (h : parse? s = some e) :
    e.IsWellFormed := by
  obtain ⟨v, -, h⟩ := Option.bind_eq_some_iff.mp h
  obtain ⟨fields, -, h⟩ := Option.bind_eq_some_iff.mp h
  obtain ⟨time, htime, h⟩ := Option.bind_eq_some_iff.mp h
  obtain ⟨host, -, h⟩ := Option.bind_eq_some_iff.mp h
  obtain ⟨type, -, h⟩ := Option.bind_eq_some_iff.mp h
  obtain ⟨recordClass, -, h⟩ := Option.bind_eq_some_iff.mp h
  obtain ⟨clientId, -, h⟩ := Option.bind_eq_some_iff.mp h
  obtain ⟨transport, -, h⟩ := Option.bind_eq_some_iff.mp h
  obtain ⟨ip, -, h⟩ := Option.bind_eq_some_iff.mp h
  obtain ⟨verdict, hverdict, h⟩ := Option.bind_eq_some_iff.mp h
  obtain ⟨upstream, -, h⟩ := Option.bind_eq_some_iff.mp h
  obtain ⟨elapsed, helapsed, h⟩ := Option.bind_eq_some_iff.mp h
  obtain ⟨cached, -, h⟩ := Option.bind_eq_some_iff.mp h
  obtain ⟨authenticated, -, h⟩ := Option.bind_eq_some_iff.mp h
  obtain ⟨ecs, -, h⟩ := Option.bind_eq_some_iff.mp h
  obtain ⟨answer, hanswer, h⟩ := Option.bind_eq_some_iff.mp h
  obtain ⟨origAnswer, horigAnswer, h⟩ := Option.bind_eq_some_iff.mp h
  obtain rfl := Option.some.inj h
  constructor
  case time =>
    obtain ⟨v, hread⟩ := Value.Fields.exists_of_required htime
    obtain ⟨s, -, hparse⟩ := Option.bind_eq_some_iff.mp hread
    exact Rfc3339.parse?_isWellFormed hparse
  case elapsed =>
    obtain ⟨v, hread⟩ := Value.Fields.exists_of_required helapsed
    exact Value.nat?_lt hread
  case filterId =>
    obtain ⟨v, hread⟩ := Value.Fields.exists_of_required hverdict
    exact filterId_lt hread
  case answer =>
    rcases Value.Fields.exists_of_optional hanswer with rfl | ⟨v, hread⟩
    · simp
    · intro r hr
      obtain ⟨v, hrecord⟩ := Value.exists_of_list hread r hr
      exact ttl_lt hrecord
  case origAnswer =>
    rintro rs rfl r hr
    rcases Value.Fields.exists_of_optional horigAnswer with hnone | ⟨v, hread⟩
    · cases hnone
    · obtain ⟨v, hlist⟩ := Value.exists_of_nullable hread
      obtain ⟨v, hrecord⟩ := Value.exists_of_list hlist r hr
      exact ttl_lt hrecord

/-! ## Bytes -/

theorem newline_of_mem_encodeChar {c : Char} (h : 10 ∈ String.utf8EncodeChar c) : c = '\n' := by
  have hbyte {n : Nat} (hn : n < 256) : (10 : UInt8) = UInt8.ofNat n ↔ n = 10 := by
    rw [← UInt8.toNat_inj, UInt8.toNat_ofNat_of_lt' hn, eq_comm]
    rfl
  have hother {n : Nat} (hn : n < 256) (hne : n ≠ 10) : ¬(10 : UInt8) = UInt8.ofNat n := by
    rwa [hbyte hn]
  simp only [String.utf8EncodeChar] at h
  split_ifs at h with hone
  · have hsmall := Nat.lt_of_le_of_lt hone (show 127 < 256 by decide)
    exact Char.toNat_inj.mp ((hbyte hsmall).mp (List.mem_singleton.mp h))
  all_goals
    simp (disch := omega) only [List.mem_cons, List.not_mem_nil, hother, or_false] at h

theorem newline_not_mem_encode {s : List Char} (h : '\n' ∉ s) : 10 ∉ Utf8.encode s := by
  intro hmem
  obtain ⟨c, hc, hbyte⟩ := List.mem_flatMap.mp hmem
  exact h (newline_of_mem_encodeChar hbyte ▸ hc)

theorem newline_not_mem_line (e : LogEntry) : 10 ∉ Utf8.encode e.line.toList :=
  newline_not_mem_encode (Json.newline_not_mem_compact e.canWrite_toValue)

/-- A line is one line and decodes to its entry, and so does the new line of whatever entry a
reader accepts. -/
theorem line_round_trip :
    (∀ e : LogEntry, e.IsWellFormed → e.time.HasFourDigitYear →
      10 ∉ Utf8.encode e.line.toList ∧ parse? e.line = some e) ∧
    ∀ (s : String) (e : LogEntry), parse? s = some e → e.time.HasFourDigitYear →
      parse? e.line = some e :=
  ⟨fun e h hyear => ⟨e.newline_not_mem_line, parse?_line h hyear⟩,
    fun _ _ h hyear => parse?_line (parse?_isWellFormed h) hyear⟩

def leapSecondEntry : LogEntry where
  time := ⟨1483228799, 1123456789⟩
  host := "ads.example"
  type := .aaaa
  recordClass := .internet
  clientId := some "a \"quoted\"\n\\ name\t\x00"
  transport := .plain
  ip := .v6 ⟨#v[0x2001, 0xdb8, 0, 0, 1, 0, 0, 1]⟩
  verdict := .matched ⟨.block, "||ads.example^", Text.limit64 - 1, "list"⟩
  upstream := none
  elapsedMicros := Text.limit64 - 1
  cached := false
  authenticated := true
  ecs := none
  answer := []
  origAnswer := some [⟨"ads.example", .aaaa, Text.limit32 - 1, "2001:db8::1"⟩]

/-- The same entry with the fields in another order and the empty ones spelled out, its time with
an offset and a digit too many. -/
def leapSecondValue : Value :=
  .table [("ip", .text "2001:db8:0:0:1::1"), ("qh", .text "ads.example"), ("qt", .text "AAAA"),
    ("qc", .table [("IN", .null)]), ("time", .text "2017-01-01 00:59:60.1234567899+01:00"),
    ("client_id", .text "a \"quoted\"\n\\ name\t\x00"), ("client_proto", .text ""),
    ("verdict", leapSecondEntry.verdict.toValue), ("upstream", .null), ("ecs", .null),
    ("elapsed_us", .integer 18446744073709551615), ("ad", .bool true), ("answer", .list []),
    ("orig_answer", .list [.list [.text "ads.example", .text "AAAA", .integer 4294967295,
      .text "2001:db8::1"]])]

theorem leap_second_line_round_trip :
    (leapSecondEntry.IsWellFormed ∧ leapSecondEntry.time.HasFourDigitYear ∧
      10 ∉ Utf8.encode leapSecondEntry.line.toList ∧
      parse? leapSecondEntry.line = some leapSecondEntry) ∧
    parse? (Json.compact leapSecondValue) = some leapSecondEntry ∧
      parse? leapSecondEntry.line = some leapSecondEntry := by
  have hyear : leapSecondEntry.time.HasFourDigitYear := by decide
  have hwell : leapSecondEntry.IsWellFormed := by
    constructor <;> decide
  have hread : parse? (Json.compact leapSecondValue) = some leapSecondEntry := by
    rw [parse?, Json.parse?_compact rfl, Option.bind_some]
    decide +kernel
  exact ⟨⟨hwell, hyear, line_round_trip.1 leapSecondEntry hwell hyear⟩, hread,
    line_round_trip.2 _ _ hread hyear⟩

end LogEntry
end DnsFilter
