import DnsFilter.Proofs.Dns.HostName
import DnsFilter.Proofs.Net.AddressLetters
import DnsFilter.Proofs.Text.Blank
import DnsFilter.Rules.RuleReader
/-!
# Written rules

The ways to write a rule in a line. Whichever of them is taken, and whatever white space is around it,
the line is read as that rule.
-/
namespace DnsFilter

open Text

/-! ## How rules are written -/

/-- The targets that can be written. A host that reads as an address would be taken for it. -/
def Target.IsProper : Target → Prop
  | .exact host => HostName.isWellFormed host = true ∧ RuleLine.address? host = none
  | .subtree domain => HostName.isWellFormed domain = true ∧ RuleLine.address? domain = none
  | .wildcard domain => HostName.isWellFormed domain = true
  | .part text => text ≠ [] ∧ '*' ∉ text ∧ '$' ∉ text ∧ ∀ c ∈ text, isUpper c = false
  | .regex pattern => pattern ≠ []
  | .address _ => True

/-- A target with what is written for it. The letters of a name can be in any case. -/
inductive Target.IsWritten : Target → List Char → Prop
  | exact (name : List Char) : IsWritten (.exact (lower name)) name
  | subtree (name : List Char) :
    IsWritten (.subtree (lower name)) (['|', '|'] ++ name ++ ['^'])
  | wildcard (name : List Char) : IsWritten (.wildcard (lower name)) (['*', '.'] ++ name)
  | anchoredWildcard (name : List Char) :
    IsWritten (.wildcard (lower name)) (['|', '|'] ++ (['*', '.'] ++ name) ++ ['^'])
  | part (text : List Char) : IsWritten (.part text) (['*'] ++ text ++ ['*'])
  | regex (pattern : List Char) : IsWritten (.regex pattern) (['/'] ++ pattern ++ ['/'])
  | address (ip : IpAddress) : IsWritten (.address ip) ip.text.toList
  | anchoredAddress (ip : IpAddress) :
    IsWritten (.address ip) (['|', '|'] ++ ip.text.toList ++ ['^'])

namespace RuleLine

def markText : Action → List Char
  | .allow => ['@', '@']
  | .block => []

def modifierText (types : List RecordType) : List Char :=
  "dnstype=".toList ++ ['|'].intercalate (types.map (·.name.toList))

def typesText : Option (List RecordType) → List Char
  | none => []
  | some types => '$' :: modifierText types

end RuleLine

structure Rule.IsProper (r : Rule) : Prop where
  target : r.target.IsProper
  types : r.types ≠ some []

/-- A rule with what is written for it: in the form of a filter list, or in that of a hosts file. -/
inductive Rule.IsWritten : Rule → List Char → Prop
  | filter (action : Action) {target : Target} {place : List Char} (h : target.IsWritten place)
    (types : Option (List RecordType)) :
    IsWritten ⟨action, target, types⟩
      (RuleLine.markText action ++ place ++ RuleLine.typesText types)
  | hosts {sink gap : List Char} (hsink : sink ∈ RuleLine.sinks) (hgap : AllBlank gap)
    (hne : gap ≠ []) (name : List Char) (types : Option (List RecordType)) :
    IsWritten ⟨.block, .exact (lower name), types⟩
      (sink ++ gap ++ name ++ RuleLine.typesText types)

/-! ## Names and addresses -/

namespace RuleLine

def isPlaceLetter (c : Char) : Bool := HostName.isLabelChar c || c == '.' || c == ':'

theorem not_isBlank_of_isPlaceLetter {c : Char} (h : isPlaceLetter c = true) :
    isBlank c = false := by
  simp only [isPlaceLetter, Bool.or_eq_true, HostName.isLabelChar_iff, beq_iff_eq] at h
  rcases h with ((hdigit | hlow | hup | rfl | rfl) | rfl) | rfl
  · exact isBlank_of_graphic (by omega)
  · exact isBlank_of_graphic (by omega)
  · exact isBlank_of_graphic (by omega)
  all_goals decide

structure IsBare (s : List Char) : Prop where
  ne_nil : s ≠ []
  letters : ∀ c ∈ s, isPlaceLetter c = true

namespace IsBare

variable {s : List Char} (h : IsBare s)
include h

theorem noBlank : NoBlank s := fun c hc => not_isBlank_of_isPlaceLetter (h.letters c hc)

theorem notMem {c : Char} (hc : isPlaceLetter c = false) : c ∉ s := fun hmem =>
  absurd (h.letters c hmem) (by simp [hc])

theorem head?_ne {c : Char} (hc : isPlaceLetter c = false) : s.head? ≠ some c := fun hhead =>
  h.notMem hc (List.mem_of_head? hhead)

theorem getLast?_ne {c : Char} (hc : isPlaceLetter c = false) : s.getLast? ≠ some c := fun hlast =>
  h.notMem hc (List.mem_of_getLast? hlast)

end IsBare

theorem isPlaceLetter_lowerChar (c : Char) :
    isPlaceLetter (lowerChar c) = isPlaceLetter c := by
  have hsame {d : Char} (hupper : isUpper d = false) (hlower : isLower d = false) :
      (lowerChar c == d) = (c == d) := by
    rw [Bool.eq_iff_iff, beq_iff_eq, beq_iff_eq, lowerChar_eq_iff hupper hlower]
  rw [isPlaceLetter, isPlaceLetter, HostName.isLabelChar_lowerChar,
    hsame (by decide) (by decide), hsame (by decide) (by decide)]

theorem IsBare.lower {s : List Char} (h : IsBare s) : IsBare (Text.lower s) where
  ne_nil := by simpa [Text.lower] using h.ne_nil
  letters := by
    intro c hc
    obtain ⟨b, hb, rfl⟩ := List.mem_map.mp hc
    rw [isPlaceLetter_lowerChar]
    exact h.letters b hb

theorem isBare_name {name : List Char} (h : HostName.isWellFormed (lower name) = true) :
    IsBare name where
  ne_nil := by
    rintro rfl
    exact HostName.ne_nil_of_isWellFormed h rfl
  letters := by
    intro c hc
    rcases HostName.mem_of_lower h hc with hlabel | rfl
    · simp [isPlaceLetter, hlabel]
    · rfl

theorem isBare_address (ip : IpAddress) : IsBare ip.text.toList where
  ne_nil := ip.text_ne_nil
  letters := by
    intro c hc
    have hletter := IpAddress.isLetter_of_mem_text hc
    simp only [IpAddress.isLetter, Bool.or_eq_true, beq_iff_eq] at hletter
    rcases hletter with (hhex | rfl) | rfl
    · have hlabel : HostName.isLabelChar c = true := by
        rw [isHexDigit_iff] at hhex
        rw [HostName.isLabelChar_iff]
        omega
      simp [isPlaceLetter, hlabel]
    · rfl
    · rfl

theorem isBare_sink {sink : List Char} (h : sink ∈ sinks) : IsBare sink := by
  have hall : ∀ sink ∈ sinks, sink ≠ [] ∧ sink.all isPlaceLetter = true := by decide
  exact ⟨(hall sink h).1, List.all_eq_true.mp (hall sink h).2⟩

theorem address?_lower (s : List Char) : address? (lower s) = address? s :=
  IpAddress.parse?_lower s

theorem address?_text (ip : IpAddress) : address? ip.text.toList = some ip := by
  rw [address?, String.ofList_toList, IpAddress.parse?_text]

theorem address?_star (s : List Char) : address? ('*' :: s) = none := by
  have hv4 : IpAddress.readV4 ('*' :: s) = none :=
    IpAddress.readV4_stops (stops_cons (by decide) s)
  have hgroups : IpAddress.readGroups true 8 ('*' :: s) = ⟨[], false, '*' :: s⟩ :=
    IpAddress.readGroups_stops 8 (stops_cons (by decide) s)
  simp [address?, IpAddress.parse?, hv4, IpAddress.readV6, hgroups, IpAddress.readChar]

/-! ## Types -/

theorem recordType?_name (t : RecordType) : recordType? t.name.toList = some t := by
  cases t <;> decide

theorem mapM_recordType? (types : List RecordType) :
    (types.map (·.name.toList)).mapM recordType? = some types := by
  induction types with
  | nil => rfl
  | cons t types ih => simp [recordType?_name, ih]

theorem name_letters (t : RecordType) : ∀ c ∈ t.name.toList, isPlaceLetter c = true := by
  have hall : t.name.toList.all isPlaceLetter = true := by cases t <;> decide
  exact List.all_eq_true.mp hall

def isModifierLetter (c : Char) : Bool := isPlaceLetter c || c == '=' || c == '|'

theorem modifierText_letters (types : List RecordType) :
    ∀ c ∈ modifierText types, isModifierLetter c = true := by
  intro c hc
  rcases List.mem_append.mp hc with hstart | hnames
  · have hall : "dnstype=".toList.all isModifierLetter = true := by decide
    exact List.all_eq_true.mp hall c hstart
  · rcases mem_intercalate hnames with hbar | ⟨name, hname, hmem⟩
    · obtain rfl := List.mem_singleton.mp hbar
      rfl
    · obtain ⟨t, -, rfl⟩ := List.mem_map.mp hname
      simp [isModifierLetter, name_letters t c hmem]

theorem modifierText_notMem (types : List RecordType) {c : Char}
    (hc : isModifierLetter c = false) : c ∉ modifierText types := fun hmem =>
  absurd (modifierText_letters types c hmem) (by simp [hc])

theorem modifierText_noBlank (types : List RecordType) : NoBlank (modifierText types) := by
  intro c hc
  have hletter := modifierText_letters types c hc
  simp only [isModifierLetter, Bool.or_eq_true, beq_iff_eq] at hletter
  rcases hletter with (hplace | rfl) | rfl
  · exact not_isBlank_of_isPlaceLetter hplace
  · decide
  · decide

theorem types?_modifierText {types : List RecordType} (hne : types ≠ []) :
    types? (modifierText types) = some types := by
  have hcomma : ',' ∉ modifierText types :=
    modifierText_notMem types (by decide)
  have hsingle : (modifierText types).splitOn ',' = [modifierText types] :=
    List.splitOn_eq_singleton hcomma
  have hnames : (['|'].intercalate (types.map (·.name.toList))).splitOn '|' =
      types.map (·.name.toList) := by
    refine List.splitOn_intercalate '|' ?_ (by simpa using hne)
    intro name hname
    obtain ⟨t, -, rfl⟩ := List.mem_map.mp hname
    intro hbar
    have hletter : isPlaceLetter '|' = true := name_letters t '|' hbar
    exact absurd hletter (by decide)
  have hmodifier : modifierTypes? (modifierText types) = some types := by
    have hvalue : afterPrefix? "dnstype=".toList (modifierText types) =
        some (['|'].intercalate (types.map (·.name.toList))) := afterPrefix?_append _ _
    rw [modifierTypes?, (modifierText_noBlank types).isTrimmed.trim_eq, hvalue]
    change ((['|'].intercalate (types.map (·.name.toList))).splitOn '|').mapM recordType? = _
    rw [hnames]
    exact mapM_recordType? types
  rw [types?, hsingle]
  simp [hmodifier]

theorem typesText_noBlank (types : Option (List RecordType)) : NoBlank (typesText types) := by
  cases types with
  | none => exact List.forall_mem_nil _
  | some types => exact List.forall_mem_cons.mpr ⟨by decide, modifierText_noBlank types⟩

/-! ## Targets -/

theorem named?_of_isWellFormed {target : List Char → Target} {name : List Char}
    (h : HostName.isWellFormed name = true) : named? target name = some (target name) := if_pos h

theorem afterPrefix?_of_head?_ne {a : Char} {start s : List Char} (h : s.head? ≠ some a) :
    afterPrefix? (a :: start) s = none := by
  cases s with
  | nil => rfl
  | cons b s =>
    have hne : a ≠ b := fun heq => h (by rw [heq]; rfl)
    simp [afterPrefix?, hne]

theorem withoutSeparator_append (s : List Char) : withoutSeparator (s ++ ['^']) = s := by
  have hlong : beforeSuffix? ['^', '|'] (s ++ ['^']) = none := by
    have hreverse : (s ++ ['^']).reverse = '^' :: s.reverse := by simp
    have hhead : ('^' :: s.reverse).head? ≠ some '|' := by simp
    rw [beforeSuffix?, hreverse]
    exact congrArg _ (afterPrefix?_of_head?_ne hhead)
  rw [withoutSeparator, hlong, beforeSuffix?_append]
  rfl

theorem target?_anchored (action : Action) (s : List Char) :
    target? action (['|', '|'] ++ s ++ ['^']) = anchored? (lower s) := by
  rw [List.append_assoc, target?, afterPrefix?_append]
  simp only [withoutSeparator_append]

section
variable {s : List Char} (hs : IsBare s)
include hs

theorem anchored?_name (haddress : address? (lower s) = none)
    (hname : HostName.isWellFormed (lower s) = true) :
    anchored? (lower s) = some (.subtree (lower s)) := by
  have hstar : afterPrefix? "*.".toList (lower s) = none :=
    afterPrefix?_of_head?_ne (hs.lower.head?_ne (by decide))
  simp only [anchored?, haddress, hstar]
  exact named?_of_isWellFormed hname

theorem target?_bare (action : Action) :
    target? action s =
      match address? s with
      | some ip => some (.address ip)
      | none => named? .exact (lower s) := by
  have hbar : afterPrefix? ['|', '|'] s = none :=
    afterPrefix?_of_head?_ne (hs.head?_ne (by decide))
  have hstar : afterPrefix? ['*', '.'] s = none :=
    afterPrefix?_of_head?_ne (hs.head?_ne (by decide))
  have hpart : ¬(2 < s.length && s.head? = some '*' && s.getLast? = some '*') = true := by
    simp [hs.head?_ne (c := '*') (by decide)]
  have hwords := words_single hs.noBlank hs.ne_nil
  cases haddress : address? s <;>
    simp only [target?, hbar, if_neg hpart, hstar, hwords, haddress]

theorem target?_below (action : Action) :
    target? action (['*', '.'] ++ s) = named? .wildcard (lower s) := by
  have hbar : afterPrefix? ['|', '|'] (['*', '.'] ++ s) = none :=
    afterPrefix?_of_head?_ne (by simp)
  have hlast : (['*', '.'] ++ s).getLast? ≠ some '*' := by
    rw [List.getLast?_append_of_ne_nil _ hs.ne_nil]
    exact hs.getLast?_ne (by decide)
  have hpart : ¬(2 < (['*', '.'] ++ s).length && (['*', '.'] ++ s).head? = some '*' &&
      (['*', '.'] ++ s).getLast? = some '*') = true := by
    simp only [Bool.and_eq_true, decide_eq_true_eq]
    exact fun h => hlast h.2
  simp only [target?, hbar, if_neg hpart, afterPrefix?_append]

end

theorem anchored?_below {s : List Char} (hname : HostName.isWellFormed (lower s) = true) :
    anchored? (lower (['*', '.'] ++ s)) = some (.wildcard (lower s)) := by
  have hlower : lower (['*', '.'] ++ s) = "*.".toList ++ lower s := lower_append _ _
  rw [hlower]
  have haddress : address? ("*.".toList ++ lower s) = none := address?_star _
  simp only [anchored?, haddress, afterPrefix?_append]
  exact named?_of_isWellFormed hname

theorem target?_part (action : Action) {text : List Char} (hne : text ≠ []) (hstar : '*' ∉ text)
    (hlower : lower text = text) :
    target? action (['*'] ++ text ++ ['*']) = some (.part text) := by
  have hbar : afterPrefix? ['|', '|'] (['*'] ++ text ++ ['*']) = none :=
    afterPrefix?_of_head?_ne (by simp)
  have hlong : 2 < (['*'] ++ text ++ ['*']).length := by
    have hlen : 0 < text.length := List.length_pos_of_ne_nil hne
    simp only [List.length_append, List.length_singleton]
    omega
  have hpart : (2 < (['*'] ++ text ++ ['*']).length &&
      (['*'] ++ text ++ ['*']).head? = some '*' &&
        (['*'] ++ text ++ ['*']).getLast? = some '*') = true := by
    simp only [Bool.and_eq_true, decide_eq_true_eq]
    exact ⟨⟨hlong, rfl⟩, List.getLast?_concat⟩
  have hinner : ((['*'] ++ text ++ ['*']).drop 1).dropLast = text := by simp
  simp only [target?, hbar, if_pos hpart, hinner, hlower]
  simp [hstar]

theorem not_ownName {name : List Char} (hname : HostName.isWellFormed name = true)
    (haddress : address? name = none) : ownNames.contains name = false := by
  have hall : ∀ own ∈ ownNames, HostName.isWellFormed own = true → address? own ≠ none := by
    decide
  rw [← Bool.not_eq_true, List.contains_iff_mem]
  exact fun hmem => hall name hmem hname haddress

theorem target?_hosts {sink gap name : List Char} (hsink : sink ∈ sinks) (hgap : AllBlank gap)
    (hne : gap ≠ []) (hname : HostName.isWellFormed (lower name) = true)
    (haddress : address? (lower name) = none) :
    target? .block (sink ++ gap ++ name) = some (.exact (lower name)) := by
  have hbareSink := isBare_sink hsink
  have hbareName := isBare_name hname
  have hhead {c : Char} (hc : isPlaceLetter c = false) :
      (sink ++ gap ++ name).head? ≠ some c := by
    rw [List.append_assoc, List.head?_append_of_ne_nil _ hbareSink.ne_nil]
    exact hbareSink.head?_ne hc
  have hbar : afterPrefix? ['|', '|'] (sink ++ gap ++ name) = none :=
    afterPrefix?_of_head?_ne (hhead (by decide))
  have hstar : afterPrefix? ['*', '.'] (sink ++ gap ++ name) = none :=
    afterPrefix?_of_head?_ne (hhead (by decide))
  have hpart : ¬(2 < (sink ++ gap ++ name).length && (sink ++ gap ++ name).head? = some '*' &&
      (sink ++ gap ++ name).getLast? = some '*') = true := by
    simp only [Bool.and_eq_true, decide_eq_true_eq]
    exact fun h => hhead (by decide) h.1.2
  have hwords : words (sink ++ gap ++ name) = [sink, name] :=
    words_pair hbareSink.noBlank hbareSink.ne_nil hgap hne hbareName.noBlank hbareName.ne_nil
  have hlisted : sinks.contains sink = true := List.contains_iff_mem.mpr hsink
  simp only [target?, hbar, if_neg hpart, hstar, hwords, hlisted, not_ownName hname haddress,
    decide_true, Bool.not_false, Bool.and_self, if_true]
  exact named?_of_isWellFormed hname

/-! ## Lines -/

theorem not_isPlaceLetter_of_mark {c : Char} (h : c ∈ ['@', '#', '!', '/']) :
    isPlaceLetter c = false := by
  simp only [List.mem_cons, List.not_mem_nil, or_false] at h
  rcases h with rfl | rfl | rfl | rfl <;> decide

theorem head?_ne_of_notMem {first : Char} {s marks : List Char} (h : first ∉ marks) :
    ∀ c ∈ marks, (first :: s).head? ≠ some c := by
  rintro c hc hfirst
  obtain rfl := Option.some.inj hfirst
  exact h hc

structure IsPlace (action : Action) (target : Target) (place : List Char) : Prop where
  ne_nil : place ≠ []
  trimmed : IsTrimmed place
  starts : ∀ c ∈ ['@', '#', '!', '/'], place.head? ≠ some c
  noDollar : '$' ∉ place
  target_eq : target? action place = some target

theorem IsBare.isPlace {s : List Char} (hs : IsBare s) {action : Action} {target : Target}
    (h : target? action s = some target) : IsPlace action target s where
  ne_nil := hs.ne_nil
  trimmed := hs.noBlank.isTrimmed
  starts := by
    intro c hc
    exact hs.head?_ne (not_isPlaceLetter_of_mark hc)
  noDollar := hs.notMem (by decide)
  target_eq := h

theorem isPlace_anchored {s : List Char} (hs : NoBlank s) (hdollar : '$' ∉ s) {action : Action}
    {target : Target} (h : anchored? (lower s) = some target) :
    IsPlace action target (['|', '|'] ++ s ++ ['^']) where
  ne_nil := by simp
  trimmed := by
    have hbars : NoBlank ['|', '|'] := by decide
    have hend : NoBlank ['^'] := by decide
    exact ((hbars.append hs).append hend).isTrimmed
  starts := head?_ne_of_notMem (by decide)
  noDollar := by simp [hdollar]
  target_eq := by rw [target?_anchored, h]

theorem isPlace_of_isWritten (action : Action) {target : Target} {place : List Char}
    (hproper : target.IsProper) (h : target.IsWritten place)
    (hregex : ∀ pattern, target ≠ .regex pattern) : IsPlace action target place := by
  cases h with
  | exact name =>
    have hbare := isBare_name hproper.1
    apply hbare.isPlace
    have haddress : address? place = none := (address?_lower place).symm.trans hproper.2
    rw [target?_bare hbare, haddress]
    exact named?_of_isWellFormed hproper.1
  | subtree name =>
    have hbare := isBare_name hproper.1
    exact isPlace_anchored hbare.noBlank (hbare.notMem (by decide))
      (anchored?_name hbare hproper.2 hproper.1)
  | wildcard name =>
    have hbare := isBare_name hproper
    have hstar : NoBlank ['*', '.'] := by decide
    exact {
      ne_nil := by simp
      trimmed := (hstar.append hbare.noBlank).isTrimmed
      starts := head?_ne_of_notMem (by decide)
      noDollar := by simp [hbare.notMem (c := '$') (by decide)]
      target_eq := (target?_below hbare action).trans (named?_of_isWellFormed hproper) }
  | anchoredWildcard name =>
    have hbare := isBare_name hproper
    have hstar : NoBlank ['*', '.'] := by decide
    exact isPlace_anchored (hstar.append hbare.noBlank)
      (by simp [hbare.notMem (c := '$') (by decide)]) (anchored?_below hproper)
  | part text =>
    obtain ⟨hne, hstar, hdollar, hupper⟩ := hproper
    have hmark : IsTrimmed ['*'] := NoBlank.isTrimmed (by decide)
    exact {
      ne_nil := by simp
      trimmed := hmark.between (by simp) hmark (by simp) text
      starts := head?_ne_of_notMem (by decide)
      noDollar := by simp [hdollar]
      target_eq := target?_part action hne hstar (lower_eq_self hupper) }
  | regex pattern => exact absurd rfl (hregex pattern)
  | address ip =>
    have hbare := isBare_address ip
    apply hbare.isPlace
    rw [target?_bare hbare, address?_text]
  | anchoredAddress ip =>
    have hbare := isBare_address ip
    have haddress : address? (lower ip.text.toList) = some ip :=
      (address?_lower _).trans (address?_text ip)
    refine isPlace_anchored hbare.noBlank (hbare.notMem (by decide)) ?_
    simp only [anchored?, haddress]

theorem isPlace_hosts {sink gap name : List Char} (hsink : sink ∈ sinks) (hgap : AllBlank gap)
    (hne : gap ≠ []) (hproper : (Target.exact (lower name)).IsProper) :
    IsPlace .block (.exact (lower name)) (sink ++ gap ++ name) := by
  have hbareSink := isBare_sink hsink
  have hbareName := isBare_name hproper.1
  have hsinkPlace : IsTrimmed sink := hbareSink.noBlank.isTrimmed
  exact {
    ne_nil := by simp [hbareSink.ne_nil]
    trimmed := hsinkPlace.between hbareSink.ne_nil hbareName.noBlank.isTrimmed hbareName.ne_nil gap
    starts := by
      intro c hc
      rw [List.append_assoc, List.head?_append_of_ne_nil _ hbareSink.ne_nil]
      exact hbareSink.head?_ne (not_isPlaceLetter_of_mark hc)
    noDollar := by
      have hgapDollar : '$' ∉ gap := fun hmem => absurd (hgap '$' hmem) (by decide)
      simp only [List.mem_append, not_or]
      exact ⟨⟨hbareSink.notMem (by decide), hgapDollar⟩, hbareName.notMem (by decide)⟩
    target_eq := target?_hosts hsink hgap hne hproper.1 hproper.2 }

section
variable (action : Action) {types : Option (List RecordType)} (htypes : types ≠ some [])
include htypes

theorem plainRule?_place {target : Target} {place : List Char}
    (h : IsPlace action target place) :
    plainRule? action (place ++ typesText types) = some ⟨action, target, types⟩ := by
  cases types with
  | none =>
    have hcut : cutAt? '$' place = none := cutAt?_of_notMem h.noDollar
    simp only [typesText, List.append_nil, plainRule?, hcut, h.trimmed.trim_eq, h.target_eq]
    rfl
  | some types =>
    have hne : types ≠ [] := fun heq => htypes (congrArg some heq)
    have hcut : cutAt? '$' (place ++ '$' :: modifierText types) =
        some (place, modifierText types) := cutAt?_append h.noDollar _
    simp only [typesText, plainRule?, hcut, types?_modifierText hne, h.trimmed.trim_eq,
      h.target_eq]
    rfl

/-- The last slash is the one behind the pattern, as no types are written with one. -/
theorem regexRule?_written {pattern : List Char} (hpattern : pattern ≠ []) :
    regexRule? action (['/'] ++ pattern ++ ['/'] ++ typesText types) =
      some ⟨action, .regex pattern, types⟩ := by
  have hdrop : (['/'] ++ pattern ++ ['/'] ++ typesText types).drop 1 =
      pattern ++ '/' :: typesText types := by simp
  have hslash : '/' ∉ typesText types := by
    cases types with
    | none => exact List.not_mem_nil
    | some types =>
      refine List.not_mem_cons_of_ne_of_not_mem (by decide) ?_
      exact modifierText_notMem types (by decide)
  have hcut : cutAtLast? '/' (pattern ++ '/' :: typesText types) =
      some (pattern, typesText types) := cutAtLast?_append hslash pattern
  have htrim : trim (typesText types) = typesText types :=
    (typesText_noBlank types).isTrimmed.trim_eq
  rw [regexRule?, hdrop, hcut]
  simp only [Option.bind_eq_bind, Option.bind_some, if_neg hpattern, htrim]
  cases types with
  | none => rfl
  | some types =>
    have hne : types ≠ [] := fun heq => htypes (congrArg some heq)
    simp only [typesText, types?_modifierText hne]
    rfl

end

theorem rule?_mark (action : Action) {body : List Char} (hbody : body.head? ≠ some '@') :
    rule? (markText action ++ body) =
      if body.head? = some '/' then regexRule? action body else plainRule? action body := by
  cases action with
  | allow => simp only [rule?, markText, afterPrefix?_append]
  | block =>
    have hmark : afterPrefix? ['@', '@'] body = none := afterPrefix?_of_head?_ne hbody
    simp only [rule?, markText, List.nil_append, hmark]

theorem parse_surrounded {before s after : List Char} (hbefore : AllBlank before)
    (hs : IsTrimmed s) (hne : s ≠ []) (hafter : AllBlank after)
    (hcomment : s.head? ≠ some '#' ∧ s.head? ≠ some '!') {r : Rule} (hrule : rule? s = some r) :
    parse (before ++ s ++ after) = .rule r := by
  have hempty : (s = [] || isComment s) = false := by simp [hne, isComment, hcomment]
  simp only [parse, trim_surrounded hbefore hs hne hafter, hempty, hrule]
  rfl

theorem parse_marked {before after : List Char} (hbefore : AllBlank before)
    (hafter : AllBlank after) (action : Action) {place : List Char}
    (types : Option (List RecordType)) (hne : place ≠ []) (htrimmed : IsTrimmed place)
    (hstarts : ∀ c ∈ ['@', '#', '!'], place.head? ≠ some c) {r : Rule}
    (hrule : (if place.head? = some '/' then regexRule? action (place ++ typesText types)
      else plainRule? action (place ++ typesText types)) = some r) :
    parse (before ++ (markText action ++ place ++ typesText types) ++ after) = .rule r := by
  have hhead : (place ++ typesText types).head? = place.head? :=
    List.head?_append_of_ne_nil _ hne
  have hmark : NoBlank (markText action) := by cases action <;> decide
  have hread : rule? (markText action ++ (place ++ typesText types)) = some r := by
    rw [rule?_mark action (hhead ▸ hstarts '@' (by decide)), hhead]
    exact hrule
  refine parse_surrounded hbefore ?_ (by simp [hne]) hafter ?_ ?_
  · exact (hmark.isTrimmed.append htrimmed).append (typesText_noBlank types).isTrimmed
  · rw [List.append_assoc]
    cases action with
    | allow => simp [markText]
    | block =>
      rw [markText, List.nil_append, hhead]
      exact ⟨hstarts '#' (by decide), hstarts '!' (by decide)⟩
  · rw [List.append_assoc]
    exact hread

theorem IsPlace.parse_marked {action : Action} {target : Target} {place : List Char}
    (h : IsPlace action target place) {types : Option (List RecordType)}
    (htypes : types ≠ some []) {before after : List Char} (hbefore : AllBlank before)
    (hafter : AllBlank after) :
    parse (before ++ (markText action ++ place ++ typesText types) ++ after) =
      .rule ⟨action, target, types⟩ := by
  refine RuleLine.parse_marked hbefore hafter action types h.ne_nil h.trimmed ?_ ?_
  · exact fun c hc => h.starts c (List.mem_append_left ['/'] hc)
  · rw [if_neg (h.starts '/' (by decide))]
    exact plainRule?_place action htypes h

/-- A line in which a rule is written is read as that rule: in each of the ways to write its target,
with the letters of a name in any case, and with any white space around it. -/
theorem parse_of_isWritten {r : Rule} (hproper : r.IsProper) {s : List Char} (hs : r.IsWritten s)
    {before after : List Char} (hbefore : AllBlank before) (hafter : AllBlank after) :
    parse (before ++ s ++ after) = .rule r := by
  cases hs with
  | hosts hsink hgap hne name types =>
    exact (isPlace_hosts hsink hgap hne hproper.target).parse_marked hproper.types hbefore hafter
  | @filter action target place hplace types =>
    by_cases hregex : ∃ pattern, target = .regex pattern
    · obtain ⟨pattern, rfl⟩ := hregex
      cases hplace
      have hslash : IsTrimmed ['/'] := NoBlank.isTrimmed (by decide)
      have hslashNe : ['/'] ≠ [] := List.cons_ne_nil _ _
      refine parse_marked hbefore hafter action types (List.cons_ne_nil _ _)
        (hslash.between hslashNe hslash hslashNe pattern) (head?_ne_of_notMem (by decide)) ?_
      exact regexRule?_written action hproper.types hproper.target
    · have hother : ∀ pattern, target ≠ .regex pattern := fun pattern h => hregex ⟨pattern, h⟩
      exact (isPlace_of_isWritten action hproper.target hplace hother).parse_marked hproper.types
        hbefore hafter

/-- A host of 0.0.0.0 for IPv6 addresses and an exception for the names below a domain. -/
theorem written_rules_are_read :
    parse " ::1\t Ads.Example.COM$dnstype=AAAA\n".toList =
        .rule ⟨.block, .exact "ads.example.com".toList, some [.aaaa]⟩ ∧
      parse "@@||*.Example.com^$dnstype=A|HTTPS ".toList =
        .rule ⟨.allow, .wildcard "example.com".toList, some [.a, .https]⟩ := by
  have hhosts := @Rule.IsWritten.hosts "::1".toList "\t ".toList (by decide) (by decide)
    (by decide) "Ads.Example.COM".toList (some [.aaaa])
  have hname : (Target.exact (lower "Ads.Example.COM".toList)).IsProper :=
    ⟨by decide, by decide⟩
  have hbelow := Rule.IsWritten.filter .allow
    (Target.IsWritten.anchoredWildcard "Example.com".toList) (some [.a, .https])
  have hwellFormed : HostName.isWellFormed (lower "Example.com".toList) = true := by decide
  have hdomain : (Target.wildcard (lower "Example.com".toList)).IsProper := hwellFormed
  constructor
  · exact @parse_of_isWritten _ ⟨hname, by decide⟩ _ hhosts [' '] ['\n'] (by decide) (by decide)
  · exact @parse_of_isWritten _ ⟨hdomain, by decide⟩ _ hbelow [] [' '] (by decide) (by decide)

end RuleLine
end DnsFilter
