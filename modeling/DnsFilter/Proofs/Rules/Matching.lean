import DnsFilter.Proofs.Rules.Scan
/-!
# The text of the rule that decides

A rule set answers with the text of one of its lines that decide the request, if there is one.
-/
namespace DnsFilter.RuleSet

variable {text host : List Char} {action : Action} {answer : Option IpAddress} {type : RecordType}

theorem ofText_finds (hhost : ∀ c ∈ host, Text.isUpper c = false) :
    Finds (filedUnder action (acceptedLines text)) ((ofText text).applies type)
      (·.Covers host answer) ((ofText text).find? action host answer type) := by
  refine RuleIndex.find?_finds ((ofText_holds text).index action) (fun p hp => ?_) hhost
  obtain ⟨l, hl, -, ht⟩ := mem_filedUnder.mp hp
  exact ht ▸ acceptedLines_isNamed (List.mem_of_getElem? hl)

theorem text?_ofText {id : Nat} {l : List Char × Rule} (hl : (acceptedLines text)[id]? = some l) :
    (ofText text).text? id = some (Text.trim l.1) := by
  rw [text?, ← Array.getElem?_toList, (ofText_holds text).entries, List.getElem?_map, hl]
  rfl

theorem find?_of_decides (hhost : ∀ c ∈ host, Text.isUpper c = false) {l : List Char × Rule}
    (hl : l ∈ acceptedLines text) (hdecides : l.2.Decides action host answer type) :
    ∃ id, (ofText text).find? action host answer type = some id := by
  obtain ⟨id, hl⟩ := List.mem_iff_getElem?.mp hl
  have hfiled := mem_filedUnder.mpr ⟨l, hl, hdecides.action_eq, rfl⟩
  have happlies := (applies_iff (ofText_holds text) hl).mpr hdecides.applies
  by_contra hnot
  have hnone : (ofText text).find? action host answer type = none :=
    Option.eq_none_iff_forall_ne_some.mpr fun id hid => hnot ⟨id, hid⟩
  have hmissing := (ofText_finds hhost).missing hnone _ hfiled hdecides.covers
  exact absurd (hmissing.symm.trans happlies) (by decide)

theorem matching?_eq_none (hhost : ∀ c ∈ host, Text.isUpper c = false)
    (h : (ofText text).matching? action host answer type = none) :
    ∀ l ∈ acceptedLines text, ¬l.2.Decides action host answer type := by
  intro l hmem hdecides
  obtain ⟨found, hfound⟩ := find?_of_decides hhost hmem hdecides
  -- what is found has a number of a line, and so a text
  obtain ⟨t, ht, -⟩ := (ofText_finds hhost).hit found hfound
  obtain ⟨m, hm, -⟩ := mem_filedUnder.mp ht
  rw [matching?, hfound, Option.bind_some, text?_ofText hm] at h
  cases h

theorem matching?_eq_some (hhost : ∀ c ∈ host, Text.isUpper c = false) {t : List Char}
    (h : (ofText text).matching? action host answer type = some t) :
    ∃ l ∈ acceptedLines text, l.2.Decides action host answer type ∧ t = Text.trim l.1 := by
  obtain ⟨id, hfound, htext⟩ := Option.bind_eq_some_iff.mp h
  obtain ⟨target, htarget, hcovers, happlies, -⟩ := (ofText_finds hhost).hit id hfound
  obtain ⟨l, hl, haction, rfl⟩ := mem_filedUnder.mp htarget
  rw [text?_ofText hl] at htext
  have happlies := (applies_iff (ofText_holds text) hl).mp happlies
  exact ⟨l, List.mem_of_getElem? hl, ⟨haction, happlies, hcovers⟩, (Option.some.inj htext).symm⟩

end DnsFilter.RuleSet
