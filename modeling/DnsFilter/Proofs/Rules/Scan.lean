import Mathlib.Tactic.ByContra
import DnsFilter.Proofs.Rules.Search
/-!
# Rule sets against their texts

A rule set keeps the accepted lines of its text under their numbers, and a search in it gives what a
look at these lines one by one gives.
-/
namespace DnsFilter

def filedUnder (action : Action) (lines : List (List Char × Rule)) : List (Target × Nat) :=
  (lines.zipIdx.filter (·.1.2.action = action)).map (fun p => (p.1.2.target, p.2))

theorem mem_filedUnder {action : Action} {lines : List (List Char × Rule)} {t : Target} {id : Nat} :
    (t, id) ∈ filedUnder action lines ↔
      ∃ l, lines[id]? = some l ∧ l.2.action = action ∧ l.2.target = t := by
  constructor
  · intro h
    obtain ⟨⟨l, i⟩, hl, heq⟩ := List.mem_map.mp h
    obtain ⟨hl, ha⟩ := List.mem_filter.mp hl
    cases heq
    exact ⟨l, List.mem_zipIdx_iff_getElem?.mp hl, by simpa using ha, rfl⟩
  · rintro ⟨l, hl, ha, rfl⟩
    refine List.mem_map.mpr ⟨(l, id), List.mem_filter.mpr ⟨?_, by simpa using ha⟩, rfl⟩
    exact List.mem_zipIdx_iff_getElem?.mpr hl

theorem filedUnder_append (action : Action) (lines : List (List Char × Rule))
    (l : List Char × Rule) :
    filedUnder action (lines ++ [l]) = filedUnder action lines ++
      if l.2.action = action then [(l.2.target, lines.length)] else [] := by
  by_cases h : l.2.action = action <;> simp [filedUnder, List.zipIdx_append, h]

namespace RuleSet

structure Holds (s : RuleSet) (lines : List (List Char × Rule)) : Prop where
  entries : s.entries.toList = lines.map (fun l => ⟨Text.trim l.1, l.2.types⟩)
  index : ∀ action, (s.index action).Holds (filedUnder action lines)

theorem empty_holds : Holds {} [] := by
  constructor
  · rfl
  · rintro (_ | _) <;> exact RuleIndex.empty_holds

theorem push_holds {s : RuleSet} {lines : List (List Char × Rule)} (h : s.Holds lines)
    {line : List Char} {r : Rule} {place : Filing} (hp : r.target.filing? = some place) :
    (s.push r.action place ⟨Text.trim line, r.types⟩).Holds (lines ++ [(line, r)]) := by
  have hsize : s.entries.size = lines.length := by
    rw [← Array.length_toList, h.entries, List.length_map]
  constructor
  · simp [push, h.entries]
  · intro action
    rw [filedUnder_append]
    by_cases ha : r.action = action
    · subst ha
      have hi := RuleIndex.insert_holds (h.index r.action) hp lines.length
      rw [if_pos rfl]
      cases hr : r.action <;> simpa [push, modifyIndex, index, hsize, hr] using hi
    · rw [if_neg ha, List.append_nil]
      cases action <;> cases hr : r.action <;> simp_all [push, modifyIndex, index]
      · exact h.index .block
      · exact h.index .allow

theorem skip_holds {s : RuleSet} {lines : List (List Char × Rule)} (h : s.Holds lines) (n : Nat) :
    { s with skipped := n }.Holds lines := by
  refine ⟨h.entries, fun action => ?_⟩
  cases action with
  | allow => exact h.index .allow
  | block => exact h.index .block

theorem addLine_holds {s : RuleSet} {lines : List (List Char × Rule)} (h : s.Holds lines)
    (line : List Char) :
    (s.addLine line).Holds (lines ++ ((RuleLine.accepted? line).map (line, ·)).toList) := by
  unfold addLine RuleLine.accepted?
  cases RuleLine.parse line with
  | empty => simpa using h
  | invalid => simpa using skip_holds h _
  | rule r =>
    cases hp : r.target.filing? with
    | none => simpa [hp] using skip_holds h _
    | some place => simpa [hp] using push_holds h hp

theorem ofText_holds (text : List Char) : (ofText text).Holds (acceptedLines text) := by
  have run (todo : List (List Char)) (s : RuleSet) (lines : List (List Char × Rule))
      (h : s.Holds lines) : (todo.foldl addLine s).Holds
        (lines ++ todo.filterMap (fun line => (RuleLine.accepted? line).map (line, ·))) := by
    induction todo generalizing s lines with
    | nil => simpa using h
    | cons line todo ih =>
      have hs := ih _ _ (addLine_holds h line)
      cases ha : RuleLine.accepted? line <;> simpa [ha] using hs
  simpa [acceptedLines, ofText] using run (Text.lines text) {} [] empty_holds

theorem applies_iff {s : RuleSet} {lines : List (List Char × Rule)} (h : s.Holds lines)
    {type : RecordType} {id : Nat} {l : List Char × Rule} (hl : lines[id]? = some l) :
    s.applies type id = true ↔ l.2.AppliesTo type := by
  have he : s.entries[id]? = some ⟨Text.trim l.1, l.2.types⟩ := by
    rw [← Array.getElem?_toList, h.entries, List.getElem?_map, hl, Option.map_some]
  rw [applies, he, Option.any_some, appliesTo_entry]

/-- A search in the rule set of a text finds a rule if a line of the text decides the request, and
then the rule of such a line that no other one outranks. -/
theorem find?_agrees_with_scan (text host : List Char) (action : Action)
    (answer : Option IpAddress) (type : RecordType) (hh : ∀ c ∈ host, Text.isUpper c = false) :
    (((ofText text).find? action host answer type).isSome = true ↔
      ∃ l ∈ acceptedLines text, l.2.Decides action host answer type) ∧
    ∀ id, (ofText text).find? action host answer type = some id →
      ∃ l, (acceptedLines text)[id]? = some l ∧ l.2.Decides action host answer type ∧
        ∀ m ∈ acceptedLines text, m.2.Decides action host answer type →
          ¬ m.2.target.Outranks l.2.target := by
  have h := ofText_holds text
  have hfinds : Finds (filedUnder action (acceptedLines text)) ((ofText text).applies type)
      (·.Covers host answer) ((ofText text).find? action host answer type) := by
    refine RuleIndex.find?_finds (h.index action) (fun p hp => ?_) hh
    obtain ⟨l, hl, -, ht⟩ := mem_filedUnder.mp hp
    exact ht ▸ acceptedLines_isNamed (List.mem_of_getElem? hl)
  -- a line decides the request where its target is filed, covers and applies
  have filed {l : List Char × Rule} (hm : l ∈ acceptedLines text)
      (hd : l.2.Decides action host answer type) :
      ∃ id, (l.2.target, id) ∈ filedUnder action (acceptedLines text) ∧
        (ofText text).applies type id = true := by
    obtain ⟨id, hl⟩ := List.mem_iff_getElem?.mp hm
    exact ⟨id, mem_filedUnder.mpr ⟨l, hl, hd.action_eq, rfl⟩, (applies_iff h hl).mpr hd.applies⟩
  have hit (id : Nat) (hs : (ofText text).find? action host answer type = some id) :
      ∃ l, (acceptedLines text)[id]? = some l ∧ l.2.Decides action host answer type ∧
        ∀ m ∈ acceptedLines text, m.2.Decides action host answer type →
          ¬ m.2.target.Outranks l.2.target := by
    obtain ⟨t, ht, hc, ha, hbest⟩ := hfinds.hit id hs
    obtain ⟨l, hl, haction, rfl⟩ := mem_filedUnder.mp ht
    refine ⟨l, hl, ⟨haction, (applies_iff h hl).mp ha, hc⟩, fun m hm hd => ?_⟩
    obtain ⟨i, hi, hap⟩ := filed hm hd
    exact hbest _ hi hd.covers hap
  refine ⟨⟨fun hs => ?_, ?_⟩, hit⟩
  · obtain ⟨id, hs⟩ := Option.isSome_iff_exists.mp hs
    obtain ⟨l, hl, hd, -⟩ := hit id hs
    exact ⟨l, List.mem_of_getElem? hl, hd⟩
  · rintro ⟨l, hm, hd⟩
    obtain ⟨id, hi, ha⟩ := filed hm hd
    by_contra hn
    have hmissing := hfinds.missing (by simpa using hn) _ hi hd.covers
    simp [hmissing] at ha

/-- Of two domains that cover a host, the longer one decides though its line comes later. -/
theorem find?_of_nested_domains :
    (∀ c ∈ "x.c.a.b".toList, Text.isUpper c = false) ∧
      (ofText "||a.b^\n*.c.a.b\n".toList).find? .block "x.c.a.b".toList none .a = some 1 := by
  have hh : ∀ c ∈ "x.c.a.b".toList, Text.isUpper c = false :=
    Text.not_isUpper_of_all (by decide +kernel)
  have hlines : acceptedLines "||a.b^\n*.c.a.b\n".toList =
      [("||a.b^".toList, ⟨.block, .subtree "a.b".toList, none⟩),
        ("*.c.a.b".toList, ⟨.block, .wildcard "c.a.b".toList, none⟩)] := by decide +kernel
  have hlong : Rule.Decides ⟨.block, .wildcard "c.a.b".toList, none⟩ .block "x.c.a.b".toList none
      .a := ⟨rfl, by simp [Rule.AppliesTo], by simp only [Target.Covers]; decide⟩
  obtain ⟨hsome, hfound⟩ :=
    find?_agrees_with_scan "||a.b^\n*.c.a.b\n".toList "x.c.a.b".toList .block none .a hh
  rw [hlines] at hsome hfound
  obtain ⟨id, hid⟩ := Option.isSome_iff_exists.mp (hsome.mpr ⟨_, .tail _ (.head _), hlong⟩)
  obtain ⟨l, hl, -, hbest⟩ := hfound id hid
  refine ⟨hh, ?_⟩
  rcases id with _ | _ | id
  · cases hl
    exact absurd (Or.inr ⟨rfl, by decide⟩) (hbest _ (.tail _ (.head _)) hlong)
  · exact hid
  · cases hl

end RuleSet
end DnsFilter
