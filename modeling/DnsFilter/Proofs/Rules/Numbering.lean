import Mathlib.Data.List.Find
import DnsFilter.Proofs.Rules.Ties
/-!
# The numbers of a rule set

Every line of a list is blank, a comment, skipped, or accepted. The accepted lines are numbered in
their order, and each number stands at one place of the index of its action. So a search only meets
numbers that have a text, and what it finds has one.
-/
namespace DnsFilter

inductive Shelf
  | address (ip : IpAddress)
  | host (name : String)
  | domain (labels : List String)
  | parts
  | regexes
  deriving DecidableEq

/-- Where the number of a rule for a target belongs. -/
def Target.shelf : Target → Shelf
  | exact host => .host (String.ofList host)
  | subtree domain => .domain (SuffixTrie.labelsOf (SuffixTrie.domainOf domain))
  | wildcard domain => .domain (SuffixTrie.labelsOf (SuffixTrie.domainOf domain))
  | part _ => .parts
  | regex _ => .regexes
  | address ip => .address ip

def RuleLine.IsRemark (line : List Char) : Prop :=
  Text.trim line = [] ∨ (Text.trim line).head? = some '#' ∨ (Text.trim line).head? = some '!'

instance (line : List Char) : Decidable (RuleLine.IsRemark line) :=
  inferInstanceAs (Decidable (_ ∨ _ ∨ _))

def numbersFor (shelf : Shelf) (filed : List (Target × Nat)) : List Nat :=
  (filed.filter (·.1.shelf = shelf)).map (·.2)

theorem mem_numbersFor {shelf : Shelf} {filed : List (Target × Nat)} {id : Nat} :
    id ∈ numbersFor shelf filed ↔ ∃ t, (t, id) ∈ filed ∧ t.shelf = shelf := by
  simp [numbersFor]

theorem numbersFor_eq_filterMap (shelf : Shelf) (filed : List (Target × Nat)) :
    numbersFor shelf filed =
      filed.filterMap fun p => if p.1.shelf = shelf then some p.2 else none := by
  rw [numbersFor, ← List.filterMap_eq_map', List.filterMap_filter]
  simp only [decide_eq_true_eq]

theorem numbersFor_eq_idsOf {t : Target} {shelf : Shelf}
    (hshelf : ∀ u : Target, u = t ↔ u.shelf = shelf) (filed : List (Target × Nat)) :
    numbersFor shelf filed = idsOf t filed := by
  simp only [numbersFor, idsOf, hshelf]

namespace RuleIndex

/-- The numbers that an index has on a shelf. -/
def idsOn (x : RuleIndex) : Shelf → List Nat
  | .address ip => (x.addresses.getD ip #[]).toList
  | .host name => (x.exact.getD name #[]).toList
  | .domain labels => (x.suffixes.rulesOf labels).map (·.id)
  | .parts => x.parts.toList.map (·.2)
  | .regexes => x.regexes.toList.map (·.2)

/-! ## What stands on a shelf -/

theorem numbersFor_of_view {β : Type} (view : Target → Option β) {shelf : Shelf}
    {filed : List (Target × Nat)}
    (hview : ∀ p ∈ filed, (view p.1).isSome = true ↔ p.1.shelf = shelf) :
    (filed.filterMap fun p => (view p.1).map (·, p.2)).map (·.2) = numbersFor shelf filed := by
  rw [List.map_filterMap, numbersFor_eq_filterMap]
  apply List.filterMap_congr
  intro p hp
  by_cases hshelf : p.1.shelf = shelf
  · obtain ⟨b, hb⟩ := Option.isSome_iff_exists.mp ((hview p hp).mpr hshelf)
    simp [hb, hshelf]
  · have hnone : view p.1 = none := by
      rw [← Option.not_isSome_iff_eq_none, hview p hp]
      exact hshelf
    simp [hnone, hshelf]

theorem numbersFor_domain (labels : List String) (filed : List (Target × Nat)) :
    ((filed.filterMap fun p => p.1.suffix? p.2).filter (SuffixTrie.key · = labels)).map (·.2.id) =
      numbersFor (.domain labels) filed := by
  rw [List.filter_filterMap, List.map_filterMap, numbersFor_eq_filterMap]
  apply List.filterMap_congr
  rintro ⟨t, id⟩ -
  by_cases hkey : t.shelf = .domain labels
  · cases t <;> simp_all [Target.shelf, Target.suffix?, SuffixTrie.key]
  · cases t <;> simp_all [Target.shelf, Target.suffix?, SuffixTrie.key]

/-- On each shelf stand the numbers of the targets that belong there, in their order. -/
theorem idsOn_eq {x : RuleIndex} {filed : List (Target × Nat)} (h : x.Holds filed)
    (hfiled : ∀ p ∈ filed, p.1.filing?.isSome = true) (shelf : Shelf) :
    x.idsOn shelf = numbersFor shelf filed := by
  cases shelf with
  | address ip =>
    rw [idsOn, h.addresses, numbersFor_eq_idsOf]
    intro t
    cases t <;> simp [Target.shelf]
  | host name =>
    have hexact := h.exact name.toList
    rw [String.ofList_toList] at hexact
    rw [idsOn, hexact, numbersFor_eq_idsOf]
    intro t
    cases t <;> simp [Target.shelf, ← String.toList_inj]
  | domain labels =>
    rw [idsOn, h.suffixes labels, List.map_map, ← numbersFor_domain]
    rfl
  | parts =>
    rw [idsOn, h.parts, numbersFor_of_view]
    intro p _
    cases p.1 <;> simp [Target.part?, Target.shelf]
  | regexes =>
    rw [idsOn, h.regexes, numbersFor_of_view]
    intro p hp
    -- the pattern of a filed target can be read
    have hplace := hfiled p hp
    cases ht : p.1 <;> simp_all [Target.pattern?, Target.shelf, Target.filing?]

/-! ## What a search meets -/

theorem mem_idsOn_of_hits {x : RuleIndex} {isApex : Bool} {labels : List String} {id : Nat}
    (h : id ∈ x.suffixes.hits isApex labels) : id ∈ x.idsOn (.domain labels) := by
  obtain ⟨rule, hrule, rfl⟩ := List.mem_map.mp (List.mem_reverse.mp h)
  exact List.mem_map_of_mem (List.mem_of_mem_filter hrule)

theorem mem_idsOn_of_covering {x : RuleIndex} {labels : List String} {id : Nat}
    (h : id ∈ x.suffixes.covering labels) : ∃ shelf, id ∈ x.idsOn shelf := by
  induction labels with
  | nil => simp [SuffixTrie.covering] at h
  | cons label labels ih =>
    rw [SuffixTrie.covering] at h
    rcases List.mem_append.mp h with hhere | hrest
    · exact ⟨_, mem_idsOn_of_hits hhere⟩
    · exact ih hrest

theorem mem_idsOn_of_lookup {x : RuleIndex} {host : List Char} {id : Nat}
    (h : id ∈ x.suffixes.lookup host) : ∃ shelf, id ∈ x.idsOn shelf := by
  rw [SuffixTrie.lookup_eq] at h
  rcases List.mem_append.mp h with happly | hrest
  · exact ⟨_, mem_idsOn_of_hits happly⟩
  · exact mem_idsOn_of_covering hrest

theorem mem_idsOn_of_find? {x : RuleIndex} {admits : Nat → Bool} {host : List Char}
    {answer : Option IpAddress} {id : Nat} (h : x.find? admits host answer = some id) :
    ∃ shelf, id ∈ x.idsOn shelf := by
  simp only [find?, Option.or_eq_some_iff] at h
  rcases h with (((hfound | ⟨-, hfound⟩) | ⟨-, hfound⟩) | ⟨-, hfound⟩) | ⟨-, hfound⟩
  · obtain ⟨ip, -, hfound⟩ := Option.bind_eq_some_iff.mp hfound
    exact ⟨.address ip, Array.mem_toList_iff.mpr (Array.mem_of_find?_eq_some hfound)⟩
  · exact ⟨.host _, Array.mem_toList_iff.mpr (Array.mem_of_find?_eq_some hfound)⟩
  · exact mem_idsOn_of_lookup (List.mem_of_find?_eq_some hfound)
  · obtain ⟨p, hp, rfl⟩ := Option.map_eq_some_iff.mp hfound
    exact ⟨.parts, List.mem_map_of_mem (Array.mem_toList_iff.mpr (Array.mem_of_find?_eq_some hp))⟩
  · obtain ⟨p, hp, rfl⟩ := Option.map_eq_some_iff.mp hfound
    exact ⟨.regexes, List.mem_map_of_mem (Array.mem_toList_iff.mpr (Array.mem_of_find?_eq_some hp))⟩

theorem array_find?_congr {α : Type} {xs : Array α} {p q : α → Bool}
    (h : ∀ a ∈ xs.toList, p a = q a) : xs.find? p = xs.find? q := by
  rw [← Array.find?_toList, ← Array.find?_toList]
  exact List.find?_congr h

/-- A search asks for nothing but the numbers on the shelves. -/
theorem find?_congr {x : RuleIndex} {admits admits' : Nat → Bool}
    (h : ∀ shelf, ∀ id ∈ x.idsOn shelf, admits id = admits' id) (host : List Char)
    (answer : Option IpAddress) : x.find? admits host answer = x.find? admits' host answer := by
  have haddress (ip : IpAddress) :
      (x.addresses.getD ip #[]).find? admits = (x.addresses.getD ip #[]).find? admits' :=
    array_find?_congr (h (.address ip))
  have hexact : (x.exact.getD (String.ofList host) #[]).find? admits =
      (x.exact.getD (String.ofList host) #[]).find? admits' :=
    array_find?_congr (h (.host (String.ofList host)))
  have hsuffix :
      (x.suffixes.lookup host).find? admits = (x.suffixes.lookup host).find? admits' := by
    apply List.find?_congr
    intro id hid
    obtain ⟨shelf, hshelf⟩ := mem_idsOn_of_lookup hid
    exact h shelf id hshelf
  have hpart : x.parts.find? (fun p => admits p.2 && Text.isInfix p.1 (Text.lower host)) =
      x.parts.find? (fun p => admits' p.2 && Text.isInfix p.1 (Text.lower host)) := by
    apply array_find?_congr
    intro p hp
    rw [h .parts p.2 (List.mem_map_of_mem hp)]
  have hregex : x.regexes.find? (fun r => admits r.2 && r.1.accepts host) =
      x.regexes.find? (fun r => admits' r.2 && r.1.accepts host) := by
    apply array_find?_congr
    intro r hr
    rw [h .regexes r.2 (List.mem_map_of_mem hr)]
  simp only [find?, haddress, hexact, hsuffix, hpart, hregex]

end RuleIndex

namespace RuleSet

/-! ## What a line does -/

/-- A line that is not a remark counts once, as a rule or as skipped. -/
theorem addLine_count (s : RuleSet) (line : List Char) :
    (s.addLine line).count + (s.addLine line).skipped =
      s.count + s.skipped + if RuleLine.IsRemark line then 0 else 1 := by
  have hremark : RuleLine.IsRemark line ↔ RuleLine.parse line = .empty :=
    RuleLine.parse_eq_empty_iff.symm
  unfold addLine
  cases hparse : RuleLine.parse line with
  | empty => simp [hremark, hparse]
  | invalid => simp [hremark, hparse, count, Nat.add_assoc]
  | rule r =>
    cases hplace : r.target.filing? with
    | none => simp [hremark, hparse, hplace, count, Nat.add_assoc]
    | some place =>
      cases haction : r.action <;>
        simp [hremark, hparse, hplace, haction, count, push, modifyIndex, Nat.add_right_comm]

theorem foldl_addLine_count (lines : List (List Char)) (s : RuleSet) :
    (lines.foldl addLine s).count + (lines.foldl addLine s).skipped =
      s.count + s.skipped + lines.countP (¬RuleLine.IsRemark ·) := by
  induction lines generalizing s with
  | nil => rfl
  | cons line lines ih =>
    rw [List.foldl_cons, ih, addLine_count, List.countP_cons]
    by_cases hremark : RuleLine.IsRemark line <;> simp [hremark]
    omega

theorem addLine_skipped (s : RuleSet) (n : Nat) (line : List Char) :
    { s with skipped := s.skipped + n }.addLine line =
      { s.addLine line with skipped := (s.addLine line).skipped + n } := by
  unfold addLine
  cases RuleLine.parse line with
  | empty => rfl
  | invalid => simp [Nat.add_right_comm]
  | rule r =>
    cases hplace : r.target.filing? with
    | none => simp [hplace, Nat.add_right_comm]
    | some place => cases haction : r.action <;> simp [hplace, push, modifyIndex, haction]

theorem foldl_addLine_skipped (lines : List (List Char)) (s : RuleSet) (n : Nat) :
    lines.foldl addLine { s with skipped := s.skipped + n } =
      { lines.foldl addLine s with skipped := (lines.foldl addLine s).skipped + n } := by
  induction lines generalizing s with
  | nil => rfl
  | cons line lines ih => rw [List.foldl_cons, addLine_skipped, ih, List.foldl_cons]

/-- A line whose regular expression cannot be read leaves nothing behind but one more skipped
line. -/
theorem foldl_addLine_unplaced {line : List Char} {r : Rule}
    (hparse : RuleLine.parse line = .rule r) (hplace : r.target.filing? = none)
    (front back : List (List Char)) (s : RuleSet) :
    (front ++ line :: back).foldl addLine s =
      { (front ++ back).foldl addLine s with
        skipped := ((front ++ back).foldl addLine s).skipped + 1 } := by
  have hline (s : RuleSet) : s.addLine line = { s with skipped := s.skipped + 1 } := by
    rw [addLine, hparse]
    simp only [hplace]
  rw [List.foldl_append, List.foldl_cons, hline, foldl_addLine_skipped, List.foldl_append]

/-! ## What a text makes -/

theorem acceptedLines_fst (text : List Char) :
    (acceptedLines text).map (·.1) =
      (Text.lines text).filter (fun line => (RuleLine.accepted? line).isSome) := by
  rw [acceptedLines]
  induction Text.lines text with
  | nil => rfl
  | cons line lines ih => cases h : RuleLine.accepted? line <;> simp [h, ih]

theorem acceptedLines_filing {text : List Char} {l : List Char × Rule}
    (h : l ∈ acceptedLines text) : l.2.target.filing?.isSome = true := by
  obtain ⟨line, -, hl⟩ := List.mem_filterMap.mp h
  obtain ⟨r, hr, rfl⟩ := Option.map_eq_some_iff.mp hl
  unfold RuleLine.accepted? at hr
  split at hr
  next r' _ =>
    split at hr
    next hplace =>
      cases hr
      exact hplace
    next => cases hr
  next => cases hr

theorem count_ofText (text : List Char) : (ofText text).count = (acceptedLines text).length := by
  rw [count, ← Array.length_toList, (ofText_holds text).entries, List.length_map]

theorem idsOn_ofText (text : List Char) (action : Action) (shelf : Shelf) :
    ((ofText text).index action).idsOn shelf =
      numbersFor shelf (filedUnder action (acceptedLines text)) := by
  apply RuleIndex.idsOn_eq ((ofText_holds text).index action)
  rintro ⟨t, id⟩ ht
  obtain ⟨l, hl, -, rfl⟩ := mem_filedUnder.mp ht
  exact acceptedLines_filing (List.mem_of_getElem? hl)

/-- A number stands where the line with that number belongs. -/
theorem mem_idsOn_ofText {text : List Char} {action : Action} {shelf : Shelf} {id : Nat} :
    id ∈ ((ofText text).index action).idsOn shelf ↔
      ∃ l, (acceptedLines text)[id]? = some l ∧ l.2.action = action ∧ l.2.target.shelf = shelf := by
  rw [idsOn_ofText, mem_numbersFor]
  constructor
  · rintro ⟨t, ht, hshelf⟩
    obtain ⟨l, hl, haction, rfl⟩ := mem_filedUnder.mp ht
    exact ⟨l, hl, haction, hshelf⟩
  · rintro ⟨l, hl, haction, hshelf⟩
    exact ⟨l.2.target, mem_filedUnder.mpr ⟨l, hl, haction, rfl⟩, hshelf⟩

theorem idsOn_ofText_lt {text : List Char} {action : Action} {shelf : Shelf} {id : Nat}
    (h : id ∈ ((ofText text).index action).idsOn shelf) : id < (ofText text).count := by
  obtain ⟨l, hl, -⟩ := mem_idsOn_ofText.mp h
  rw [count_ofText]
  exact (List.getElem?_eq_some_iff.mp hl).1

theorem idsOn_ofText_nodup (text : List Char) (action : Action) (shelf : Shelf) :
    (((ofText text).index action).idsOn shelf).Nodup := by
  rw [idsOn_ofText, numbersFor, List.Nodup, List.pairwise_map]
  apply List.Pairwise.filter
  exact (filedUnder_isNumbered action (acceptedLines text)).imp Nat.ne_of_lt

/-- Every line of a text is accounted for. The lines that are no remarks are counted as rules or as
skipped, and the rules have the numbers of the accepted lines, each on the shelf of its target under
its action and on no other. So a search meets no number without a line. -/
theorem lines_are_accounted_for (text : List Char) :
    (ofText text).count + (ofText text).skipped =
        (Text.lines text).countP (¬RuleLine.IsRemark ·) ∧
      (ofText text).count = (acceptedLines text).length ∧
      (∀ id, (ofText text).text? id =
        ((Text.lines text).filter fun line => (RuleLine.accepted? line).isSome)[id]?.map
          Text.trim) ∧
      -- a regular expression that cannot be read
      (∀ front line back action pattern types, Text.lines text = front ++ line :: back →
        RuleLine.parse line = .rule ⟨action, .regex pattern, types⟩ →
        Regex.Pattern.parse? pattern = none →
        ofText text = { (front ++ back).foldl addLine {} with
          skipped := ((front ++ back).foldl addLine {}).skipped + 1 }) ∧
      -- the shelves
      (∀ action shelf, (((ofText text).index action).idsOn shelf).Nodup ∧
        ∀ id ∈ ((ofText text).index action).idsOn shelf, id < (ofText text).count) ∧
      (∀ id < (ofText text).count, ∃ l, (acceptedLines text)[id]? = some l ∧
        ∀ action shelf, id ∈ ((ofText text).index action).idsOn shelf ↔
          l.2.action = action ∧ l.2.target.shelf = shelf) ∧
      -- searches
      (∀ action host answer type admits,
        (∀ id < (ofText text).count, admits id = (ofText text).applies type id) →
        ((ofText text).index action).find? admits host answer =
          (ofText text).find? action host answer type) ∧
      ∀ action host answer type id, (ofText text).find? action host answer type = some id →
        id < (ofText text).count ∧
          ∃ t, (ofText text).text? id = some t ∧
            (ofText text).matching? action host answer type = some t := by
  refine ⟨?counts, count_ofText text, ?texts, ?unreadable, ?shelves, ?places, ?meets, ?finds⟩
  case counts =>
    rw [ofText, foldl_addLine_count]
    exact Nat.zero_add _
  case texts =>
    intro id
    rw [← acceptedLines_fst, text?, ← Array.getElem?_toList, (ofText_holds text).entries]
    simp only [List.getElem?_map, Option.map_map]
    rfl
  case unreadable =>
    intro front line back action pattern types hlines hparse hpattern
    rw [ofText, hlines, foldl_addLine_unplaced hparse]
    rw [Target.filing?, hpattern]
    rfl
  case shelves =>
    exact fun action shelf => ⟨idsOn_ofText_nodup text action shelf, fun id => idsOn_ofText_lt⟩
  case places =>
    intro id hid
    rw [count_ofText] at hid
    refine ⟨(acceptedLines text)[id], List.getElem?_eq_getElem hid, fun action shelf => ?_⟩
    rw [mem_idsOn_ofText, List.getElem?_eq_getElem hid]
    simp
  case meets =>
    intro action host answer type admits hadmits
    exact RuleIndex.find?_congr (fun shelf id hid => hadmits id (idsOn_ofText_lt hid)) host answer
  case finds =>
    intro action host answer type id hfound
    obtain ⟨shelf, hid⟩ := RuleIndex.mem_idsOn_of_find? hfound
    obtain ⟨l, hl, -⟩ := mem_idsOn_ofText.mp hid
    refine ⟨idsOn_ofText_lt hid, Text.trim l.1, text?_ofText hl, ?_⟩
    rw [matching?, hfound, Option.bind_some, text?_ofText hl]

/-- Of two rules, a comment, a line that is no rule and an expression that cannot be read. -/
example :
    let s := ofText
      "! comment\n||ads.example^\n0.0.0.0 tracker.example\ngarbage line\n/([/\n".toList
    s.count = 2 ∧ s.skipped = 2 := by
  decide +kernel

end RuleSet
end DnsFilter
