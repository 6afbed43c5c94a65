import Mathlib.Tactic.SplitIfs
import DnsFilter.Proofs.Rules.Suffixes
/-!
# Searching rule sets

What the parts of an index keep of the rules that were filed, what a search finds in each of them,
and what the whole rule set of a text finds: the same as a look at its accepted lines one by one.
-/
namespace DnsFilter

namespace Target

def suffix? (id : Nat) : Target → Option (List Char × SuffixRule)
  | subtree domain => some (domain, ⟨id, true⟩)
  | wildcard domain => some (domain, ⟨id, false⟩)
  | _ => none

def part? : Target → Option (List Char)
  | part text => some text
  | _ => none

def pattern? : Target → Option Regex.Pattern
  | regex text => Regex.Pattern.parse? text
  | _ => none

theorem eq_address_iff {t : Target} {ip : IpAddress} {host : List Char} :
    t = address ip ↔ t.kind < 1 ∧ t.Covers host (some ip) := by
  cases t with
  | address jp => simpa [kind, Covers] using eq_comm
  | _ => simp [kind]

theorem eq_exact_iff {t : Target} {host : List Char} {answer : Option IpAddress} :
    t = exact host ↔ t.kind = 1 ∧ t.Covers host answer := by
  cases t with
  | exact h => simpa [kind, Covers] using eq_comm
  | _ => simp [kind]

end Target

def idsOf (t : Target) (filed : List (Target × Nat)) : List Nat :=
  (filed.filter (·.1 = t)).map (·.2)

theorem mem_idsOf {t : Target} {filed : List (Target × Nat)} {id : Nat} :
    id ∈ idsOf t filed ↔ (t, id) ∈ filed := by
  simp [idsOf]

theorem idsOf_append (t : Target) (filed more : List (Target × Nat)) :
    idsOf t (filed ++ more) = idsOf t filed ++ idsOf t more := by
  simp [idsOf]

namespace RuleIndex

structure Holds (x : RuleIndex) (filed : List (Target × Nat)) : Prop where
  addresses : ∀ ip, (x.addresses.getD ip #[]).toList = idsOf (.address ip) filed
  exact : ∀ host, (x.exact.getD (String.ofList host) #[]).toList = idsOf (.exact host) filed
  suffixes : x.suffixes.Holds (filed.filterMap (fun p => p.1.suffix? p.2))
  parts : x.parts.toList = filed.filterMap (fun p => p.1.part?.map (·, p.2))
  regexes : x.regexes.toList = filed.filterMap (fun p => p.1.pattern?.map (·, p.2))

theorem empty_holds : Holds {} [] := by
  constructor
  · intro ip; simp [idsOf]
  · intro host; simp [idsOf]
  · exact SuffixTrie.empty_holds
  · rfl
  · rfl

theorem getD_push {α : Type} [BEq α] [LawfulBEq α] [Hashable α] (m : Std.HashMap α (Array Nat))
    (k k' : α) (id : Nat) :
    ((m.alter k (fun ids => some ((ids.getD #[]).push id))).getD k' #[]).toList =
      (m.getD k' #[]).toList ++ if k == k' then [id] else [] := by
  by_cases h : k == k'
  · rw [← eq_of_beq h]
    simp [Std.HashMap.getD_eq_getD_getElem?]
  · simp [Std.HashMap.getD_alter, h]

/-- Filing a target changes the one part of the index that is meant for its kind. -/
theorem insert_holds {x : RuleIndex} {filed : List (Target × Nat)} (h : x.Holds filed) {t : Target}
    {place : Filing} (hp : t.filing? = some place) (id : Nat) :
    (x.insert place id).Holds (filed ++ [(t, id)]) := by
  have hids {u : Target} (hu : t ≠ u) : idsOf u (filed ++ [(t, id)]) = idsOf u filed := by
    simp [idsOf, hu]
  have haddress (hn : ∀ ip, t ≠ .address ip) (ip : IpAddress) :
      (x.addresses.getD ip #[]).toList = idsOf (.address ip) (filed ++ [(t, id)]) :=
    (h.addresses ip).trans (hids (hn ip)).symm
  have hexact (hn : ∀ host, t ≠ .exact host) (host : List Char) :
      (x.exact.getD (String.ofList host) #[]).toList = idsOf (.exact host) (filed ++ [(t, id)]) :=
    (h.exact host).trans (hids (hn host)).symm
  have hsuffix (hn : t.suffix? id = none) :
      x.suffixes.Holds ((filed ++ [(t, id)]).filterMap (fun p => p.1.suffix? p.2)) := by
    simpa [List.filterMap_append, hn] using h.suffixes
  have hpart (hn : t.part? = none) :
      x.parts.toList = (filed ++ [(t, id)]).filterMap (fun p => p.1.part?.map (·, p.2)) := by
    simpa [List.filterMap_append, hn] using h.parts
  have hregex (hn : t.pattern? = none) :
      x.regexes.toList = (filed ++ [(t, id)]).filterMap (fun p => p.1.pattern?.map (·, p.2)) := by
    simpa [List.filterMap_append, hn] using h.regexes
  cases t with
  | exact host =>
    cases hp
    refine ⟨haddress (by simp), ?_, hsuffix rfl, hpart rfl, hregex rfl⟩
    intro host'
    rw [insert, getD_push, h.exact, idsOf_append]
    by_cases hh : host = host' <;> simp [idsOf, hh, String.ofList_inj]
  | subtree domain =>
    cases hp
    refine ⟨haddress (by simp), hexact (by simp), ?_, hpart rfl, hregex rfl⟩
    rw [List.filterMap_append]
    exact SuffixTrie.insert_holds h.suffixes domain ⟨id, true⟩
  | wildcard domain =>
    cases hp
    refine ⟨haddress (by simp), hexact (by simp), ?_, hpart rfl, hregex rfl⟩
    rw [List.filterMap_append]
    exact SuffixTrie.insert_holds h.suffixes domain ⟨id, false⟩
  | part text =>
    cases hp
    refine ⟨haddress (by simp), hexact (by simp), hsuffix rfl, ?_, hregex rfl⟩
    simp [insert, Target.part?, h.parts]
  | regex text =>
    obtain ⟨pattern, hparse, rfl⟩ := Option.map_eq_some_iff.mp hp
    refine ⟨haddress (by simp), hexact (by simp), hsuffix rfl, hpart rfl, ?_⟩
    simp [insert, Target.pattern?, hparse, h.regexes]
  | address ip =>
    cases hp
    refine ⟨?_, hexact (by simp), hsuffix rfl, hpart rfl, hregex rfl⟩
    intro ip'
    rw [insert, getD_push, h.addresses, idsOf_append]
    by_cases hi : ip = ip' <;> simp [idsOf, hi]

end RuleIndex

structure Finds (filed : List (Target × Nat)) (applies : Nat → Bool) (covers : Target → Prop)
    (found : Option Nat) : Prop where
  missing : found = none → ∀ p ∈ filed, covers p.1 → applies p.2 = false
  hit : ∀ id, found = some id → ∃ t, (t, id) ∈ filed ∧ covers t ∧ applies id = true ∧
    ∀ p ∈ filed, covers p.1 → applies p.2 = true → ¬ p.1.Outranks t

namespace Finds

variable {filed : List (Target × Nat)} {applies : Nat → Bool} {covers covers' : Target → Prop}
  {found found' : Option Nat}

theorem congr (h : Finds filed applies covers found) (he : ∀ p ∈ filed, covers p.1 ↔ covers' p.1) :
    Finds filed applies covers' found := by
  constructor
  · intro hn p hp hc
    exact h.missing hn p hp ((he p hp).mpr hc)
  · intro id hs
    obtain ⟨t, ht, hc, ha, hr⟩ := h.hit id hs
    exact ⟨t, ht, (he _ ht).mp hc, ha, fun p hp hc => hr p hp ((he p hp).mpr hc)⟩

/-- The second search only counts where the first finds nothing. -/
theorem or (h : Finds filed applies covers found) (k : Finds filed applies covers' found')
    (hr : ∀ t u, covers t → covers' u → ¬ u.Outranks t) :
    Finds filed applies (fun t => covers t ∨ covers' t) (found.or found') := by
  constructor
  · intro hn p hp hc
    obtain ⟨hf, hf'⟩ := Option.or_eq_none_iff.mp hn
    rcases hc with hc | hc
    · exact h.missing hf p hp hc
    · exact k.missing hf' p hp hc
  · intro id hs
    cases found with
    | some i =>
      cases hs
      obtain ⟨t, ht, hc, ha, hbest⟩ := h.hit id rfl
      refine ⟨t, ht, Or.inl hc, ha, fun p hp hpc hpa => ?_⟩
      rcases hpc with hpc | hpc
      · exact hbest p hp hpc hpa
      · exact hr t p.1 hc hpc
    | none =>
      obtain ⟨t, ht, hc, ha, hbest⟩ := k.hit id (by simpa using hs)
      refine ⟨t, ht, Or.inr hc, ha, fun p hp hpc hpa => ?_⟩
      rcases hpc with hpc | hpc
      · have := h.missing rfl p hp hpc
        simp [this] at hpa
      · exact hbest p hp hpc hpa

theorem idsOf (t : Target) : Finds filed applies (· = t) ((idsOf t filed).find? applies) := by
  constructor
  · rintro hn ⟨u, id⟩ hp rfl
    simpa using List.find?_eq_none.mp hn id (mem_idsOf.mpr hp)
  · intro id hs
    refine ⟨t, mem_idsOf.mp (List.mem_of_find?_eq_some hs), rfl, List.find?_some hs, ?_⟩
    rintro p - rfl - (hlt | ⟨-, hlt⟩)
    · exact Nat.lt_irrefl _ hlt
    · exact Nat.lt_irrefl _ hlt

theorem list {β : Type} (view : Target → Option β) (accepts : β → Bool)
    (hview : ∀ t u, (view t).isSome → (view u).isSome → ¬ t.Outranks u) :
    Finds filed applies (fun t => (view t).any accepts = true)
      (((filed.filterMap (fun p => (view p.1).map (·, p.2))).find?
        (fun q => applies q.2 && accepts q.1)).map (·.2)) := by
  constructor
  · intro hn p hp hc
    obtain ⟨b, hb, ha⟩ := (Option.any_eq_true _ _).mp hc
    have hm : (b, p.2) ∈ filed.filterMap (fun p => (view p.1).map (·, p.2)) :=
      List.mem_filterMap.mpr ⟨p, hp, by simp [hb]⟩
    simpa [ha] using List.find?_eq_none.mp (Option.map_eq_none_iff.mp hn) _ hm
  · intro id hs
    obtain ⟨⟨b, i⟩, hf, rfl⟩ := Option.map_eq_some_iff.mp hs
    obtain ⟨⟨t, i'⟩, hp, hv⟩ := List.mem_filterMap.mp (List.mem_of_find?_eq_some hf)
    obtain ⟨b', hb, heq⟩ := Option.map_eq_some_iff.mp hv
    cases heq
    have hok := List.find?_some hf
    simp only [Bool.and_eq_true] at hok
    refine ⟨t, hp, by simpa [hb] using hok.2, hok.1, fun p _ hc _ => hview _ _ ?_ (by simp [hb])⟩
    exact Option.isSome_of_any hc

theorem next {k : Nat} (h : Finds filed applies (fun t => t.kind < k ∧ covers t) found)
    (g : Finds filed applies (fun t => t.kind = k ∧ covers t) found') :
    Finds filed applies (fun t => t.kind < k + 1 ∧ covers t) (found.or found') := by
  refine (h.or g ?_).congr fun p _ => ?_
  · rintro t u ⟨ht, -⟩ ⟨hu, -⟩ (hlt | ⟨heq, -⟩) <;> omega
  · rw [← or_and_right, Nat.lt_succ_iff_lt_or_eq]

end Finds

namespace RuleIndex

variable {x : RuleIndex} {filed : List (Target × Nat)} {applies : Nat → Bool} {host : List Char}
  {answer : Option IpAddress}

theorem find_address (h : x.Holds filed) : Finds filed applies
    (fun t => t.kind < 1 ∧ t.Covers host answer)
    (answer.bind (fun ip => (x.addresses.getD ip #[]).find? applies)) := by
  cases answer with
  | none =>
    refine ⟨fun _ p _ ⟨hk, hc⟩ => ?_, fun id hs => by cases hs⟩
    rcases p with ⟨_ | _ | _ | _ | _ | _, id⟩ <;> simp_all [Target.kind, Target.Covers]
  | some ip =>
    rw [Option.bind_some, ← Array.find?_toList, h.addresses]
    exact (Finds.idsOf (.address ip)).congr fun p _ => Target.eq_address_iff

theorem find_exact (h : x.Holds filed) : Finds filed applies
    (fun t => t.kind = 1 ∧ t.Covers host answer)
    ((x.exact.getD (String.ofList host) #[]).find? applies) := by
  rw [← Array.find?_toList, h.exact]
  exact (Finds.idsOf (.exact host)).congr fun p _ => Target.eq_exact_iff

theorem suffix_entry {t : Target} (hn : t.IsNamed) {id : Nat} {e : List Char × SuffixRule}
    (he : t.suffix? id = some e) (answer : Option IpAddress) :
    (SuffixTrie.Reaches e (SuffixTrie.labelsOf host) ↔ t.Covers host answer) ∧
      (SuffixTrie.key e).length = t.depth ∧ e.2.id = id ∧ t.kind = 2 := by
  have hkey {domain : List Char} (hw : HostName.isWellFormed domain = true) (rule : SuffixRule) :
      SuffixTrie.key (domain, rule) = SuffixTrie.labelsOf domain := by
    rw [SuffixTrie.key, domainOf_eq_self hw]
  cases t with
  | subtree domain =>
    cases he
    refine ⟨?_, by simp [hkey hn, SuffixTrie.labelsOf, Target.depth], rfl, rfl⟩
    rw [SuffixTrie.Reaches, hkey hn, Target.Covers, ← SuffixTrie.labelsOf_suffix_iff]
    simp [SuffixTrie.labelsOf_inj, eq_comm (a := host)]
  | wildcard domain =>
    cases he
    refine ⟨?_, by simp [hkey hn, SuffixTrie.labelsOf, Target.depth], rfl, rfl⟩
    rw [SuffixTrie.Reaches, hkey hn, Target.Covers, ← SuffixTrie.labelsOf_suffix_iff]
    simp
  | _ => cases he

theorem suffix?_of_kind {t : Target} (hk : t.kind = 2) (id : Nat) : ∃ e, t.suffix? id = some e := by
  cases t with
  | subtree domain => exact ⟨_, rfl⟩
  | wildcard domain => exact ⟨_, rfl⟩
  | _ => cases hk

theorem find_suffix (h : x.Holds filed) (hn : ∀ p ∈ filed, p.1.IsNamed) :
    Finds filed applies (fun t => t.kind = 2 ∧ t.Covers host answer)
      ((x.suffixes.lookup host).find? applies) := by
  -- every filed domain that covers the host has an entry that reaches it
  have entry {p : Target × Nat} (hp : p ∈ filed) (hc : p.1.kind = 2 ∧ p.1.Covers host answer) :
      ∃ e ∈ filed.filterMap (fun p => p.1.suffix? p.2), e.2.id = p.2 ∧
        SuffixTrie.Reaches e (SuffixTrie.labelsOf host) ∧
        (SuffixTrie.key e).length = p.1.depth := by
    obtain ⟨e, he⟩ := suffix?_of_kind hc.1 p.2
    obtain ⟨hr, hd, hid, -⟩ := suffix_entry (hn p hp) he answer
    exact ⟨e, List.mem_filterMap.mpr ⟨p, hp, he⟩, hid, hr.mpr hc.2, hd⟩
  constructor
  · intro hnone p hp hc
    obtain ⟨e, he, hid, hr, -⟩ := entry hp hc
    have hm := (SuffixTrie.mem_lookup h.suffixes).mpr ⟨e, he, hr, hid⟩
    simpa using List.find?_eq_none.mp hnone _ hm
  · intro id hs
    obtain ⟨e, he, hr, rfl, hlong⟩ := SuffixTrie.find?_lookup h.suffixes hs
    obtain ⟨⟨t, id⟩, hp, ht⟩ := List.mem_filterMap.mp he
    have hnt : t.IsNamed := hn _ hp
    obtain ⟨hc, hd, hid, hk⟩ := suffix_entry hnt ht answer
    subst hid
    refine ⟨t, hp, ⟨hk, hc.mp hr⟩, List.find?_some hs, ?_⟩
    rintro p hp' hpc hpa (hlt | ⟨-, hlt⟩)
    · have := hpc.1
      omega
    · obtain ⟨e', he', hid', hr', hd'⟩ := entry hp' hpc
      have := hlong e' he' hr' (by rw [hid']; exact hpa)
      omega

theorem find_part (h : x.Holds filed) (hh : ∀ c ∈ host, Text.isUpper c = false) :
    Finds filed applies (fun t => t.kind = 3 ∧ t.Covers host answer)
      ((x.parts.find? (fun p => applies p.2 && Text.isInfix p.1 (Text.lower host))).map (·.2)) := by
  rw [← Array.find?_toList, h.parts]
  refine (Finds.list Target.part? (Text.isInfix · (Text.lower host)) ?_).congr fun p _ => ?_
  · rintro (_ | _ | _ | _ | _ | _) (_ | _ | _ | _ | _ | _) <;>
      simp [Target.part?, Target.Outranks, Target.kind, Target.depth]
  · rcases p with ⟨_ | _ | _ | _ | _ | _, id⟩ <;>
      simp [Target.part?, Target.kind, Target.Covers, isInfix_iff, Text.lower_eq_self hh]

theorem find_regex (h : x.Holds filed) : Finds filed applies
    (fun t => t.kind = 4 ∧ t.Covers host answer)
    ((x.regexes.find? (fun r => applies r.2 && r.1.accepts host)).map (·.2)) := by
  rw [← Array.find?_toList, h.regexes]
  refine (Finds.list Target.pattern? (·.accepts host) ?_).congr fun p _ => ?_
  · rintro (_ | _ | _ | _ | _ | _) (_ | _ | _ | _ | _ | _) <;>
      simp [Target.pattern?, Target.Outranks, Target.kind, Target.depth]
  · rcases p with ⟨_ | _ | _ | _ | _ | _, id⟩ <;>
      simp [Target.pattern?, Target.kind, Target.Covers]

theorem kind_lt (t : Target) : t.kind < 5 := by
  cases t <;> simp [Target.kind]

/-- The searches one after the other find what covers a host or an address, the best rank first. -/
theorem find?_finds (h : x.Holds filed) (hn : ∀ p ∈ filed, p.1.IsNamed)
    (hh : ∀ c ∈ host, Text.isUpper c = false) :
    Finds filed applies (·.Covers host answer) (x.find? applies host answer) := by
  have haddress : Finds filed applies (fun t => t.kind < 1 ∧ t.Covers host answer) _ :=
    find_address h
  have hall := (((haddress.next (find_exact h)).next (find_suffix h hn)).next
    (find_part h hh)).next (find_regex h)
  exact hall.congr fun p _ => and_iff_right (kind_lt p.1)

end RuleIndex
end DnsFilter
