import DnsFilter.Proofs.Rules.Matching
/-!
# Ties between rules

Rules of one kind, and of one domain where they are for domains, rank the same. Of those that decide
a request, a search finds the first one in the list. Of the rules of one domain it finds the last
one, since the rules of a domain are kept with the last one in front.
-/
namespace DnsFilter

namespace Target

def domain? : Target → Option (List Char)
  | subtree domain | wildcard domain => some domain
  | _ => none

/-- Targets of one kind, and of one domain where they are for domains. -/
structure IsPeerOf (t u : Target) : Prop where
  kind_eq : t.kind = u.kind
  domain_eq : t.domain? = u.domain?

/-- Of two numbers of peers of a target, the one that a search comes to first. -/
def Precedes (t : Target) (i j : Nat) : Prop := if t.domain? = none then i ≤ j else j ≤ i

theorem suffix?_eq_some {t : Target} {id : Nat} {e : List Char × SuffixRule}
    (h : t.suffix? id = some e) : t.domain? = some e.1 ∧ e.2.id = id := by
  cases t with
  | subtree d =>
    cases h
    exact ⟨rfl, rfl⟩
  | wildcard d =>
    cases h
    exact ⟨rfl, rfl⟩
  | _ => cases h

theorem suffix?_of_domain {t : Target} {domain : List Char} (h : t.domain? = some domain)
    (id : Nat) : ∃ rule, t.suffix? id = some (domain, rule) ∧ rule.id = id := by
  cases t with
  | subtree d =>
    cases h
    exact ⟨_, rfl, rfl⟩
  | wildcard d =>
    cases h
    exact ⟨_, rfl, rfl⟩
  | _ => cases h

end Target

/-- Behind the first element that a search accepts, all others that it accepts follow. -/
theorem first_of_find? {α : Type} {r : α → α → Prop} {l : List α} (hl : l.Pairwise r)
    {p : α → Bool} {a : α} (hf : l.find? p = some a) {b : α} (hb : b ∈ l) (hp : p b = true) :
    b = a ∨ r a b := by
  obtain ⟨-, front, back, rfl, hfront⟩ := List.find?_eq_some_iff_append.mp hf
  rcases List.mem_append.mp hb with hb | hb
  · exact absurd hp (by simpa using hfront b hb)
  · obtain ⟨-, hrest, -⟩ := List.pairwise_append.mp hl
    rcases List.mem_cons.mp hb with rfl | hb
    · exact .inl rfl
    · exact .inr ((List.pairwise_cons.mp hrest).1 b hb)

namespace SuffixTrie

variable {x : SuffixTrie} {entries : List (List Char × SuffixRule)}

/-- Among the rules of one domain the last one that was filed is found. -/
theorem find?_hits (h : x.Holds entries)
    (hordered : entries.Pairwise fun e e' => e.2.id < e'.2.id) {isApex : Bool}
    {labels : List String} {p : Nat → Bool} {id : Nat}
    (hf : (x.hits isApex labels).find? p = some id) {e : List Char × SuffixRule} (he : e ∈ entries)
    (hk : key e = labels) (ha : isApex = true → e.2.includesApex = true)
    (hp : p e.2.id = true) : e.2.id ≤ id := by
  have hdescending : (x.hits isApex labels).Pairwise fun i j => j < i := by
    rw [hits, h labels, List.pairwise_reverse, List.pairwise_map]
    refine List.Pairwise.filter _ ?_
    rw [List.pairwise_map]
    exact hordered.filter _
  have hmem : e.2.id ∈ x.hits isApex labels := (mem_hits h).mpr ⟨e, he, hk, ha, rfl⟩
  rcases first_of_find? hdescending hf hmem hp with heq | hlt
  · exact Nat.le_of_eq heq
  · exact Nat.le_of_lt hlt

theorem find?_covering_last (h : x.Holds entries)
    (hordered : entries.Pairwise fun e e' => e.2.id < e'.2.id) {p : Nat → Bool}
    {labels : List String} {id : Nat} (hf : (x.covering labels).find? p = some id) :
    ∃ e ∈ entries, key e <:+ labels ∧ e.2.id = id ∧
      ∀ e' ∈ entries, key e' = key e → p e'.2.id = true → e'.2.id ≤ id := by
  induction labels with
  | nil => simp [covering] at hf
  | cons label labels ih =>
    rw [covering, List.find?_append] at hf
    rcases Option.or_eq_some_iff.mp hf with hfound | ⟨-, hrest⟩
    · obtain ⟨e, he, hk, -, hid⟩ := (mem_hits h).mp (List.mem_of_find?_eq_some hfound)
      refine ⟨e, he, hk ▸ List.suffix_refl _, hid, fun e' he' hk' hp => ?_⟩
      exact find?_hits h hordered hfound he' (hk'.trans hk) (by simp) hp
    · obtain ⟨e, he, hk, hid, hlast⟩ := ih hrest
      exact ⟨e, he, List.suffix_cons_iff.mpr (.inr hk), hid, hlast⟩

/-- Of the admitted rules of one domain that cover a name, the last one is found. -/
theorem find?_lookup_last (h : x.Holds entries)
    (hordered : entries.Pairwise fun e e' => e.2.id < e'.2.id) {p : Nat → Bool}
    {name : List Char} {id : Nat} (hf : (x.lookup name).find? p = some id) :
    ∃ e ∈ entries, e.2.id = id ∧ ∀ e' ∈ entries, key e' = key e → Reaches e' (labelsOf name) →
      p e'.2.id = true → e'.2.id ≤ id := by
  rw [lookup_eq, List.find?_append] at hf
  rcases Option.or_eq_some_iff.mp hf with hfound | ⟨-, hrest⟩
  · -- the domain is the name itself, so all that reaches the name includes the apex
    obtain ⟨e, he, hk, -, hid⟩ := (mem_hits h).mp (List.mem_of_find?_eq_some hfound)
    refine ⟨e, he, hid, fun e' he' hk' hr hp => ?_⟩
    have hapex : e'.2.includesApex = true := by
      rcases hr with ⟨-, ha⟩ | ⟨-, hlonger⟩
      · exact ha
      · exact absurd (hk'.trans hk) hlonger
    exact find?_hits h hordered hfound he' (hk'.trans hk) (fun _ => hapex) hp
  · obtain ⟨e, he, -, hid, hlast⟩ := find?_covering_last h hordered hrest
    exact ⟨e, he, hid, fun e' he' hk' _ hp => hlast e' he' hk' hp⟩

end SuffixTrie

def Settles (filed : List (Target × Nat)) (applies : Nat → Bool) (covers : Target → Prop)
    (id : Nat) : Prop :=
  ∃ t, (t, id) ∈ filed ∧
    ∀ u j, (u, j) ∈ filed → covers u → applies j = true → u.IsPeerOf t → t.Precedes id j

def IsNumbered (filed : List (Target × Nat)) : Prop := filed.Pairwise fun p q => p.2 < q.2

namespace Settles

variable {filed : List (Target × Nat)} {applies : Nat → Bool} {covers : Target → Prop}
  {id : Nat}

/-- A search among the numbers of one target, which has no other peers. -/
theorem idsOf (hfiled : IsNumbered filed) {t : Target} (ht : t.domain? = none)
    (heq : ∀ u : Target, u.kind = t.kind → covers u → u = t)
    (hf : (idsOf t filed).find? applies = some id) : Settles filed applies covers id := by
  refine ⟨t, mem_idsOf.mp (List.mem_of_find?_eq_some hf), fun u j hu hc ha hpeer => ?_⟩
  obtain rfl := heq u hpeer.kind_eq hc
  have hascending : (DnsFilter.idsOf u filed).Pairwise (· < ·) := by
    rw [DnsFilter.idsOf, List.pairwise_map]
    exact hfiled.filter _
  rw [Target.Precedes, if_pos ht]
  rcases first_of_find? hascending hf (mem_idsOf.mpr hu) ha with rfl | hlt
  · exact Nat.le_refl _
  · exact Nat.le_of_lt hlt

theorem list {β : Type} (hfiled : IsNumbered filed) (view : Target → Option β)
    (accepts : β → Bool) (hview : ∀ t, (view t).isSome → t.domain? = none)
    (hcovers : ∀ t u, (view t).isSome → u.IsPeerOf t → covers u → (view u).any accepts = true)
    (hf : ((filed.filterMap (fun p => (view p.1).map (·, p.2))).find?
      (fun q => applies q.2 && accepts q.1)).map (·.2) = some id) :
    Settles filed applies covers id := by
  obtain ⟨⟨b, i⟩, hfound, rfl⟩ := Option.map_eq_some_iff.mp hf
  obtain ⟨⟨t, i'⟩, ht, hv⟩ := List.mem_filterMap.mp (List.mem_of_find?_eq_some hfound)
  obtain ⟨b', hb, heq⟩ := Option.map_eq_some_iff.mp hv
  cases heq
  have hsome : (view t).isSome := by simp [hb]
  have hascending : (filed.filterMap (fun p => (view p.1).map (·, p.2))).Pairwise
      fun p q => p.2 < q.2 := by
    refine List.Pairwise.filterMap _ (fun p q hlt b hb b' hb' => ?_) hfiled
    obtain ⟨_, -, rfl⟩ := Option.map_eq_some_iff.mp hb
    obtain ⟨_, -, rfl⟩ := Option.map_eq_some_iff.mp hb'
    exact hlt
  refine ⟨t, ht, fun u j hu hc ha hpeer => ?_⟩
  obtain ⟨c, hc, haccepts⟩ := (Option.any_eq_true _ _).mp (hcovers t u hsome hpeer hc)
  have hmem : (c, j) ∈ filed.filterMap (fun p => (view p.1).map (·, p.2)) :=
    List.mem_filterMap.mpr ⟨(u, j), hu, by simp [hc]⟩
  rw [Target.Precedes, if_pos (hview t hsome)]
  rcases first_of_find? hascending hfound hmem (by simp [ha, haccepts]) with heq | hlt
  · exact Nat.le_of_eq (Prod.mk.inj heq).2.symm
  · exact Nat.le_of_lt hlt

end Settles

namespace RuleIndex

variable {x : RuleIndex} {filed : List (Target × Nat)} {applies : Nat → Bool} {host : List Char}
  {answer : Option IpAddress} {id : Nat}

theorem settles_address (h : x.Holds filed) (hfiled : IsNumbered filed)
    (hf : answer.bind (fun ip => (x.addresses.getD ip #[]).find? applies) = some id) :
    Settles filed applies (·.Covers host answer) id := by
  obtain ⟨ip, rfl, hfound⟩ := Option.bind_eq_some_iff.mp hf
  rw [← Array.find?_toList, h.addresses] at hfound
  refine Settles.idsOf hfiled (by rfl) (fun u hkind hcovers => ?_) hfound
  exact Target.eq_address_iff.mpr ⟨by rw [hkind]; exact Nat.zero_lt_one, hcovers⟩

theorem settles_exact (h : x.Holds filed) (hfiled : IsNumbered filed)
    (hf : (x.exact.getD (String.ofList host) #[]).find? applies = some id) :
    Settles filed applies (·.Covers host answer) id := by
  rw [← Array.find?_toList, h.exact] at hf
  exact Settles.idsOf hfiled (by rfl)
    (fun u hkind hcovers => Target.eq_exact_iff.mpr ⟨hkind, hcovers⟩) hf

theorem suffixes_ordered (hfiled : IsNumbered filed) :
    (filed.filterMap (fun p => p.1.suffix? p.2)).Pairwise fun e e' => e.2.id < e'.2.id := by
  refine List.Pairwise.filterMap _ (fun p q hlt e he e' he' => ?_) hfiled
  rw [(Target.suffix?_eq_some he).2, (Target.suffix?_eq_some he').2]
  exact hlt

theorem settles_suffix (h : x.Holds filed) (hfiled : IsNumbered filed)
    (hn : ∀ p ∈ filed, p.1.IsNamed) (hf : (x.suffixes.lookup host).find? applies = some id) :
    Settles filed applies (·.Covers host answer) id := by
  obtain ⟨e, he, rfl, hlast⟩ :=
    SuffixTrie.find?_lookup_last h.suffixes (suffixes_ordered hfiled) hf
  obtain ⟨⟨t, i⟩, ht, hentry⟩ := List.mem_filterMap.mp he
  obtain ⟨hdomain, hid⟩ := Target.suffix?_eq_some hentry
  refine ⟨t, hid ▸ ht, fun u j hu hcovers happlies hpeer => ?_⟩
  obtain ⟨rule, hrule, hj⟩ := Target.suffix?_of_domain (hpeer.domain_eq.trans hdomain) j
  obtain ⟨hreaches, -, -, -⟩ := @suffix_entry host u (hn _ hu) j (e.1, rule) hrule answer
  have hmem : (e.1, rule) ∈ filed.filterMap (fun p => p.1.suffix? p.2) :=
    List.mem_filterMap.mpr ⟨(u, j), hu, hrule⟩
  rw [Target.Precedes, if_neg (by simp [hdomain])]
  have hle := hlast _ hmem rfl (hreaches.mpr hcovers) (by rw [hj]; exact happlies)
  rwa [hj] at hle

theorem settles_part (h : x.Holds filed) (hfiled : IsNumbered filed)
    (hh : ∀ c ∈ host, Text.isUpper c = false)
    (hf : (x.parts.find? (fun p => applies p.2 && Text.isInfix p.1 (Text.lower host))).map (·.2) =
      some id) : Settles filed applies (·.Covers host answer) id := by
  rw [← Array.find?_toList, h.parts] at hf
  refine Settles.list hfiled Target.part? (Text.isInfix · (Text.lower host)) ?_ ?_ hf
  · rintro (_ | _ | _ | _ | _ | _) <;> simp [Target.part?, Target.domain?]
  · rintro t u ht ⟨hkind, -⟩ hcovers
    rw [Text.lower_eq_self hh]
    cases t <;> cases u <;>
      simp_all [Target.part?, Target.kind, Target.Covers, isInfix_iff]

theorem settles_regex (h : x.Holds filed) (hfiled : IsNumbered filed)
    (hf : (x.regexes.find? (fun r => applies r.2 && r.1.accepts host)).map (·.2) = some id) :
    Settles filed applies (·.Covers host answer) id := by
  rw [← Array.find?_toList, h.regexes] at hf
  refine Settles.list hfiled Target.pattern? (·.accepts host) ?_ ?_ hf
  · rintro (_ | _ | _ | _ | _ | _) <;> simp [Target.pattern?, Target.domain?]
  · rintro t u ht ⟨hkind, -⟩ hcovers
    cases t <;> cases u <;> simp_all [Target.pattern?, Target.kind, Target.Covers]

/-- What is found in an index precedes all of its peers that cover the host or the address. -/
theorem find?_settles (h : x.Holds filed) (hfiled : IsNumbered filed)
    (hn : ∀ p ∈ filed, p.1.IsNamed) (hh : ∀ c ∈ host, Text.isUpper c = false)
    (hf : x.find? applies host answer = some id) :
    Settles filed applies (·.Covers host answer) id := by
  simp only [find?, Option.or_eq_some_iff] at hf
  rcases hf with (((hfound | ⟨-, hfound⟩) | ⟨-, hfound⟩) | ⟨-, hfound⟩) | ⟨-, hfound⟩
  · exact settles_address h hfiled hfound
  · exact settles_exact h hfiled hfound
  · exact settles_suffix h hfiled hn hfound
  · exact settles_part h hfiled hh hfound
  · exact settles_regex h hfiled hfound

end RuleIndex

theorem filedUnder_isNumbered (action : Action) (lines : List (List Char × Rule)) :
    IsNumbered (filedUnder action lines) := by
  have hindexed : lines.zipIdx.Pairwise fun p q => p.2 < q.2 := by
    rw [← List.pairwise_map (f := Prod.snd) (R := (· < ·)), List.zipIdx_map_snd]
    exact List.pairwise_lt_range'
  rw [IsNumbered, filedUnder, List.pairwise_map]
  exact hindexed.filter _

namespace RuleSet

variable {text host : List Char} {action : Action} {answer : Option IpAddress} {type : RecordType}

/-- Line `id` of a text decides a request by a peer of a target. -/
def Ties (text host : List Char) (action : Action) (answer : Option IpAddress) (type : RecordType)
    (t : Target) (id : Nat) : Prop :=
  ∃ l, (acceptedLines text)[id]? = some l ∧ l.2.Decides action host answer type ∧
    l.2.target.IsPeerOf t

/-- The line that is found decides the request, and it precedes all lines that tie with it. -/
theorem find?_precedes (hh : ∀ c ∈ host, Text.isUpper c = false) {id : Nat}
    (hf : (ofText text).find? action host answer type = some id) :
    ∃ l, (acceptedLines text)[id]? = some l ∧ l.2.Decides action host answer type ∧
      ∀ j, Ties text host action answer type l.2.target j → l.2.target.Precedes id j := by
  have hholds := ofText_holds text
  have hnumbered := filedUnder_isNumbered action (acceptedLines text)
  obtain ⟨t, ht, hcovers, happlies, -⟩ := (ofText_finds hh).hit id hf
  obtain ⟨l, hl, haction, rfl⟩ := mem_filedUnder.mp ht
  refine ⟨l, hl, ⟨haction, (applies_iff hholds hl).mp happlies, hcovers⟩, ?_⟩
  rintro j ⟨m, hm, hdecides, hpeer⟩
  have hnamed : ∀ p ∈ filedUnder action (acceptedLines text), p.1.IsNamed := by
    intro p hp
    obtain ⟨l, hl, -, hp⟩ := mem_filedUnder.mp hp
    exact hp ▸ acceptedLines_isNamed (List.mem_of_getElem? hl)
  obtain ⟨u, hu, hsettled⟩ :=
    RuleIndex.find?_settles (hholds.index action) hnumbered hnamed hh hf
  obtain ⟨l', hl', -, rfl⟩ := mem_filedUnder.mp hu
  obtain rfl : l = l' := Option.some.inj (hl.symm.trans hl')
  exact hsettled _ j (mem_filedUnder.mpr ⟨m, hm, hdecides.action_eq, rfl⟩) hdecides.covers
    ((applies_iff hholds hm).mpr hdecides.applies) hpeer

/-- The line that is found is the first of those that tie with it, unless its rule is for a domain.
Then it is the last one, and the first one only where no other line ties with it. -/
theorem first_line_wins_ties_iff (text : List Char) {host : List Char} (action : Action)
    (answer : Option IpAddress) (type : RecordType) (hh : ∀ c ∈ host, Text.isUpper c = false)
    {id : Nat} (hf : (ofText text).find? action host answer type = some id) :
    ∃ l, (acceptedLines text)[id]? = some l ∧ l.2.Decides action host answer type ∧
      (l.2.target.domain? = none →
        ∀ j, Ties text host action answer type l.2.target j → id ≤ j) ∧
      (l.2.target.domain? ≠ none →
        ∀ j, Ties text host action answer type l.2.target j → j ≤ id) ∧
      ((∀ j, Ties text host action answer type l.2.target j → id ≤ j) ↔
        l.2.target.domain? = none ∨
          ∀ j, Ties text host action answer type l.2.target j → j = id) := by
  obtain ⟨l, hl, hdecides, hprecedes⟩ := find?_precedes hh hf
  have hfirst (hnone : l.2.target.domain? = none) (j : Nat)
      (hj : Ties text host action answer type l.2.target j) : id ≤ j := by
    have hij := hprecedes j hj
    rwa [Target.Precedes, if_pos hnone] at hij
  have hlast (hsome : l.2.target.domain? ≠ none) (j : Nat)
      (hj : Ties text host action answer type l.2.target j) : j ≤ id := by
    have hij := hprecedes j hj
    rwa [Target.Precedes, if_neg hsome] at hij
  refine ⟨l, hl, hdecides, hfirst, hlast, fun hleast => ?_, ?_⟩
  · by_cases hdomain : l.2.target.domain? = none
    · exact .inl hdomain
    · exact .inr fun j hj => Nat.le_antisymm (hlast hdomain j hj) (hleast j hj)
  · rintro (hnone | honly) j hj
    · exact hfirst hnone j hj
    · exact Nat.le_of_eq (honly j hj).symm

/-- Two parts of a host tie, and the first line wins. -/
theorem first_part_wins :
    (∀ c ∈ "x.track.b".toList, Text.isUpper c = false) ∧
      (ofText "*track*\n*rack*\n".toList).find? .block "x.track.b".toList none .a = some 0 := by
  have hh : ∀ c ∈ "x.track.b".toList, Text.isUpper c = false :=
    Text.not_isUpper_of_all (by decide +kernel)
  have hlines : acceptedLines "*track*\n*rack*\n".toList =
      [("*track*".toList, ⟨.block, .part "track".toList, none⟩),
        ("*rack*".toList, ⟨.block, .part "rack".toList, none⟩)] := by decide +kernel
  have hdecides : Rule.Decides ⟨.block, .part "track".toList, none⟩ .block "x.track.b".toList none
      .a := ⟨rfl, by simp [Rule.AppliesTo], isInfix_iff.mp (by decide +kernel)⟩
  have hfirstLine : (acceptedLines "*track*\n*rack*\n".toList)[0]? =
      some ("*track*".toList, ⟨.block, .part "track".toList, none⟩) := by rw [hlines]; rfl
  obtain ⟨id, hf⟩ := find?_of_decides hh (List.mem_of_getElem? hfirstLine) hdecides
  obtain ⟨l, hl, -, hfirst, -⟩ := first_line_wins_ties_iff _ .block none .a hh hf
  refine ⟨hh, ?_⟩
  rw [hlines] at hl
  rcases id with _ | _ | id
  · exact hf
  · cases hl
    exact absurd (hfirst rfl 0 ⟨_, hfirstLine, hdecides, rfl, rfl⟩) (by decide)
  · cases hl

/-- Two rules for one domain tie, and the line that comes later wins. -/
theorem later_line_of_domain_wins :
    let text := "||a.b^\n*.a.b\n".toList
    let host := "x.a.b".toList
    (∀ c ∈ host, Text.isUpper c = false) ∧ (ofText text).find? .block host none .a = some 1 ∧
      ∃ l, (acceptedLines text)[1]? = some l ∧ Ties text host .block none .a l.2.target 0 := by
  intro text host
  have hh : ∀ c ∈ host, Text.isUpper c = false := Text.not_isUpper_of_all (by decide +kernel)
  have hlines : acceptedLines text =
      [("||a.b^".toList, ⟨.block, .subtree "a.b".toList, none⟩),
        ("*.a.b".toList, ⟨.block, .wildcard "a.b".toList, none⟩)] := by decide +kernel
  have hsubtree : Rule.Decides ⟨.block, .subtree "a.b".toList, none⟩ .block host none .a :=
    ⟨rfl, by simp [Rule.AppliesTo], .inr ⟨['x'], by decide +kernel⟩⟩
  have hwildcard : Rule.Decides ⟨.block, .wildcard "a.b".toList, none⟩ .block host none .a :=
    ⟨rfl, by simp [Rule.AppliesTo], ⟨['x'], by decide +kernel⟩⟩
  have hfirst : (acceptedLines text)[0]? =
      some ("||a.b^".toList, ⟨.block, .subtree "a.b".toList, none⟩) := by rw [hlines]; rfl
  have hsecond : (acceptedLines text)[1]? =
      some ("*.a.b".toList, ⟨.block, .wildcard "a.b".toList, none⟩) := by rw [hlines]; rfl
  obtain ⟨id, hf⟩ := find?_of_decides hh (List.mem_of_getElem? hfirst) hsubtree
  obtain ⟨l, hl, -, hprecedes⟩ := find?_precedes hh hf
  rw [hlines] at hl
  rcases id with _ | _ | id
  · cases hl
    exact absurd (hprecedes 1 ⟨_, hsecond, hwildcard, rfl, rfl⟩)
      (by simp [Target.Precedes, Target.domain?])
  · exact ⟨hh, hf, _, hsecond, _, hfirst, hsubtree, rfl, rfl⟩
  · cases hl

end RuleSet
end DnsFilter
