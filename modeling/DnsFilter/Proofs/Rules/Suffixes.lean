import DnsFilter.Proofs.Rules.Coverage
/-!
# Looking up domain suffixes

A trie that was filled with some entries answers for a name with the entries whose labels end the
labels of the name, those of the longest domain first. A trie stands for a flat map: all that is said
of it here is said of the rules that it has for each list of labels.
-/
namespace DnsFilter.SuffixTrie

/-! ## The flat map of a trie -/

namespace Node

/-- The rules of the node that some labels lead to, the first label nearest to the root. -/
def rulesAt : List String → Node → List SuffixRule
  | [], node => node.rules.toList
  | label :: labels, node =>
    match node.children[label]? with
    | none => []
    | some child => child.rulesAt labels

def hitsAt (isApex : Bool) (labels : List String) (node : Node) : List Nat :=
  ((node.rulesAt labels).filter fun r => !isApex || r.includesApex).map (·.id)

def passed : List String → Node → List Nat
  | [], _ => []
  | label :: labels, node =>
    match node.children[label]? with
    | none => []
    | some child => child.hits false ++ child.passed labels

theorem rulesAt_empty (labels : List String) : rulesAt labels {} = [] := by
  cases labels with
  | nil => rfl
  | cons label labels => simp [rulesAt]

theorem rulesAt_cons (node : Node) (label : String) (labels : List String) :
    node.rulesAt (label :: labels) = (node.children[label]?.getD {}).rulesAt labels := by
  rw [rulesAt]
  cases node.children[label]? with
  | none => exact (rulesAt_empty labels).symm
  | some child => rfl

/-- An insertion changes the rules of its own domain and of no other. -/
theorem rulesAt_insert {node : Node} (h : node.WellFormed) (rule : SuffixRule)
    (domain labels : List String) : (node.insert rule domain).rulesAt labels =
      if labels = domain then node.rulesAt labels ++ [rule] else node.rulesAt labels := by
  induction domain generalizing node labels with
  | nil =>
    cases labels with
    | nil => simp [insert, rulesAt]
    | cons label labels => simp [insert, rulesAt]
  | cons first domain ih =>
    cases labels with
    | nil => simp [insert, rulesAt]
    | cons label labels =>
      have hnext := ih (h.getD_child first) labels
      have hchildren : node.children.WF := by
        obtain ⟨hwf, -⟩ := h
        exact hwf
      rw [rulesAt_cons, rulesAt_cons, insert, Std.HashMap.Raw.getElem?_alter hchildren]
      by_cases hl : label = first
      · subst hl
        simpa using hnext
      · have hl' : ¬first = label := fun he => hl he.symm
        simp [hl, hl']

/-- A walk that ends at its last label meets what any longer one meets before that label. -/
theorem walk_append_singleton (node : Node) (labels : List String) (last : String) :
    node.walk (labels ++ [last]) = node.passed labels ++ node.hitsAt true (labels ++ [last]) := by
  induction labels generalizing node with
  | nil =>
    cases hc : node.children[last]? with
    | none => simp [walk, passed, hitsAt, rulesAt, hc]
    | some child => simp [walk, passed, hitsAt, rulesAt, hits, hc]
  | cons label labels ih =>
    cases hc : node.children[label]? with
    | none => simp [walk, passed, hitsAt, rulesAt, hc]
    | some child =>
      have hgoes_on : (labels ++ [last]).isEmpty = false := by
        rw [List.isEmpty_eq_false_iff]
        simp
      simp [walk, passed, hitsAt, rulesAt, hc, ih child, hgoes_on]

theorem passed_append_singleton (node : Node) (labels : List String) (last : String) :
    node.passed (labels ++ [last]) = node.passed labels ++ node.hitsAt false (labels ++ [last]) := by
  induction labels generalizing node with
  | nil =>
    cases hc : node.children[last]? with
    | none => simp [passed, hitsAt, rulesAt, hc]
    | some child => simp [passed, hitsAt, rulesAt, hits, hc]
  | cons label labels ih =>
    cases hc : node.children[label]? with
    | none => simp [passed, hitsAt, rulesAt, hc]
    | some child => simp [passed, hitsAt, rulesAt, hc, ih child]

end Node

/-- The rules of the domain with some labels, the first one first. -/
def rulesOf (x : SuffixTrie) (labels : List String) : List SuffixRule :=
  x.root.rulesAt labels.reverse

def hits (x : SuffixTrie) (isApex : Bool) (labels : List String) : List Nat :=
  (((x.rulesOf labels).filter fun r => !isApex || r.includesApex).map (·.id)).reverse

def covering (x : SuffixTrie) : List String → List Nat
  | [] => []
  | label :: labels => x.hits false (label :: labels) ++ x.covering labels

theorem reverse_passed (x : SuffixTrie) (labels : List String) :
    (x.root.passed labels.reverse).reverse = x.covering labels := by
  induction labels with
  | nil => rfl
  | cons label labels ih =>
    rw [List.reverse_cons, Node.passed_append_singleton, List.reverse_append, ih, covering, hits,
      rulesOf, List.reverse_cons]
    rfl

theorem labelsOf_ne_nil (name : List Char) : labelsOf name ≠ [] := by
  simp [labelsOf, labels_ne_nil]

/-- The walk from the right finds what the flat map has for the name and for each end of it. -/
theorem lookup_eq (x : SuffixTrie) (name : List Char) :
    x.lookup name = x.hits true (labelsOf name) ++ x.covering (labelsOf name).tail := by
  obtain ⟨label, labels, hlabels⟩ := List.exists_cons_of_ne_nil (labelsOf_ne_nil name)
  rw [lookup, hlabels, List.reverse_cons, Node.walk_append_singleton, List.reverse_append,
    reverse_passed, List.tail_cons, hits, rulesOf, List.reverse_cons]
  rfl

/-! ## What a trie holds -/

def key (e : List Char × SuffixRule) : List String := labelsOf (domainOf e.1)

/-- An entry covers a name below its domain, and the domain itself if it includes the apex. -/
def Reaches (e : List Char × SuffixRule) (labels : List String) : Prop :=
  (key e = labels ∧ e.2.includesApex = true) ∨ (key e <:+ labels ∧ key e ≠ labels)

def Holds (x : SuffixTrie) (entries : List (List Char × SuffixRule)) : Prop :=
  ∀ labels, x.rulesOf labels = (entries.filter (fun e => key e = labels)).map (·.2)

theorem key_ne_nil (e : List Char × SuffixRule) : key e ≠ [] := labelsOf_ne_nil _

theorem labelsOf_inj {a b : List Char} : labelsOf a = labelsOf b ↔ a = b := by
  constructor
  · intro h
    exact labels_injective ((List.map_inj_right fun _ _ => String.ofList_injective).mp h)
  · rintro rfl; rfl

/-- The labels of a domain end those of a longer name where the domain ends it behind a dot. -/
theorem labelsOf_suffix_iff {domain name : List Char} :
    (labelsOf domain <:+ labelsOf name ∧ labelsOf domain ≠ labelsOf name) ↔
      '.' :: domain <:+ name := by
  rw [← labels_suffix_iff, Ne, labelsOf_inj]
  refine and_congr_left fun _ => ⟨fun h => ?_, fun h => h.map String.ofList⟩
  simpa [labelsOf, Function.comp_def] using h.map String.toList

theorem empty_holds : Holds {} [] := fun labels => Node.rulesAt_empty labels.reverse

theorem rulesOf_insert (x : SuffixTrie) (domain : List Char) (rule : SuffixRule)
    (labels : List String) : (x.insert domain rule).rulesOf labels =
      if labels = labelsOf (domainOf domain) then x.rulesOf labels ++ [rule]
      else x.rulesOf labels := by
  rw [rulesOf, rulesOf, insert, Node.rulesAt_insert x.wellFormed]
  simp only [List.reverse_inj]

theorem insert_holds {x : SuffixTrie} {entries : List (List Char × SuffixRule)}
    (h : x.Holds entries) (domain : List Char) (rule : SuffixRule) :
    (x.insert domain rule).Holds (entries ++ [(domain, rule)]) := by
  intro labels
  have hk : key (domain, rule) = labelsOf (domainOf domain) := rfl
  rw [rulesOf_insert, List.filter_append, List.map_append, h labels]
  by_cases hl : labels = labelsOf (domainOf domain)
  · simp [hk, hl]
  · simp [hk, hl, eq_comm (a := labelsOf (domainOf domain))]

variable {x : SuffixTrie} {entries : List (List Char × SuffixRule)}

theorem mem_hits (h : x.Holds entries) {isApex : Bool} {labels : List String} {id : Nat} :
    id ∈ x.hits isApex labels ↔
      ∃ e ∈ entries, key e = labels ∧ (isApex = true → e.2.includesApex = true) ∧ e.2.id = id := by
  rw [hits, h labels, List.mem_reverse]
  constructor
  · intro hm
    obtain ⟨r, hr, rfl⟩ := List.mem_map.mp hm
    obtain ⟨hr, ha⟩ := List.mem_filter.mp hr
    obtain ⟨e, he, rfl⟩ := List.mem_map.mp hr
    obtain ⟨he, hl⟩ := List.mem_filter.mp he
    exact ⟨e, he, by simpa using hl, by rintro rfl; simpa using ha, rfl⟩
  · rintro ⟨e, he, rfl, ha, rfl⟩
    refine List.mem_map.mpr ⟨e.2, List.mem_filter.mpr ⟨?_, ?_⟩, rfl⟩
    · exact List.mem_map.mpr ⟨e, List.mem_filter.mpr ⟨he, by simp⟩, rfl⟩
    · cases isApex <;> simp_all

theorem mem_covering (h : x.Holds entries) {labels : List String} {id : Nat} :
    id ∈ x.covering labels ↔ ∃ e ∈ entries, key e <:+ labels ∧ e.2.id = id := by
  induction labels with
  | nil => simp [covering, key_ne_nil]
  | cons label labels ih =>
    rw [covering, List.mem_append, mem_hits h, ih]
    constructor
    · rintro (⟨e, he, hk, -, hid⟩ | ⟨e, he, hk, hid⟩)
      · exact ⟨e, he, hk ▸ List.suffix_refl _, hid⟩
      · exact ⟨e, he, List.suffix_cons_iff.mpr (Or.inr hk), hid⟩
    · rintro ⟨e, he, hk, hid⟩
      rcases List.suffix_cons_iff.mp hk with hk | hk
      · exact Or.inl ⟨e, he, hk, by simp, hid⟩
      · exact Or.inr ⟨e, he, hk, hid⟩

theorem find?_covering (h : x.Holds entries) {p : Nat → Bool} {labels : List String} {id : Nat}
    (hf : (x.covering labels).find? p = some id) :
    ∃ e ∈ entries, key e <:+ labels ∧ e.2.id = id ∧
      ∀ e' ∈ entries, key e' <:+ labels → p e'.2.id = true → (key e').length ≤ (key e).length := by
  induction labels with
  | nil => simp [covering] at hf
  | cons label labels ih =>
    rw [covering, List.find?_append] at hf
    cases hh : (x.hits false (label :: labels)).find? p with
    | some i =>
      rw [hh, Option.some_or, Option.some.injEq] at hf
      subst hf
      obtain ⟨e, he, hk, -, hid⟩ := (mem_hits h).mp (List.mem_of_find?_eq_some hh)
      exact ⟨e, he, hk ▸ List.suffix_refl _, hid, fun e' _ hs _ => hk ▸ hs.length_le⟩
    | none =>
      rw [hh, Option.none_or] at hf
      obtain ⟨e, he, hk, hid, hlong⟩ := ih hf
      refine ⟨e, he, List.suffix_cons_iff.mpr (Or.inr hk), hid, fun e' he' hs hp => ?_⟩
      rcases List.suffix_cons_iff.mp hs with hs | hs
      · have hm : e'.2.id ∈ x.hits false (label :: labels) :=
          (mem_hits h).mpr ⟨e', he', hs, by simp, rfl⟩
        exact absurd hp (List.find?_eq_none.mp hh _ hm)
      · exact hlong e' he' hs hp

theorem suffix_tail_iff {domain labels : List String} (hne : labels ≠ []) :
    domain <:+ labels.tail ↔ domain <:+ labels ∧ domain ≠ labels := by
  obtain ⟨label, labels, rfl⟩ := List.exists_cons_of_ne_nil hne
  rw [List.tail_cons, List.suffix_cons_iff]
  constructor
  · intro hs
    refine ⟨.inr hs, ?_⟩
    rintro rfl
    exact absurd hs.length_le (by simp)
  · rintro ⟨rfl | hs, hn⟩
    · exact absurd rfl hn
    · exact hs

theorem mem_lookup (h : x.Holds entries) {name : List Char} {id : Nat} :
    id ∈ x.lookup name ↔ ∃ e ∈ entries, Reaches e (labelsOf name) ∧ e.2.id = id := by
  have hne := labelsOf_ne_nil name
  rw [lookup_eq, List.mem_append, mem_hits h, mem_covering h]
  constructor
  · rintro (⟨e, he, hk, ha, hid⟩ | ⟨e, he, hs, hid⟩)
    · exact ⟨e, he, Or.inl ⟨hk, ha rfl⟩, hid⟩
    · exact ⟨e, he, Or.inr ((suffix_tail_iff hne).mp hs), hid⟩
  · rintro ⟨e, he, ⟨hk, ha⟩ | hs, hid⟩
    · exact Or.inl ⟨e, he, hk, fun _ => ha, hid⟩
    · exact Or.inr ⟨e, he, (suffix_tail_iff hne).mpr hs, hid⟩

/-- Of the admitted rules that cover a name, the one found has the longest domain. -/
theorem find?_lookup (h : x.Holds entries) {p : Nat → Bool} {name : List Char} {id : Nat}
    (hf : (x.lookup name).find? p = some id) :
    ∃ e ∈ entries, Reaches e (labelsOf name) ∧ e.2.id = id ∧
      ∀ e' ∈ entries, Reaches e' (labelsOf name) → p e'.2.id = true →
        (key e').length ≤ (key e).length := by
  have hne := labelsOf_ne_nil name
  have hlen {e' : List Char × SuffixRule} (hr : Reaches e' (labelsOf name)) :
      (key e').length ≤ (labelsOf name).length := by
    rcases hr with ⟨hk, -⟩ | ⟨hs, -⟩
    · exact hk ▸ Nat.le_refl _
    · exact hs.length_le
  rw [lookup_eq, List.find?_append] at hf
  cases hh : (x.hits true (labelsOf name)).find? p with
  | some i =>
    rw [hh, Option.some_or, Option.some.injEq] at hf
    subst hf
    obtain ⟨e, he, hk, ha, hid⟩ := (mem_hits h).mp (List.mem_of_find?_eq_some hh)
    exact ⟨e, he, Or.inl ⟨hk, ha rfl⟩, hid, fun e' _ hr _ => hk ▸ hlen hr⟩
  | none =>
    rw [hh, Option.none_or] at hf
    obtain ⟨e, he, hs, hid, hlong⟩ := find?_covering h hf
    refine ⟨e, he, Or.inr ((suffix_tail_iff hne).mp hs), hid, fun e' he' hr hp => ?_⟩
    rcases hr with ⟨hk, ha⟩ | hs'
    · have hm : e'.2.id ∈ x.hits true (labelsOf name) :=
        (mem_hits h).mpr ⟨e', he', hk, fun _ => ha, rfl⟩
      exact absurd hp (List.find?_eq_none.mp hh _ hm)
    · exact hlong e' he' ((suffix_tail_iff hne).mpr hs') hp

end DnsFilter.SuffixTrie
