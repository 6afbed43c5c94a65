import Std.Data.HashMap
import DnsFilter.Dns.HostName
import DnsFilter.Text.Affix
/-!
# Domain suffixes

Rules for domains in a trie of labels, the rightmost label at the root. A name is looked up along its
labels from the right; the rules of the nodes on the way are those of the domains that end the name.
-/
namespace DnsFilter

/-- A rule for a domain. It covers everything below the domain, and the domain itself if it includes
the apex. -/
structure SuffixRule where
  id : Nat
  includesApex : Bool
  deriving DecidableEq, Repr

namespace SuffixTrie

/-- The node of a domain: its rules, the first one first, and a child for each label in front. -/
structure Node where
  rules : Array SuffixRule := #[]
  children : Std.HashMap.Raw String Node := ∅

namespace Node

inductive WellFormed : Node → Prop
  | intro {node : Node} (children : node.children.WF)
    (child : ∀ (label : String) (child : Node), node.children[label]? = some child →
      WellFormed child) :
    WellFormed node

def insert (rule : SuffixRule) : List String → Node → Node
  | [], node => { node with rules := node.rules.push rule }
  | label :: labels, node =>
    { node with
      children := node.children.alter label fun child =>
        some (insert rule labels (child.getD {})) }

/-- The rules of a node that cover the name that leads to it, or with `isApex := false` a longer one. -/
def hits (isApex : Bool) (node : Node) : List Nat :=
  (node.rules.toList.filter fun r => !isApex || r.includesApex).map (·.id)

/-- The rules that are met on the way along some labels. It ends where there is no child. -/
def walk : List String → Node → List Nat
  | [], _ => []
  | label :: labels, node =>
    match node.children[label]? with
    | none => []
    | some child => child.hits labels.isEmpty ++ child.walk labels

theorem wellFormed_empty : WellFormed {} :=
  .intro .empty (by simp)

theorem wf_alter {α β : Type} [BEq α] [EquivBEq α] [Hashable α] {m : Std.HashMap.Raw α β}
    (h : m.WF) (a : α) (f : Option β → Option β) : (m.alter a f).WF := by
  refine ⟨?_⟩
  rw [Std.HashMap.Raw.alter, Std.DHashMap.Raw.Const.alter, dif_pos h.out.size_buckets_pos]
  exact .constAlter₀ h.out

/-- A child that is not there yet counts as the empty node. -/
theorem WellFormed.getD_child {node : Node} (h : node.WellFormed) (label : String) :
    (node.children[label]?.getD {}).WellFormed := by
  obtain ⟨-, hchild⟩ := h
  cases hc : node.children[label]? with
  | none => exact wellFormed_empty
  | some child => exact hchild label child hc

theorem WellFormed.insert {node : Node} (h : node.WellFormed) (rule : SuffixRule)
    (labels : List String) : (node.insert rule labels).WellFormed := by
  induction labels generalizing node with
  | nil =>
    obtain ⟨hwf, hchild⟩ := h
    exact ⟨hwf, hchild⟩
  | cons label labels ih =>
    have hnext := ih (h.getD_child label)
    obtain ⟨hwf, hchild⟩ := h
    refine ⟨wf_alter hwf _ _, fun other child hc => ?_⟩
    rw [Node.insert, Std.HashMap.Raw.getElem?_alter hwf] at hc
    split at hc
    · exact Option.some.inj hc ▸ hnext
    · exact hchild other child hc

end Node
end SuffixTrie

open SuffixTrie in
/-- A trie and how many rules were inserted. -/
structure SuffixTrie where
  root : Node := {}
  size : Nat := 0
  wellFormed : root.WellFormed := by
    exact DnsFilter.SuffixTrie.Node.wellFormed_empty

namespace SuffixTrie

def isEmpty (x : SuffixTrie) : Bool := x.size == 0

/-- The domain that a rule is filed under: `*.` in front does not count. -/
def domainOf (domain : List Char) : List Char := (Text.afterPrefix? ['*', '.'] domain).getD domain

def labelsOf (name : List Char) : List String := (HostName.labels name).map String.ofList

def insert (x : SuffixTrie) (domain : List Char) (rule : SuffixRule) : SuffixTrie where
  root := x.root.insert rule (labelsOf (domainOf domain)).reverse
  size := x.size + 1
  wellFormed := x.wellFormed.insert rule _

/-- The rules that cover a name, those of the longest domain first. -/
def lookup (x : SuffixTrie) (name : List Char) : List Nat :=
  (x.root.walk (labelsOf name).reverse).reverse

end SuffixTrie
end DnsFilter
