import DnsFilter.Proofs.Rules.Reading
import DnsFilter.Proofs.Text.Ascii
import DnsFilter.Rules.RuleSet
/-!
# What rules cover

The accepted lines of a list and the requests that each of their rules decides, said rule by rule
without any index. Domains are compared by their labels; that is the same as comparing the ends of
names behind a dot.
-/
namespace DnsFilter

namespace Target

/-- Whether a target covers a host, or the address that an answer holds. -/
def Covers (host : List Char) (answer : Option IpAddress) : Target → Prop
  | exact h => host = h
  | subtree domain => host = domain ∨ '.' :: domain <:+ host
  | wildcard domain => '.' :: domain <:+ host
  | part text => text <:+: host
  | regex text => (Regex.Pattern.parse? text).any (·.accepts host) = true
  | address ip => answer = some ip

/-- The kinds of targets, the most specific one first. -/
def kind : Target → Nat
  | address _ => 0
  | exact _ => 1
  | subtree _ | wildcard _ => 2
  | part _ => 3
  | regex _ => 4

/-- How many labels the domain of a target has. Only domains are told apart by it. -/
def depth : Target → Nat
  | subtree domain | wildcard domain => (HostName.labels domain).length
  | _ => 0

/-- A strictly better rank: a more specific kind, or a longer domain. -/
def Outranks (t u : Target) : Prop := t.kind < u.kind ∨ (t.kind = u.kind ∧ u.depth < t.depth)

end Target

namespace Rule

def AppliesTo (r : Rule) (type : RecordType) : Prop := ∀ types, r.types = some types → type ∈ types

/-- A rule of an action that applies to the type of a request and covers its host or address. -/
structure Decides (r : Rule) (action : Action) (host : List Char) (answer : Option IpAddress)
    (type : RecordType) : Prop where
  action_eq : r.action = action
  applies : r.AppliesTo type
  covers : r.target.Covers host answer

end Rule

/-- The rule of an accepted line. A regular expression that cannot be read is not accepted. -/
def RuleLine.accepted? (line : List Char) : Option Rule :=
  match RuleLine.parse line with
  | .rule r => if r.target.filing?.isSome then some r else none
  | _ => none

def acceptedLines (text : List Char) : List (List Char × Rule) :=
  (Text.lines text).filterMap (fun line => (RuleLine.accepted? line).map (line, ·))

theorem appliesTo_entry (r : Rule) (text : List Char) (type : RecordType) :
    RuleEntry.appliesTo ⟨text, r.types⟩ type = true ↔ r.AppliesTo type := by
  cases h : r.types <;> simp [RuleEntry.appliesTo, Rule.AppliesTo, h]

theorem isInfix_iff {α : Type} [DecidableEq α] {part s : List α} :
    Text.isInfix part s = true ↔ part <:+: s := by
  induction s with
  | nil => simp [Text.isInfix, List.infix_nil]
  | cons a s ih => simp [Text.isInfix, List.infix_cons_iff, ih]

theorem labels_ne_nil (name : List Char) : HostName.labels name ≠ [] := List.splitOn_ne_nil _ _

theorem labels_injective {a b : List Char} (h : HostName.labels a = HostName.labels b) : a = b := by
  have hj := congrArg (fun ls : List (List Char) => ['.'].intercalate ls) h
  simpa only [HostName.labels, List.intercalate_splitOn] using hj

theorem labels_append (start name : List Char) :
    HostName.labels (start ++ '.' :: name) = HostName.labels start ++ HostName.labels name :=
  List.splitOn_append_cons_self start name

theorem intercalate_append {sep : List Char} {as bs : List (List Char)} (ha : as ≠ [])
    (hb : bs ≠ []) : sep.intercalate (as ++ bs) = sep.intercalate as ++ sep ++ sep.intercalate bs := by
  induction as with
  | nil => exact absurd rfl ha
  | cons a as ih =>
    cases as with
    | nil =>
      obtain ⟨b, bs, rfl⟩ := List.exists_cons_of_ne_nil hb
      simp
    | cons a' as =>
      have := ih (by simp)
      simp_all

/-- The labels of a domain end the labels of a longer name where the domain ends it behind a dot. -/
theorem labels_suffix_iff {domain name : List Char} :
    (HostName.labels domain <:+ HostName.labels name ∧ domain ≠ name) ↔ '.' :: domain <:+ name := by
  constructor
  · rintro ⟨⟨start, hs⟩, hne⟩
    by_cases hnil : start = []
    · subst hnil
      exact absurd (labels_injective (by simpa using hs)) hne
    · have hj := congrArg (fun ls : List (List Char) => ['.'].intercalate ls) hs
      rw [intercalate_append hnil (labels_ne_nil domain)] at hj
      simp only [HostName.labels, List.intercalate_splitOn] at hj
      exact ⟨_, by simpa using hj⟩
  · rintro ⟨start, rfl⟩
    refine ⟨⟨HostName.labels start, (labels_append start domain).symm⟩, fun h => ?_⟩
    have hl := congrArg List.length h
    simp only [List.length_append, List.length_cons] at hl
    omega

def Target.IsNamed : Target → Prop
  | .exact host => HostName.isWellFormed host = true
  | .subtree domain => HostName.isWellFormed domain = true
  | .wildcard domain => HostName.isWellFormed domain = true
  | _ => True

theorem Target.IsClean.isNamed {t : Target} (h : t.IsClean) : t.IsNamed := by
  cases t with
  | exact host => exact h.wellFormed
  | subtree domain => exact h.1.wellFormed
  | wildcard domain => exact h.wellFormed
  | part text => trivial
  | regex pattern => trivial
  | address ip => trivial

theorem accepted?_isNamed {line : List Char} {r : Rule} (h : RuleLine.accepted? line = some r) :
    r.target.IsNamed := by
  unfold RuleLine.accepted? at h
  split at h
  next r' hp =>
    split at h
    · cases h; exact (RuleLine.parse_isClean hp).isNamed
    · cases h
  next => cases h

theorem acceptedLines_isNamed {text : List Char} {l : List Char × Rule}
    (h : l ∈ acceptedLines text) : l.2.target.IsNamed := by
  obtain ⟨line, -, hl⟩ := List.mem_filterMap.mp h
  obtain ⟨r, hr, rfl⟩ := Option.map_eq_some_iff.mp hl
  exact accepted?_isNamed hr

/-- A well-formed name has no asterisk in front that would not count. -/
theorem domainOf_eq_self {name : List Char} (h : HostName.isWellFormed name = true) :
    SuffixTrie.domainOf name = name := by
  have hplain : Text.afterPrefix? ['*', '.'] name = none := by
    cases hstar : Text.afterPrefix? ['*', '.'] name with
    | none => rfl
    | some rest =>
      obtain rfl := Text.afterPrefix?_eq_some_iff.mp hstar
      have hletter : HostName.isLabelChar '*' = true ∨ '*' = '.' :=
        HostName.mem_of_isWellFormed h (by simp)
      exact absurd hletter (by decide)
  rw [SuffixTrie.domainOf, hplain]
  rfl

end DnsFilter
