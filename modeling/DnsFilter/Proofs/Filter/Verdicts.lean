import Mathlib.Data.List.Basic
import DnsFilter.Filter.Index
import DnsFilter.Proofs.Rules.Matching
/-!
# Verdicts of all filters

An allowing rule of any filter decides before every blocking one. Among the filters with a rule of
the action that decides, the first one is named, with one of its lines. So the order of the filters
does not change what is allowed and what is blocked.
-/
namespace DnsFilter

namespace FilterRequest

def name (r : FilterRequest) : List Char := HostName.normalForm r.host.toList

def address? (r : FilterRequest) : Option IpAddress :=
  if r.isAnswer then IpAddress.parse? (String.ofList r.name) else none

end FilterRequest

/-- A filter, and the text that its rules in service were made from. -/
structure Listing where
  filter : Filter
  text : Option (List Char) := none

namespace Listing

def inService (x : Listing) : InService := ⟨x.filter, x.text.map RuleSet.ofText⟩

/-- A line of an enabled filter decides a request by a rule of an action. -/
def DecidesBy (x : Listing) (action : Action) (r : FilterRequest) (line : List Char) : Prop :=
  x.filter.enabled = true ∧ ∃ text rule, x.text = some text ∧ (line, rule) ∈ acceptedLines text ∧
    rule.Decides action r.name r.address? r.type

def Decides (x : Listing) (action : Action) (r : FilterRequest) : Prop :=
  ∃ line, x.DecidesBy action r line

def ruleOf (x : Listing) (action : Action) (line : List Char) : MatchedRule :=
  ⟨action, String.ofList (Text.trim line), x.filter.id, x.filter.name⟩

end Listing

def FilterIndex.ofListings (xs : List Listing) : FilterIndex := ⟨xs.map Listing.inService⟩

theorem HostName.normalForm_not_upper (s : List Char) :
    ∀ c ∈ normalForm s, Text.isUpper c = false := by
  intro c hc
  obtain ⟨b, -, rfl⟩ := List.mem_map.mp hc
  exact Text.isUpper_lowerChar b

namespace Listing

variable {x : Listing} {action : Action} {r : FilterRequest}

theorem rule?_eq_none (h : x.inService.rule? action r.name r.address? r.type = none) :
    ¬x.Decides action r := by
  rintro ⟨line, henabled, text, rule, htext, hmem, hdecides⟩
  simp only [InService.rule?, inService, henabled, if_true, htext, Option.map_some,
    Option.bind_some, Option.map_eq_none_iff] at h
  exact RuleSet.matching?_eq_none (HostName.normalForm_not_upper _) h _ hmem hdecides

theorem rule?_eq_some {m : MatchedRule}
    (h : x.inService.rule? action r.name r.address? r.type = some m) :
    ∃ line, x.DecidesBy action r line ∧ m = x.ruleOf action line := by
  unfold InService.rule? at h
  split_ifs at h with henabled
  obtain ⟨t, ht, rfl⟩ := Option.map_eq_some_iff.mp h
  obtain ⟨rules, hrules, hmatching⟩ := Option.bind_eq_some_iff.mp ht
  obtain ⟨text, htext, rfl⟩ := Option.map_eq_some_iff.mp hrules
  obtain ⟨⟨line, rule⟩, hmem, hdecides, rfl⟩ :=
    RuleSet.matching?_eq_some (HostName.normalForm_not_upper _) hmatching
  exact ⟨line, ⟨henabled, text, rule, htext, hmem, hdecides⟩, rfl⟩

end Listing

namespace FilterIndex

variable {xs : List Listing} {action : Action} {r : FilterRequest}

theorem rule?_ofListings {m : MatchedRule}
    (h : (ofListings xs).rule? action r.name r.address? r.type = some m) :
    ∃ before x after line, xs = before ++ x :: after ∧ (∀ y ∈ before, ¬y.Decides action r) ∧
      x.DecidesBy action r line ∧ m = x.ruleOf action line := by
  rw [rule?, ofListings, List.findSome?_map] at h
  obtain ⟨before, x, after, hxs, hx, hbefore⟩ := List.findSome?_eq_some_iff.mp h
  obtain ⟨line, hline, hm⟩ := Listing.rule?_eq_some hx
  exact ⟨before, x, after, line, hxs, fun y hy => Listing.rule?_eq_none (hbefore y hy), hline, hm⟩

theorem rule?_eq_none_iff :
    (ofListings xs).rule? action r.name r.address? r.type = none ↔
      ∀ x ∈ xs, ¬x.Decides action r := by
  rw [rule?, ofListings, List.findSome?_map, List.findSome?_eq_none_iff]
  constructor
  · intro h x hx
    exact Listing.rule?_eq_none (h x hx)
  · intro h x hx
    cases hrule : x.inService.rule? action r.name r.address? r.type with
    | none => exact hrule
    | some m =>
      obtain ⟨line, hline, -⟩ := Listing.rule?_eq_some hrule
      exact absurd ⟨line, hline⟩ (h x hx)

theorem check_eq (x : FilterIndex) (r : FilterRequest) :
    x.check r =
      match x.rule? .allow r.name r.address? r.type with
      | some m => .matched m
      | none =>
        match x.rule? .block r.name r.address? r.type with
        | some m => .matched m
        | none => .noMatch := rfl

/-- The three outcomes of a check: the first filter that allows decides, else the first that blocks,
else none does. -/
theorem check_cases (xs : List Listing) (r : FilterRequest) :
    (∃ m, (ofListings xs).check r = .matched m ∧ m.action = .allow ∧
        (ofListings xs).rule? .allow r.name r.address? r.type = some m) ∨
      ((∀ x ∈ xs, ¬x.Decides .allow r) ∧ ∃ m, (ofListings xs).check r = .matched m ∧
        m.action = .block ∧ (ofListings xs).rule? .block r.name r.address? r.type = some m) ∨
      (∀ x ∈ xs, ¬x.Decides .allow r) ∧ (∀ x ∈ xs, ¬x.Decides .block r) ∧
        (ofListings xs).check r = .noMatch := by
  have haction {a : Action} {m : MatchedRule}
      (h : (ofListings xs).rule? a r.name r.address? r.type = some m) : m.action = a := by
    obtain ⟨-, x, -, line, -, -, -, rfl⟩ := rule?_ofListings h
    rfl
  rw [check_eq]
  cases hallow : (ofListings xs).rule? .allow r.name r.address? r.type with
  | some m => exact .inl ⟨m, rfl, haction hallow, rfl⟩
  | none =>
    have hnone := rule?_eq_none_iff.mp hallow
    cases hblock : (ofListings xs).rule? .block r.name r.address? r.type with
    | some m => exact .inr (.inl ⟨hnone, m, rfl, haction hblock, rfl⟩)
    | none => exact .inr (.inr ⟨hnone, rule?_eq_none_iff.mp hblock, rfl⟩)

/-- The action of a verdict: allowing before blocking, in whatever filters. -/
theorem action?_check (xs : List Listing) (r : FilterRequest) :
    (((ofListings xs).check r).action? = some .allow ↔ ∃ x ∈ xs, x.Decides .allow r) ∧
      (((ofListings xs).check r).action? = some .block ↔
        (¬∃ x ∈ xs, x.Decides .allow r) ∧ ∃ x ∈ xs, x.Decides .block r) := by
  have hsome {a : Action} {m : MatchedRule}
      (h : (ofListings xs).rule? a r.name r.address? r.type = some m) :
      ∃ x ∈ xs, x.Decides a r := by
    obtain ⟨before, x, after, line, rfl, -, hline, -⟩ := rule?_ofListings h
    exact ⟨x, by simp, line, hline⟩
  rcases check_cases xs r with ⟨m, hm, ha, hrule⟩ | ⟨hnone, m, hm, ha, hrule⟩ |
    ⟨hnone, hnone', hm⟩
  · have hthere := hsome hrule
    simp [hm, Verdict.action?, Verdict.rule?, ha, hthere]
  · have hthere := hsome hrule
    have hnot : ¬∃ x ∈ xs, x.Decides .allow r := fun ⟨x, hx, hd⟩ => hnone x hx hd
    simp [hm, Verdict.action?, Verdict.rule?, ha, hthere, hnot]
  · have hnot : ¬∃ x ∈ xs, x.Decides .allow r := fun ⟨x, hx, hd⟩ => hnone x hx hd
    have hnot' : ¬∃ x ∈ xs, x.Decides .block r := fun ⟨x, hx, hd⟩ => hnone' x hx hd
    simp [hm, Verdict.action?, Verdict.rule?, hnot, hnot']

theorem action?_congr {v w : Verdict} (hallow : v.action? = some .allow ↔ w.action? = some .allow)
    (hblock : v.action? = some .block ↔ w.action? = some .block) : v.action? = w.action? := by
  cases hv : v.action? with
  | none =>
    cases hw : w.action? with
    | none => rfl
    | some a => cases a <;> simp_all
  | some a => cases a <;> simp_all

/-- For any filters, enabled or not and with rules in service or not, and any request: the verdict
allows if a line of an enabled filter allows the request; if none does, it blocks if a line blocks
it; and else no rule matches. The first filter with a line for the action that decides is named,
with the text of such a line. The order of the filters does not matter for the action. -/
theorem allowing_decides_before_blocking (xs : List Listing) (r : FilterRequest) :
    let v := (ofListings xs).check r
    (v.action? = some .allow ↔ ∃ x ∈ xs, x.Decides .allow r) ∧
      (v.action? = some .block ↔
        (¬∃ x ∈ xs, x.Decides .allow r) ∧ ∃ x ∈ xs, x.Decides .block r) ∧
      (v = .noMatch ↔ ∀ action, ¬∃ x ∈ xs, x.Decides action r) ∧
      (∀ m, v = .matched m → ∃ before x after line, xs = before ++ x :: after ∧
        (∀ y ∈ before, ¬y.Decides m.action r) ∧ x.DecidesBy m.action r line ∧
        m = x.ruleOf m.action line) ∧
      ∀ ys : List Listing, ys.Perm xs → ((ofListings ys).check r).action? = v.action? := by
  intro v
  obtain ⟨hallow, hblock⟩ := action?_check xs r
  have hcases := check_cases xs r
  refine ⟨hallow, hblock, ?_, ?_, ?_⟩
  · constructor
    · intro hv action
      rcases hcases with ⟨m, hm, -⟩ | ⟨-, m, hm, -⟩ | ⟨hnone, hnone', -⟩
      · cases hm.symm.trans hv
      · cases hm.symm.trans hv
      · rintro ⟨x, hx, hd⟩
        cases action with
        | allow => exact hnone x hx hd
        | block => exact hnone' x hx hd
    · intro hnone
      cases hv : v with
      | noMatch => rfl
      | matched m =>
        have haction : v.action? = some m.action := by rw [hv]; rfl
        cases ha : m.action with
        | allow => exact absurd (hallow.mp (haction.trans (congrArg some ha))) (hnone .allow)
        | block => exact absurd (hblock.mp (haction.trans (congrArg some ha))).2 (hnone .block)
  · intro m hv
    rcases hcases with ⟨n, hn, ha, hrule⟩ | ⟨-, n, hn, ha, hrule⟩ | ⟨-, -, hn⟩
    · obtain rfl : n = m := Verdict.matched.inj (hn.symm.trans hv)
      exact ha ▸ rule?_ofListings hrule
    · obtain rfl : n = m := Verdict.matched.inj (hn.symm.trans hv)
      exact ha ▸ rule?_ofListings hrule
    · cases hn.symm.trans hv
  · intro ys hperm
    obtain ⟨hallow', hblock'⟩ := action?_check ys r
    have hsame (action : Action) :
        (∃ x ∈ ys, x.Decides action r) ↔ ∃ x ∈ xs, x.Decides action r :=
      exists_congr fun x => and_congr_left fun _ => hperm.mem_iff
    apply action?_congr
    · rw [hallow', hallow, hsame]
    · rw [hblock', hblock, hsame, hsame]

end FilterIndex
end DnsFilter
