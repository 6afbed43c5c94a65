import Mathlib.Data.List.Forall2
import Mathlib.Data.List.TakeWhile
import DnsFilter.Proofs.Dns.HostName
import DnsFilter.Rules.RuleReader
/-!
# What is read from a line

Whatever a line says, the rule that is read from it names hosts as requests do, and is limited to the
record types that its modifiers name, all of them and in their order. A line whose modifiers say
anything else gives no rule.
-/
namespace DnsFilter

open Text

/-- A target in the form in which requests are compared with it. A domain with everything below it
does not read as an address. -/
def Target.IsClean : Target → Prop
  | .exact host => HostName.IsNormal host
  | .subtree domain => HostName.IsNormal domain ∧ RuleLine.address? domain = none
  | .wildcard domain => HostName.IsNormal domain
  | .part text => text ≠ [] ∧ '*' ∉ text ∧ ∀ c ∈ text, isUpper c = false
  | .regex pattern => pattern ≠ []
  | .address _ => True

namespace RuleLine

/-! ## Targets -/

theorem named?_eq_some {target : List Char → Target} {name : List Char} {t : Target}
    (h : named? target name = some t) : HostName.isWellFormed name = true ∧ t = target name := by
  rw [named?] at h
  split at h
  next hname => exact ⟨hname, (Option.some.inj h).symm⟩
  next => cases h

theorem named?_lower {target : List Char → Target} {name : List Char} {t : Target}
    (h : named? target (lower name) = some t) :
    HostName.IsNormal (lower name) ∧ t = target (lower name) := by
  obtain ⟨hname, rfl⟩ := named?_eq_some h
  exact ⟨HostName.isNormal_of_noUpper hname fun c hc => not_isUpper_of_mem_lower hc, rfl⟩

theorem anchored?_isClean {name : List Char} {t : Target}
    (h : anchored? (lower name) = some t) : t.IsClean := by
  rw [anchored?] at h
  split at h
  next => cases h; trivial
  next haddress =>
    split at h
    next domain hdomain =>
      obtain ⟨hname, rfl⟩ := named?_eq_some h
      refine HostName.isNormal_of_noUpper hname fun c hc => not_isUpper_of_mem_lower (s := name) ?_
      rw [afterPrefix?_eq_some_iff.mp hdomain]
      exact List.mem_append_right _ hc
    next =>
      obtain ⟨hname, rfl⟩ := named?_lower h
      exact ⟨hname, haddress⟩

theorem target?_isClean {action : Action} {place : List Char} {t : Target}
    (h : target? action place = some t) : t.IsClean := by
  rw [target?] at h
  split at h
  next => exact anchored?_isClean h
  split at h
  next hpart =>
    -- at least one character is left between the asterisks
    simp only [Bool.and_eq_true, decide_eq_true_eq] at hpart
    dsimp only at h
    split at h
    next => cases h
    next hstar =>
      cases h
      refine ⟨?_, by simpa using hstar, fun c hc => not_isUpper_of_mem_lower hc⟩
      have hlen : 2 < place.length := hpart.1.1
      rw [← List.length_pos_iff, lower, List.length_map, List.length_dropLast, List.length_drop]
      omega
  split at h
  next => obtain ⟨hname, rfl⟩ := named?_lower h; exact hname
  split at h
  next => cases h
  next =>
    split at h
    next => cases h; trivial
    next => obtain ⟨hname, rfl⟩ := named?_lower h; exact hname
  next =>
    split at h
    next => obtain ⟨hname, rfl⟩ := named?_lower h; exact hname
    next => cases h

/-! ## Record types -/

def IsName (name : List Char) (type : RecordType) : Prop := upper (trim name) = type.name.toList

def IsModifier (modifier : List Char) (types : List RecordType) : Prop :=
  ∃ names, trim modifier = "dnstype=".toList ++ names ∧
    List.Forall₂ IsName (names.splitOn '|') types

/-- Modifiers behind their dollar sign, with the types that they name. -/
def Lists (carried : List Char) (types : List RecordType) : Prop :=
  ∃ modifiers each, carried = '$' :: modifiers ∧
    List.Forall₂ IsModifier (modifiers.splitOn ',') each ∧ types = each.flatten

theorem recordType?_eq_some_iff {name : List Char} {type : RecordType} :
    recordType? name = some type ↔ IsName name type := by
  have hdistinct : ∀ t ∈ RecordType.all, ∀ u ∈ RecordType.all, t.name = u.name → t = u := by decide
  have hall : ∀ t, t ∈ RecordType.all := by
    intro t
    cases t <;> decide
  rw [recordType?, RecordType.parse?, RecordType.named?, String.toList_ofList, IsName]
  constructor
  · intro h
    have hname := List.find?_some h
    rw [beq_iff_eq] at hname
    rw [hname, String.toList_ofList]
  · intro h
    rw [h, String.ofList_toList]
    cases hfind : RecordType.all.find? (·.name == type.name) with
    | none =>
      rw [List.find?_eq_none] at hfind
      exact absurd (beq_self_eq_true _) (hfind type (hall type))
    | some t =>
      have hname := List.find?_some hfind
      rw [beq_iff_eq] at hname
      rw [hdistinct t (hall t) type (hall type) hname]

theorem mapM_eq_some_iff {α β : Type} {f : α → Option β} {as : List α} {bs : List β} :
    as.mapM f = some bs ↔ List.Forall₂ (fun a b => f a = some b) as bs := by
  induction as generalizing bs with
  | nil => simp [eq_comm]
  | cons a as ih =>
    simp only [List.mapM_cons, Option.bind_eq_bind, Option.bind_eq_some_iff, Option.pure_def,
      Option.some.injEq, ih]
    constructor
    · rintro ⟨b, hb, rest, hrest, rfl⟩
      exact .cons hb hrest
    · rintro (_ | ⟨hb, hrest⟩)
      exact ⟨_, hb, _, hrest, rfl⟩

theorem modifierTypes?_eq_some_iff {modifier : List Char} {types : List RecordType} :
    modifierTypes? modifier = some types ↔ IsModifier modifier types := by
  simp only [modifierTypes?, IsModifier, Option.bind_eq_bind, Option.bind_eq_some_iff,
    afterPrefix?_eq_some_iff, mapM_eq_some_iff, recordType?_eq_some_iff]

theorem types?_eq_some_iff {modifiers : List Char} {types : List RecordType} :
    types? modifiers = some types ↔ Lists ('$' :: modifiers) types := by
  simp only [types?, Lists, Option.map_eq_some_iff, mapM_eq_some_iff, modifierTypes?_eq_some_iff,
    List.cons.injEq, true_and]
  constructor
  · rintro ⟨each, heach, rfl⟩
    exact ⟨modifiers, each, rfl, heach, rfl⟩
  · rintro ⟨_, each, rfl, heach, rfl⟩
    exact ⟨each, heach, rfl⟩

/-- As every modifier names a type at least. -/
theorem Lists.ne_nil {carried : List Char} {types : List RecordType} (h : Lists carried types) :
    types ≠ [] := by
  obtain ⟨modifiers, each, -, hall, rfl⟩ := h
  obtain ⟨modifier, rest, hsplit⟩ :=
    List.exists_cons_of_ne_nil (List.splitOn_ne_nil ',' modifiers)
  rw [hsplit, List.forall₂_cons_left_iff] at hall
  obtain ⟨types, each, ⟨names, -, hnames⟩, -, rfl⟩ := hall
  obtain ⟨name, more, hsplit⟩ := List.exists_cons_of_ne_nil (List.splitOn_ne_nil '|' names)
  rw [hsplit, List.forall₂_cons_left_iff] at hnames
  obtain ⟨type, types, -, -, rfl⟩ := hnames
  simp

/-! ## What a rule says behind its target -/

def bodyOf (s : List Char) : List Char := (afterPrefix? ['@', '@'] s).getD s

/-- The modifiers of a rule: everything from the first dollar sign on, but behind a regular
expression everything after its last slash, without white space around it. -/
def carried (body : List Char) : List Char :=
  if body.head? = some '/' then trim (body.reverse.takeWhile (· ≠ '/')).reverse
  else body.dropWhile (· ≠ '$')

theorem carried_plain {place : List Char} (hplain : place.head? ≠ some '/') (hdollar : '$' ∉ place)
    (modifiers : List Char) : carried (place ++ '$' :: modifiers) = '$' :: modifiers := by
  have hhead : (place ++ '$' :: modifiers).head? ≠ some '/' := by
    cases place with
    | nil => simp
    | cons c place => exact hplain
  rw [carried, if_neg hhead]
  refine dropWhile_run ?_ (stops_cons (by decide) modifiers)
  intro c hc
  simpa using ne_of_mem_of_not_mem hc hdollar

theorem carried_nothing {body : List Char} (hplain : body.head? ≠ some '/') (hdollar : '$' ∉ body) :
    carried body = [] := by
  rw [carried, if_neg hplain, List.dropWhile_eq_nil_iff]
  intro c hc
  simpa using ne_of_mem_of_not_mem hc hdollar

theorem carried_regex (pattern : List Char) {rest : List Char} (hslash : '/' ∉ rest) :
    carried ('/' :: (pattern ++ '/' :: rest)) = trim rest := by
  have hreverse : ('/' :: (pattern ++ '/' :: rest)).reverse =
      rest.reverse ++ '/' :: (pattern.reverse ++ ['/']) := by simp
  have hhead : ('/' :: (pattern ++ '/' :: rest)).head? = some '/' := rfl
  rw [carried, if_pos hhead, hreverse, takeWhile_run ?_ (stops_cons (by decide) _),
    List.reverse_reverse]
  intro c hc
  simpa using ne_of_mem_of_not_mem (List.mem_reverse.mp hc) hslash

/-- A rule as its line says: with the mark of its action, a clean target, and the record types that
the modifiers list, if there are any. -/
structure IsReadAs (action : Action) (body : List Char) (r : Rule) : Prop where
  action_eq : r.action = action
  target : r.target.IsClean
  types : ∀ types, r.types = some types → Lists (carried body) types
  unlimited : r.types = none → carried body = []

theorem isReadAs_of_regexRule? {action : Action} {inner : List Char} {r : Rule}
    (h : regexRule? action ('/' :: inner) = some r) : IsReadAs action ('/' :: inner) r := by
  obtain ⟨⟨pattern, rest⟩, hcut, hrule⟩ := Option.bind_eq_some_iff.mp h
  obtain ⟨hslash, hinner⟩ := cutAtLast?_eq_some hcut
  obtain rfl : inner = pattern ++ '/' :: rest := hinner
  have hcarried := carried_regex pattern hslash
  dsimp only at hrule
  split at hrule
  next => cases hrule
  next hpattern =>
    split at hrule
    next hrest =>
      cases hrule
      exact ⟨rfl, hpattern, nofun, fun _ => hcarried.trans hrest⟩
    next modifiers hrest =>
      obtain ⟨types, htypes, hrule⟩ := Option.bind_eq_some_iff.mp hrule
      cases hrule
      refine ⟨rfl, hpattern, fun _ heq => ?_, nofun⟩
      cases heq
      rw [hcarried, hrest]
      exact types?_eq_some_iff.mp htypes
    next => cases hrule

theorem isReadAs_of_plainRule? {action : Action} {body : List Char}
    (hplain : body.head? ≠ some '/') {r : Rule} (h : plainRule? action body = some r) :
    IsReadAs action body r := by
  rw [plainRule?] at h
  split at h
  next hcut =>
    obtain ⟨target, htarget, rfl⟩ := Option.map_eq_some_iff.mp h
    refine ⟨rfl, target?_isClean htarget, nofun, fun _ => ?_⟩
    exact carried_nothing hplain (notMem_of_cutAt?_eq_none hcut)
  next place modifiers hcut =>
    obtain ⟨types, htypes, h⟩ := Option.bind_eq_some_iff.mp h
    obtain ⟨target, htarget, h⟩ := Option.bind_eq_some_iff.mp h
    cases h
    obtain ⟨hdollar, rfl⟩ := cutAt?_eq_some hcut
    refine ⟨rfl, target?_isClean htarget, fun _ heq => ?_, nofun⟩
    cases heq
    have hplace : place.head? ≠ some '/' := by
      cases place with
      | nil => simp
      | cons c place => exact hplain
    rw [carried_plain hplace hdollar]
    exact types?_eq_some_iff.mp htypes

theorem isReadAs_of_rule? {line : List Char} {r : Rule} (h : rule? line = some r) :
    ∃ action, (action = .allow ↔ ['@', '@'] <+: line) ∧ IsReadAs action (bodyOf line) r := by
  have hbody {action : Action} {body : List Char}
      (h : (if body.head? = some '/' then regexRule? action body
        else plainRule? action body) = some r) : IsReadAs action body r := by
    split at h
    next hslash =>
      obtain ⟨inner, rfl⟩ : ∃ inner, body = '/' :: inner := List.head?_eq_some_iff.mp hslash
      exact isReadAs_of_regexRule? h
    next hplain => exact isReadAs_of_plainRule? hplain h
  rw [rule?] at h
  rw [bodyOf, ← afterPrefix?_isSome_iff]
  cases hmark : afterPrefix? ['@', '@'] line with
  | none =>
    rw [hmark] at h
    exact ⟨.block, by simp, hbody h⟩
  | some body =>
    rw [hmark] at h
    exact ⟨.allow, by simp, hbody h⟩

/-! ## Lines -/

theorem parse_eq_empty_iff {line : List Char} :
    parse line = .empty ↔
      trim line = [] ∨ (trim line).head? = some '#' ∨ (trim line).head? = some '!' := by
  have hempty : (trim line = [] || isComment (trim line)) = true ↔
      trim line = [] ∨ (trim line).head? = some '#' ∨ (trim line).head? = some '!' := by
    simp [isComment]
  rw [← hempty, parse]
  split
  next h => exact iff_of_true rfl h
  next h =>
    split
    next => exact iff_of_false nofun h
    next => exact iff_of_false nofun h

theorem rule?_of_parse {line : List Char} {r : Rule} (h : parse line = .rule r) :
    rule? (trim line) = some r := by
  rw [parse] at h
  split at h
  next => cases h
  next =>
    split at h
    next r' hrule => cases h; exact hrule
    next => cases h

theorem parse_isClean {line : List Char} {r : Rule} (h : parse line = .rule r) :
    r.target.IsClean := by
  obtain ⟨action, -, hread⟩ := isReadAs_of_rule? (rule?_of_parse h)
  exact hread.target

/-- What a line is read as: nothing if it is blank or a comment. A rule allows if and only if it has
the mark for it, its target is clean, and it is limited to the types that its modifiers list. No
rule comes of modifiers that do not list any. -/
theorem parse_is_faithful (line : List Char) :
    (parse line = .empty ↔
      trim line = [] ∨ (trim line).head? = some '#' ∨ (trim line).head? = some '!') ∧
    (∀ r, parse line = .rule r →
      (r.action = .allow ↔ ['@', '@'] <+: trim line) ∧ r.target.IsClean ∧
      (carried (bodyOf (trim line)) ≠ [] →
        ∃ types, r.types = some types ∧ types ≠ [] ∧ Lists (carried (bodyOf (trim line))) types) ∧
      (carried (bodyOf (trim line)) = [] → r.types = none)) ∧
    (parse line ≠ .empty → carried (bodyOf (trim line)) ≠ [] →
      (¬∃ types, Lists (carried (bodyOf (trim line))) types) → parse line = .invalid) := by
  have hcarrying {r : Rule} (h : parse line = .rule r)
      (hne : carried (bodyOf (trim line)) ≠ []) :
      ∃ types, r.types = some types ∧ types ≠ [] ∧
        Lists (carried (bodyOf (trim line))) types := by
    obtain ⟨action, -, hread⟩ := isReadAs_of_rule? (rule?_of_parse h)
    cases htypes : r.types with
    | none => exact absurd (hread.unlimited htypes) hne
    | some types => exact ⟨types, rfl, (hread.types types htypes).ne_nil, hread.types types htypes⟩
  refine ⟨parse_eq_empty_iff, ?rule, ?invalid⟩
  case rule =>
    intro r h
    obtain ⟨action, haction, hread⟩ := isReadAs_of_rule? (rule?_of_parse h)
    refine ⟨by rw [hread.action_eq, haction], hread.target, hcarrying h, fun hnothing => ?_⟩
    by_contra hsome
    obtain ⟨types, htypes⟩ := Option.ne_none_iff_exists'.mp hsome
    obtain ⟨modifiers, -, heq, -⟩ := hread.types types htypes
    rw [hnothing] at heq
    cases heq
  case invalid =>
    intro hsaid hne hnot
    cases hparse : parse line with
    | empty => exact absurd hparse hsaid
    | invalid => rfl
    | rule r =>
      obtain ⟨types, -, -, hlists⟩ := hcarrying hparse hne
      exact absurd ⟨types, hlists⟩ hnot

/-- An exception for two record types, and a modifier behind a regular expression that is not for
record types. -/
theorem limited_rule_and_other_modifier :
    parse "@@||Ads.Example.com^$dnstype=a| AAAA".toList =
        .rule ⟨.allow, .subtree "ads.example.com".toList, some [.a, .aaaa]⟩ ∧
      (Target.subtree "ads.example.com".toList).IsClean ∧
      Lists "$dnstype=a| AAAA".toList [.a, .aaaa] ∧
      parse "/ads[0-9]+/ $dnstype=A,third-party".toList = .invalid := by
  have hparse : parse "@@||Ads.Example.com^$dnstype=a| AAAA".toList =
      .rule ⟨.allow, .subtree "ads.example.com".toList, some [.a, .aaaa]⟩ := by decide +kernel
  have hcarried : carried (bodyOf (trim "@@||Ads.Example.com^$dnstype=a| AAAA".toList)) =
      "$dnstype=a| AAAA".toList := by decide +kernel
  obtain ⟨-, hclean, hlimited, -⟩ := (parse_is_faithful _).2.1 _ hparse
  obtain ⟨types, htypes, -, hlists⟩ := hlimited (by rw [hcarried]; decide)
  obtain rfl := Option.some.inj htypes
  refine ⟨hparse, hclean, hcarried ▸ hlists, ?_⟩
  have hother : carried (bodyOf (trim "/ads[0-9]+/ $dnstype=A,third-party".toList)) =
      '$' :: "dnstype=A,third-party".toList := by decide +kernel
  refine (parse_is_faithful _).2.2 (by decide +kernel) (by rw [hother]; decide) ?_
  rw [hother]
  rintro ⟨types, hlists⟩
  have hread := types?_eq_some_iff.mpr hlists
  rw [show types? "dnstype=A,third-party".toList = none by decide +kernel] at hread
  cases hread

end RuleLine
end DnsFilter
