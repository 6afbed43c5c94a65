import Mathlib.Tactic.SplitIfs
import DnsFilter.Data.Fields
/-!
# Looking up fields

Where the names of the fields differ, a field is found under its name or missing as a whole.
-/
namespace DnsFilter.Value

namespace Fields

def ofParts (parts : List (String × Option Value)) : Fields :=
  parts.flatMap fun p => (p.2.map fun v => (p.1, v)).toList

theorem under_cons (key : String) (v : Value) (fields : Fields) (name : String) :
    under ((key, v) :: fields) [name] =
      if key = name then v :: under fields [name] else under fields [name] := by
  by_cases h : key = name <;> simp [under, h]

theorem under_ofParts_cons (key : String) (part : Option Value)
    (parts : List (String × Option Value)) (name : String) :
    under (ofParts ((key, part) :: parts)) [name] =
      if key = name then part.toList ++ under (ofParts parts) [name]
      else under (ofParts parts) [name] := by
  cases part with
  | none => simp [ofParts]
  | some v =>
    have hcons : ofParts ((key, some v) :: parts) = (key, v) :: ofParts parts := rfl
    rw [hcons, under_cons]
    rfl

theorem under_ofParts_of_notMem {parts : List (String × Option Value)} {name : String}
    (h : name ∉ parts.map (·.1)) : under (ofParts parts) [name] = [] := by
  induction parts with
  | nil => rfl
  | cons p parts ih =>
    obtain ⟨key, part⟩ := p
    rw [List.map_cons, List.mem_cons, not_or] at h
    rw [under_ofParts_cons, if_neg (Ne.symm h.1), ih h.2]

section
variable {parts : List (String × Option Value)} (hnames : (parts.map (·.1)).Nodup)
include hnames

theorem under_ofParts {name : String} {part : Option Value} (h : (name, part) ∈ parts) :
    under (ofParts parts) [name] = part.toList := by
  induction parts with
  | nil => cases h
  | cons p parts ih =>
    obtain ⟨key, first⟩ := p
    rw [List.map_cons, List.nodup_cons] at hnames
    rw [under_ofParts_cons]
    rcases List.mem_cons.mp h with hhead | htail
    · obtain ⟨rfl, rfl⟩ := Prod.mk.inj hhead
      rw [if_pos rfl, under_ofParts_of_notMem hnames.1, List.append_nil]
    · have hne : key ≠ name := by
        rintro rfl
        exact hnames.1 (List.mem_map_of_mem (f := (·.1)) htail)
      rw [if_neg hne, ih hnames.2 htail]

variable {α : Type} {name : String}

theorem required_ofParts {v : Value} (h : (name, some v) ∈ parts) (read : Value → Option α) :
    required (ofParts parts) [name] read = read v := by
  rw [required, under_ofParts hnames h]
  rfl

theorem optional_ofParts {part : Option Value} (h : (name, part) ∈ parts) (default : α)
    (read : Value → Option α) :
    optional (ofParts parts) [name] default read = part.elim (some default) read := by
  rw [optional, under_ofParts hnames h]
  cases part <;> rfl

end

theorem mem_ofParts {parts : List (String × Option Value)} {name : String} {v : Value} :
    (name, v) ∈ ofParts parts ↔ (name, some v) ∈ parts := by
  simp only [ofParts, List.mem_flatMap, Option.mem_toList, Option.map_eq_some_iff, Prod.mk.injEq]
  constructor
  · rintro ⟨⟨name, part⟩, hmem, v, rfl, rfl, rfl⟩
    exact hmem
  · intro hmem
    exact ⟨_, hmem, v, rfl, rfl, rfl⟩

/-! ## What a reader made of a field -/

section
variable {α : Type} {fields : Fields} {names : List String} {read : Value → Option α} {x : α}

theorem exists_of_required (h : required fields names read = some x) : ∃ v, read v = some x := by
  unfold required at h
  split at h
  · exact ⟨_, h⟩
  · cases h

theorem exists_of_optional {default : α} (h : optional fields names default read = some x) :
    x = default ∨ ∃ v, read v = some x := by
  unfold optional at h
  split at h
  · exact .inl (Option.some.inj h).symm
  · exact .inr ⟨_, h⟩
  · cases h

end

end Fields

theorem nat?_lt {v : Value} {limit n : Nat} (h : v.nat? limit = some n) : n < limit := by
  unfold nat? at h
  split at h
  · split_ifs at h with hfits
    obtain rfl := Option.some.inj h
    simp only [Bool.and_eq_true, decide_eq_true_eq] at hfits
    exact hfits.2
  · cases h

theorem optional_nat?_lt {fields : Fields} {names : List String} {default limit n : Nat}
    (h : fields.optional names default (nat? limit) = some n) (hdefault : default < limit) :
    n < limit := by
  rcases Fields.exists_of_optional h with rfl | ⟨v, hv⟩
  · exact hdefault
  · exact nat?_lt hv

theorem exists_of_nullable {α : Type} {v : Value} {read : Value → Option α} {x : α}
    (h : v.nullable? read = some (some x)) : ∃ v, read v = some x := by
  unfold nullable? at h
  split at h
  · cases h
  · obtain ⟨y, hread, hy⟩ := Option.map_eq_some_iff.mp h
    exact ⟨v, hread.trans hy⟩

theorem exists_of_list {α : Type} {v : Value} {read : Value → Option α} {xs : List α}
    (h : v.list? read = some xs) : ∀ x ∈ xs, ∃ v, read v = some x := by
  unfold list? at h
  split at h
  case h_2 => cases h
  case h_1 items =>
    induction items generalizing xs with
    | nil =>
      obtain rfl := Option.some.inj h
      simp
    | cons item items ih =>
      rw [List.mapM_cons] at h
      simp only [Option.bind_eq_bind, Option.bind_eq_some_iff, Option.pure_def,
        Option.some.injEq] at h
      obtain ⟨y, hy, ys, hys, rfl⟩ := h
      exact List.forall_mem_cons.mpr ⟨⟨item, hy⟩, ih hys⟩

theorem list?_map {α : Type} {read : Value → Option α} {write : α → Value} {xs : List α}
    (h : ∀ x ∈ xs, read (write x) = some x) : list? read (list (xs.map write)) = some xs := by
  change (xs.map write).mapM read = some xs
  induction xs with
  | nil => rfl
  | cons x xs ih =>
    obtain ⟨hx, hxs⟩ := List.forall_mem_cons.mp h
    simp [hx, ih hxs]

theorem list?_texts (ss : List String) : list? text? (texts ss) = some ss :=
  list?_map fun _ _ => rfl

theorem nat?_ofNat {n limit : Nat} (h : n < limit) : nat? limit (ofNat n) = some n := by
  simp [nat?, ofNat, h]

end DnsFilter.Value
