import Mathlib.Tactic.SplitIfs
import DnsFilter.Text.Affix
/-!
# Parts of a text that was put together

A text that was put together from parts is cut into these parts again, and a text that is cut
consists of the parts.
-/
namespace DnsFilter.Text

variable {α : Type} [DecidableEq α]

theorem afterPrefix?_append (start s : List α) : afterPrefix? start (start ++ s) = some s := by
  induction start with
  | nil => rfl
  | cons a start ih => simp [afterPrefix?, ih]

theorem afterPrefix?_eq_some_iff {start s rest : List α} :
    afterPrefix? start s = some rest ↔ s = start ++ rest := by
  refine ⟨fun h => ?_, fun h => h ▸ afterPrefix?_append start rest⟩
  induction start generalizing s with
  | nil => exact Option.some.inj h
  | cons a start ih =>
    cases s with
    | nil => cases h
    | cons b s =>
      rw [afterPrefix?] at h
      split_ifs at h with hab
      rw [hab, ih h, List.cons_append]

theorem afterPrefix?_isSome_iff {start s : List α} :
    (afterPrefix? start s).isSome ↔ start <+: s := by
  rw [Option.isSome_iff_exists]
  exact exists_congr fun rest => afterPrefix?_eq_some_iff.trans eq_comm

theorem beforeSuffix?_append (s tail : List α) : beforeSuffix? tail (s ++ tail) = some s := by
  rw [beforeSuffix?, List.reverse_append, afterPrefix?_append]
  simp

theorem cutAt?_of_notMem {a : α} {s : List α} (h : a ∉ s) : cutAt? a s = none := by
  induction s with
  | nil => rfl
  | cons b s ih =>
    rw [List.mem_cons, not_or] at h
    simp [cutAt?, Ne.symm h.1, ih h.2]

theorem cutAt?_append {a : α} {front : List α} (h : a ∉ front) (back : List α) :
    cutAt? a (front ++ a :: back) = some (front, back) := by
  induction front with
  | nil => simp [cutAt?]
  | cons b front ih =>
    rw [List.mem_cons, not_or] at h
    simp [cutAt?, Ne.symm h.1, ih h.2]

theorem notMem_of_cutAt?_eq_none {a : α} {s : List α} (h : cutAt? a s = none) : a ∉ s := by
  intro hmem
  obtain ⟨front, back, rfl, hfront⟩ := List.eq_append_cons_of_mem hmem
  rw [cutAt?_append hfront] at h
  cases h

theorem cutAt?_eq_some {a : α} {s front back : List α} (h : cutAt? a s = some (front, back)) :
    a ∉ front ∧ s = front ++ a :: back := by
  induction s generalizing front with
  | nil => cases h
  | cons b s ih =>
    rw [cutAt?] at h
    split_ifs at h with hb
    · obtain ⟨rfl, rfl⟩ := Prod.mk.inj (Option.some.inj h)
      exact ⟨List.not_mem_nil, by rw [hb, List.nil_append]⟩
    · obtain ⟨⟨front, rest⟩, hcut, heq⟩ := Option.map_eq_some_iff.mp h
      obtain ⟨rfl, rfl⟩ := Prod.mk.inj heq
      obtain ⟨hfront, rfl⟩ := ih hcut
      exact ⟨List.not_mem_cons_of_ne_of_not_mem (Ne.symm hb) hfront, rfl⟩

theorem cutAtLast?_of_notMem {a : α} {s : List α} (h : a ∉ s) : cutAtLast? a s = none := by
  rw [cutAtLast?, cutAt?_of_notMem (by simpa using h)]
  rfl

theorem cutAtLast?_append {a : α} {back : List α} (h : a ∉ back) (front : List α) :
    cutAtLast? a (front ++ a :: back) = some (front, back) := by
  have hreverse : (front ++ a :: back).reverse = back.reverse ++ a :: front.reverse := by simp
  rw [cutAtLast?, hreverse, cutAt?_append (by simpa using h)]
  simp

theorem cutAtLast?_eq_some {a : α} {s front back : List α}
    (h : cutAtLast? a s = some (front, back)) : a ∉ back ∧ s = front ++ a :: back := by
  obtain ⟨⟨rest, first⟩, hcut, heq⟩ := Option.map_eq_some_iff.mp h
  obtain ⟨rfl, rfl⟩ := Prod.mk.inj heq
  obtain ⟨hrest, hs⟩ := cutAt?_eq_some hcut
  have hreverse := congrArg List.reverse hs
  exact ⟨by simpa using hrest, by simpa using hreverse⟩

omit [DecidableEq α] in
theorem mem_intersperse {sep l : List α} {parts : List (List α)}
    (h : l ∈ parts.intersperse sep) : l = sep ∨ l ∈ parts := by
  induction parts with
  | nil => cases h
  | cons first rest ih =>
    cases rest with
    | nil => exact .inr h
    | cons second rest =>
      rw [List.intersperse_cons_cons, List.mem_cons, List.mem_cons] at h
      rcases h with rfl | rfl | hmore
      · exact .inr List.mem_cons_self
      · exact .inl rfl
      · exact (ih hmore).imp_right (List.mem_cons_of_mem first)

omit [DecidableEq α] in
theorem mem_intercalate {sep : List α} {parts : List (List α)} {a : α}
    (h : a ∈ sep.intercalate parts) : a ∈ sep ∨ ∃ part ∈ parts, a ∈ part := by
  obtain ⟨l, hl, ha⟩ := List.mem_flatten.mp h
  rcases mem_intersperse hl with rfl | hpart
  · exact .inl ha
  · exact .inr ⟨l, hpart, ha⟩

end DnsFilter.Text
