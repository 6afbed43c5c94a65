import Mathlib.Data.List.Basic
import Mathlib.Tactic.SplitIfs
import DnsFilter.Log.Buffer
/-!
# Rings as bounded queues

A ring stands for the list of its elements, the oldest first: its slots hold them one after the
other from its head on, and all other slots are empty. Appending drops the oldest element of a full
ring, and a change of the capacity drops the oldest elements that no longer fit.
-/
namespace DnsFilter.Ring

variable {α : Type}

structure Holds (r : Ring α) (l : List α) : Prop where
  head_lt : r.head < r.capacity
  length_eq : r.length = l.length
  length_le : l.length ≤ r.capacity
  slots : ∀ i < r.capacity, r.slots[r.slot i]? = some l[i]?

theorem slot_eq {r : Ring α} (hh : r.head < r.capacity) {i : Nat} (hi : i < r.capacity) :
    r.slot i = if r.head + i < r.capacity then r.head + i else r.head + i - r.capacity := by
  unfold slot
  split_ifs with h
  · exact Nat.mod_eq_of_lt h
  · rw [Nat.mod_eq_sub_mod (by omega), Nat.mod_eq_of_lt (by omega)]

theorem slot_lt {r : Ring α} (hh : r.head < r.capacity) (i : Nat) : r.slot i < r.capacity :=
  Nat.mod_lt _ (by omega)

theorem slot_ne {r : Ring α} (hh : r.head < r.capacity) {i j : Nat} (hi : i < r.capacity)
    (hj : j < r.capacity) (hne : i ≠ j) : r.slot i ≠ r.slot j := by
  rw [slot_eq hh hi, slot_eq hh hj]
  split_ifs <;> omega

theorem filterMap_range (l : List α) : (List.range l.length).filterMap (fun i => l[i]?) = l := by
  induction l with
  | nil => rfl
  | cons a l ih =>
    rw [List.length_cons, List.range_succ_eq_map, List.filterMap_cons, List.filterMap_map]
    simpa [Function.comp_def] using ih

theorem toList_eq {r : Ring α} {l : List α} (h : r.Holds l) : r.toList = l := by
  have hslots : r.toList = (List.range l.length).filterMap (fun i => l[i]?) := by
    rw [toList, h.length_eq]
    refine List.filterMap_congr fun i hi => ?_
    have hlt : i < r.capacity := Nat.lt_of_lt_of_le (List.mem_range.mp hi) h.length_le
    rw [h.slots i hlt, Option.join_some]
  rw [hslots, filterMap_range]

theorem capacity_ofCapacity (n : Nat) : (ofCapacity n : Ring α).capacity = max n 1 := by
  simp [ofCapacity, capacity]

theorem ofCapacity_holds (n : Nat) : (ofCapacity n : Ring α).Holds [] := by
  have hc : (ofCapacity n : Ring α).capacity = max n 1 := capacity_ofCapacity n
  constructor
  · rw [hc]; exact Nat.lt_of_lt_of_le Nat.zero_lt_one (Nat.le_max_right n 1)
  · rfl
  · exact Nat.zero_le _
  · intro i hi
    have hs : (ofCapacity n : Ring α).slot i < max n 1 := by
      rw [slot, hc]
      exact Nat.mod_lt _ (by omega)
    have hslots : (ofCapacity n : Ring α).slots = Array.replicate (max n 1) none := rfl
    rw [hslots, Array.getElem?_replicate, if_pos hs]
    rfl

theorem capacity_clear (r : Ring α) : r.clear.capacity = r.capacity := by
  simp [clear, capacity]

theorem clear_holds {r : Ring α} {l : List α} (h : r.Holds l) : r.clear.Holds [] := by
  have hc := capacity_clear r
  have hpos : 0 < r.capacity := Nat.lt_of_le_of_lt (Nat.zero_le _) h.head_lt
  constructor
  · rw [hc]; exact hpos
  · rfl
  · exact Nat.zero_le _
  · intro i hi
    have hs : r.clear.slot i < r.capacity := by
      rw [slot, hc]
      exact Nat.mod_lt _ hpos
    have hslots : r.clear.slots = Array.replicate r.capacity none := rfl
    rw [hslots, Array.getElem?_replicate, if_pos hs]
    rfl

theorem capacity_append (r : Ring α) (a : α) : (r.append a).1.capacity = r.capacity := by
  unfold append
  split_ifs <;> simp [capacity]

theorem append_holds_of_lt {r : Ring α} {l : List α} (h : r.Holds l) (hl : l.length < r.capacity)
    (a : α) : (r.append a).1.Holds (l ++ [a]) ∧ (r.append a).2 = none := by
  have happ : r.append a =
      (⟨r.slots.setIfInBounds (r.slot l.length) (some a), r.head, l.length + 1⟩, none) := by
    rw [append, h.length_eq, if_pos hl]
  have hc := capacity_append r a
  rw [happ] at hc ⊢
  refine ⟨⟨hc ▸ h.head_lt, by simp, by simp only [hc, List.length_append]; exact hl, ?_⟩, rfl⟩
  intro i hi
  rw [hc] at hi
  have hslot : slot ⟨r.slots.setIfInBounds (r.slot l.length) (some a), r.head, l.length + 1⟩ i =
      r.slot i := by simp [slot, capacity]
  rw [hslot]
  by_cases he : i = l.length
  · subst he
    have hlt : r.slot l.length < r.slots.size := slot_lt h.head_lt l.length
    simp [hlt]
  · rw [Array.getElem?_setIfInBounds_ne (slot_ne h.head_lt hl hi (Ne.symm he)), h.slots i hi,
      List.getElem?_append]
    split_ifs with hlt
    · rfl
    · have hlong : l.length < i := by omega
      simp [List.getElem?_eq_none (Nat.le_of_lt hlong), Nat.sub_ne_zero_of_lt hlong]

/-- A full ring gives up its oldest element for the new one. -/
theorem append_holds_of_full {r : Ring α} {l : List α} (h : r.Holds l) (hl : l.length = r.capacity)
    (a : α) : (r.append a).1.Holds (l.tail ++ [a]) ∧ (r.append a).2 = l.head? := by
  have hpos : 0 < r.capacity := Nat.lt_of_le_of_lt (Nat.zero_le _) h.head_lt
  have hhead : r.slot 0 = r.head := by rw [slot, Nat.add_zero, Nat.mod_eq_of_lt h.head_lt]
  have happ : r.append a =
      (⟨r.slots.setIfInBounds r.head (some a), (r.head + 1) % r.capacity, l.length⟩,
        l.head?) := by
    rw [append, h.length_eq, if_neg (by omega)]
    have := h.slots 0 hpos
    rw [hhead] at this
    rw [this, Option.join_some, List.head?_eq_getElem?]
  have hc := capacity_append r a
  rw [happ] at hc ⊢
  refine ⟨⟨?_, ?_, ?_, ?_⟩, rfl⟩
  · rw [hc]; exact Nat.mod_lt _ hpos
  · simp only [List.length_append, List.length_tail, List.length_singleton]
    omega
  · simp only [hc, List.length_append, List.length_tail, List.length_singleton]
    omega
  · intro i hi
    rw [hc] at hi
    have hslot : slot ⟨r.slots.setIfInBounds r.head (some a), (r.head + 1) % r.capacity,
        l.length⟩ i = (r.head + 1 + i) % r.capacity := by simp [slot, capacity]
    rw [hslot]
    by_cases he : i + 1 < r.capacity
    · -- the element behind the next one moves up by one place
      have hnext : (r.head + 1 + i) % r.capacity = r.slot (i + 1) := by
        rw [slot, Nat.add_assoc, Nat.add_comm 1 i]
      have hne : r.head ≠ r.slot (i + 1) := hhead ▸ slot_ne h.head_lt hpos he (by omega)
      rw [hnext, Array.getElem?_setIfInBounds_ne hne, h.slots _ he,
        List.getElem?_append_left (by simp only [List.length_tail]; omega), List.getElem?_tail]
    · have hlast : (r.head + 1 + i) % r.capacity = r.head := by
        have : r.head + 1 + i = r.head + r.capacity := by omega
        rw [this, Nat.add_mod_right, Nat.mod_eq_of_lt h.head_lt]
      have hplace : i = l.tail.length := by simp only [List.length_tail]; omega
      have hlt : r.head < r.slots.size := h.head_lt
      rw [hlast, hplace]
      simp [hlt]

/-- An appended element comes last, and what no longer fits is given up in front. -/
theorem append_holds {r : Ring α} {l : List α} (h : r.Holds l) (a : α) :
    (r.append a).1.Holds ((l ++ [a]).drop (l.length + 1 - r.capacity)) ∧
      (r.append a).2.toList = l.take (l.length + 1 - r.capacity) := by
  have hpos : 0 < r.capacity := Nat.lt_of_le_of_lt (Nat.zero_le _) h.head_lt
  by_cases hl : l.length < r.capacity
  · obtain ⟨hholds, hnone⟩ := append_holds_of_lt h hl a
    have hz : l.length + 1 - r.capacity = 0 := by omega
    rw [hz, hnone]
    exact ⟨hholds, rfl⟩
  · have hfull : l.length = r.capacity := Nat.le_antisymm h.length_le (by omega)
    obtain ⟨hholds, hhead⟩ := append_holds_of_full h hfull a
    have hone : l.length + 1 - r.capacity = 1 := by omega
    obtain ⟨b, l, rfl⟩ := List.exists_cons_of_length_pos (hfull ▸ hpos)
    rw [hone, hhead]
    exact ⟨hholds, rfl⟩

theorem extend_holds {r : Ring α} {l : List α} (h : r.Holds l) (m : List α) :
    (r.extend m).Holds ((l ++ m).drop ((l ++ m).length - r.capacity)) ∧
      (r.extend m).capacity = r.capacity := by
  induction m generalizing r l with
  | nil =>
    have hz : l.length - r.capacity = 0 := Nat.sub_eq_zero_of_le h.length_le
    simpa [extend, hz] using h
  | cons a m ih =>
    obtain ⟨hholds, hcap⟩ := ih (append_holds h a).1
    rw [capacity_append] at hholds hcap
    refine ⟨?_, hcap⟩
    have hlist : (l ++ [a]).drop (l.length + 1 - r.capacity) ++ m =
        (l ++ a :: m).drop (l.length + 1 - r.capacity) := by
      rw [← List.drop_append_of_le_length (by simp)]
      simp
    have hcount : l.length + 1 - r.capacity +
        (((l ++ a :: m).drop (l.length + 1 - r.capacity)).length - r.capacity) =
          (l ++ a :: m).length - r.capacity := by
      simp only [List.length_drop, List.length_append, List.length_cons]
      omega
    rw [hlist, List.drop_drop, hcount] at hholds
    exact hholds

theorem resize_holds {r : Ring α} {l : List α} (h : r.Holds l) (n : Nat) :
    (r.resize n).Holds (l.drop (l.length - max n 1)) ∧ (r.resize n).capacity = max n 1 := by
  have hempty : (ofCapacity n : Ring α).Holds [] := ofCapacity_holds n
  have hextend := extend_holds hempty l
  rw [capacity_ofCapacity] at hextend
  rw [resize, toList_eq h]
  exact hextend

/-- A ring that stands for some list, which then is the list of its elements. -/
def IsSound (r : Ring α) : Prop := r.Holds r.toList

theorem Holds.isSound {r : Ring α} {l : List α} (h : r.Holds l) : r.IsSound := by
  rw [IsSound, toList_eq h]; exact h

theorem toList_clear {r : Ring α} (h : r.IsSound) : r.clear.toList = [] := toList_eq (clear_holds h)

/-- Nothing but the element that an append gives up is lost from a ring. -/
theorem toList_append {r : Ring α} (h : r.IsSound) (a : α) :
    (r.append a).2.toList ++ (r.append a).1.toList = r.toList ++ [a] := by
  obtain ⟨hholds, hout⟩ := append_holds h a
  have hpos : 0 < r.capacity := Nat.lt_of_le_of_lt (Nat.zero_le _) h.head_lt
  have hle : r.toList.length + 1 - r.capacity ≤ r.toList.length := by omega
  rw [toList_eq hholds, hout, ← List.take_append_of_le_length hle, List.take_append_drop]

/-- Nothing but the oldest elements that no longer fit is lost with a change of the capacity. -/
theorem toList_resize {r : Ring α} (h : r.IsSound) {n : Nat} (hn : 1 ≤ n) :
    r.toList.take (r.length - n) ++ (r.resize n).toList = r.toList := by
  rw [toList_eq (resize_holds h n).1, ← h.length_eq, Nat.max_eq_left hn, List.take_append_drop]

end DnsFilter.Ring
