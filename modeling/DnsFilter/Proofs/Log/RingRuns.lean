import DnsFilter.Proofs.Log.Ring
/-!
# Runs of a ring

Whatever is done to a ring, it answers as a queue of bounded length does. The operations are also
given in a form that reads and writes one slot after the other and fails at a slot that is not there
or at a remainder by zero. In a run from an empty ring this never happens, and both forms agree.
-/
namespace DnsFilter

inductive QueueOp (α : Type)
  | append (a : α)
  | drain
  | clear
  | resize (capacity : Nat)

inductive QueueAnswer (α : Type)
  /-- The element that was dropped for a new one, if there was one. -/
  | dropped (a : Option α)
  | taken (elements : List α)
  | done
  deriving DecidableEq

namespace QueueOp

variable {α σ : Type}

def run (step : σ → QueueOp α → σ × QueueAnswer α) (s : σ) :
    List (QueueOp α) → σ × List (QueueAnswer α)
  | [] => (s, [])
  | op :: ops =>
    let after := step s op
    let rest := run step after.1 ops
    (rest.1, after.2 :: rest.2)

end QueueOp

/-- A list of elements, the oldest first, that is never longer than its capacity. -/
structure BoundedQueue (α : Type) where
  capacity : Nat
  elements : List α

namespace BoundedQueue

variable {α : Type}

def ofCapacity (capacity : Nat) : BoundedQueue α := ⟨max capacity 1, []⟩

def excess (capacity : Nat) (elements : List α) : Nat := elements.length - capacity

/-- A new element comes last. What is then too much is dropped in front. -/
def perform (q : BoundedQueue α) : QueueOp α → BoundedQueue α × QueueAnswer α
  | .append a =>
    let all := q.elements ++ [a]
    ({ q with elements := all.drop (excess q.capacity all) },
      .dropped (all.take (excess q.capacity all)).head?)
  | .drain => ({ q with elements := [] }, .taken q.elements)
  | .clear => ({ q with elements := [] }, .done)
  | .resize n => (⟨max n 1, q.elements.drop (excess (max n 1) q.elements)⟩, .done)

end BoundedQueue

namespace Ring

variable {α : Type}

def perform (r : Ring α) : QueueOp α → Ring α × QueueAnswer α
  | .append a => ((r.append a).1, .dropped (r.append a).2)
  | .drain => (r.drain.1, .taken r.drain.2)
  | .clear => (r.clear, .done)
  | .resize n => (r.resize n, .done)

/-! ## Slot by slot -/

def slot? (r : Ring α) (i : Nat) : Option Nat := if r.capacity = 0 then none else some (r.slot i)

def write? (slots : Array (Option α)) (j : Nat) (a : Option α) : Option (Array (Option α)) :=
  if j < slots.size then some (slots.setIfInBounds j a) else none

def append? (r : Ring α) (a : α) : Option (Ring α × Option α) :=
  if r.length < r.capacity then do
    let tail ← r.slot? r.length
    let slots ← write? r.slots tail (some a)
    some (⟨slots, r.head, r.length + 1⟩, none)
  else do
    let dropped ← r.slots[r.head]?
    let slots ← write? r.slots r.head (some a)
    let head ← r.slot? 1
    some (⟨slots, head, r.length⟩, dropped)

/-- The elements at some places, in the order of the places. -/
def visit? (r : Ring α) : List Nat → Option (List α)
  | [] => some []
  | i :: places => do
    let j ← r.slot? i
    let a ← r.slots[j]?
    let rest ← r.visit? places
    some (a.toList ++ rest)

def take? (r : Ring α) (slots : Array (Option α)) :
    List Nat → Option (Array (Option α) × List α)
  | [] => some (slots, [])
  | i :: places => do
    let j ← r.slot? i
    let a ← slots[j]?
    let slots ← write? slots j none
    let (slots, rest) ← r.take? slots places
    some (slots, a.toList ++ rest)

def drain? (r : Ring α) : Option (Ring α × List α) := do
  let (slots, elements) ← r.take? r.slots (List.range r.length)
  some (⟨slots, 0, 0⟩, elements)

def extend? (r : Ring α) : List α → Option (Ring α)
  | [] => some r
  | a :: elements => do
    let (r, _) ← r.append? a
    r.extend? elements

def resize? (r : Ring α) (capacity : Nat) : Option (Ring α) := do
  let (_, elements) ← r.drain?
  (ofCapacity capacity).extend? elements

def perform? (r : Ring α) : QueueOp α → Option (Ring α × QueueAnswer α)
  | .append a => (r.append? a).map fun (r, dropped) => (r, .dropped dropped)
  | .drain => r.drain?.map fun (r, elements) => (r, .taken elements)
  | .clear => some (r.clear, .done)
  | .resize n => (r.resize? n).map fun r => (r, .done)

def run? (r : Ring α) : List (QueueOp α) → Option (Ring α × List (QueueAnswer α))
  | [] => some (r, [])
  | op :: ops => do
    let after ← r.perform? op
    let rest ← after.1.run? ops
    some (rest.1, after.2 :: rest.2)

theorem write?_of_lt {slots : Array (Option α)} {j : Nat} (hj : j < slots.size) (a : Option α) :
    write? slots j a = some (slots.setIfInBounds j a) := if_pos hj

structure IsEmptied (r : Ring α) (l : List α) (k : Nat) (slots : Array (Option α)) : Prop where
  size : slots.size = r.capacity
  slots : ∀ i < r.capacity, slots[r.slot i]? = some (if i < k then none else l[i]?)

section
variable {r : Ring α} {l : List α} (h : r.Holds l)
include h

theorem Holds.capacity_pos : 0 < r.capacity := Nat.lt_of_le_of_lt (Nat.zero_le _) h.head_lt

theorem Holds.slot?_eq (i : Nat) : r.slot? i = some (r.slot i) :=
  if_neg (Nat.ne_of_gt h.capacity_pos)

theorem Holds.exists_slot_eq {j : Nat} (hj : j < r.capacity) : ∃ i < r.capacity, r.slot i = j := by
  have hhead := h.head_lt
  by_cases hle : r.head ≤ j
  · have hi : j - r.head < r.capacity := by omega
    refine ⟨j - r.head, hi, ?_⟩
    rw [slot_eq hhead hi, if_pos (by omega)]
    omega
  · have hi : j + r.capacity - r.head < r.capacity := by omega
    refine ⟨j + r.capacity - r.head, hi, ?_⟩
    rw [slot_eq hhead hi, if_neg (by omega)]
    omega

/-- Slots that hold no element are empty. -/
theorem Holds.slot_outside {j : Nat} (hj : j < r.capacity) (hout : ∀ i < r.length, r.slot i ≠ j) :
    r.slots[j]? = some none := by
  obtain ⟨i, hi, rfl⟩ := h.exists_slot_eq hj
  have hlong : l.length ≤ i := by
    rw [← h.length_eq]
    exact Nat.le_of_not_lt fun hlt => hout i hlt rfl
  rw [h.slots i hi, List.getElem?_eq_none hlong]

theorem Holds.append?_eq (a : α) : r.append? a = some (r.append a) := by
  have htail : r.slot r.length < r.slots.size := slot_lt h.head_lt _
  have hhead : r.head < r.slots.size := h.head_lt
  unfold append? append
  split_ifs
  · rw [h.slot?_eq, Option.bind_eq_bind, Option.bind_some, write?_of_lt htail]
    rfl
  · rw [h.slot?_eq, write?_of_lt hhead, Array.getElem?_eq_getElem hhead]
    rfl

theorem Holds.extend?_eq (elements : List α) : r.extend? elements = some (r.extend elements) := by
  induction elements generalizing r l with
  | nil => rfl
  | cons a elements ih =>
    rw [extend?, h.append?_eq, Option.bind_eq_bind, Option.bind_some]
    exact ih (append_holds h a).1

theorem Holds.visit?_eq (places : List Nat) :
    r.visit? places = some (places.filterMap fun i => r.slots[r.slot i]?.join) := by
  induction places with
  | nil => rfl
  | cons i places ih =>
    have hi : r.slot i < r.slots.size := slot_lt h.head_lt i
    rw [visit?, h.slot?_eq, ih, List.filterMap_cons]
    simp only [Option.bind_eq_bind, Option.bind_some, Array.getElem?_eq_getElem hi, Option.join_some]
    cases r.slots[r.slot i] <;> rfl

theorem Holds.isEmptied : r.IsEmptied l 0 r.slots :=
  ⟨rfl, fun i hi => by rw [h.slots i hi, if_neg (Nat.not_lt_zero i)]⟩

theorem Holds.isEmptied_next {k : Nat} (hk : k < l.length) {slots : Array (Option α)}
    (hs : r.IsEmptied l k slots) : r.IsEmptied l (k + 1) (slots.setIfInBounds (r.slot k) none) := by
  have hkcap : k < r.capacity := Nat.lt_of_lt_of_le hk h.length_le
  refine ⟨by rw [Array.size_setIfInBounds, hs.size], fun i hi => ?_⟩
  by_cases hik : i = k
  · subst hik
    have hlt : r.slot i < slots.size := hs.size ▸ slot_lt h.head_lt i
    simp [hlt]
  · rw [Array.getElem?_setIfInBounds_ne (slot_ne h.head_lt hkcap hi (Ne.symm hik)), hs.slots i hi]
    have hiff : i < k + 1 ↔ i < k := by omega
    simp only [hiff]

theorem Holds.take?_eq {k n : Nat} (hk : k + n = l.length) {slots : Array (Option α)}
    (hs : r.IsEmptied l k slots) :
    ∃ emptied, r.take? slots (List.range' k n) = some (emptied, l.drop k) ∧
      r.IsEmptied l l.length emptied := by
  induction n generalizing k slots with
  | zero =>
    obtain rfl : k = l.length := hk
    exact ⟨slots, by rw [List.drop_length]; rfl, hs⟩
  | succ n ih =>
    have hlt : k < l.length := by omega
    have hkcap : k < r.capacity := Nat.lt_of_lt_of_le hlt h.length_le
    have hsize : r.slot k < slots.size := hs.size ▸ slot_lt h.head_lt k
    obtain ⟨emptied, htake, hemptied⟩ := ih (by omega) (h.isEmptied_next hlt hs)
    refine ⟨emptied, ?_, hemptied⟩
    rw [List.range'_succ, take?, h.slot?_eq, Option.bind_eq_bind, Option.bind_some, hs.slots k hkcap,
      if_neg (Nat.lt_irrefl k), List.getElem?_eq_getElem hlt, Option.bind_eq_bind, Option.bind_some,
      write?_of_lt hsize, Option.bind_eq_bind, Option.bind_some, htake, List.drop_eq_getElem_cons hlt]
    rfl

/-- Emptying the slots of the elements empties all slots, since the others are empty. -/
theorem Holds.drain?_eq : r.drain? = some r.drain := by
  obtain ⟨emptied, htake, hemptied⟩ := h.take?_eq (k := 0) (Nat.zero_add _) h.isEmptied
  have hall : emptied = Array.replicate r.capacity none := by
    refine Array.ext_getElem? fun j => ?_
    rw [Array.getElem?_replicate]
    split_ifs with hj
    · obtain ⟨i, hi, rfl⟩ := h.exists_slot_eq hj
      rw [hemptied.slots i hi]
      split_ifs with hlt
      · rfl
      · rw [List.getElem?_eq_none (Nat.le_of_not_lt hlt)]
    · exact Array.getElem?_eq_none (hemptied.size ▸ Nat.le_of_not_lt hj)
  rw [drain?, List.range_eq_range', h.length_eq, htake, hall, drain, toList_eq h]
  rfl

theorem Holds.resize?_eq (n : Nat) : r.resize? n = some (r.resize n) := by
  rw [resize?, h.drain?_eq, Option.bind_eq_bind, Option.bind_some]
  exact (ofCapacity_holds n).extend?_eq r.toList

end

/-! ## Runs -/

/-- A ring stands for a queue: it has the capacity of the queue, and its elements from the head on. -/
structure Represents (r : Ring α) (q : BoundedQueue α) : Prop extends r.Holds q.elements where
  capacity_eq : r.capacity = q.capacity

theorem ofCapacity_represents (n : Nat) :
    (ofCapacity n : Ring α).Represents (BoundedQueue.ofCapacity n) :=
  ⟨ofCapacity_holds n, capacity_ofCapacity n⟩

/-- Each operation answers as the queue does, and goes without a fault. -/
theorem Represents.step {r : Ring α} {q : BoundedQueue α} (h : r.Represents q)
    (op : QueueOp α) :
    (r.perform op).1.Represents (q.perform op).1 ∧ (r.perform op).2 = (q.perform op).2 ∧
      r.perform? op = some (r.perform op) := by
  have hcap := h.capacity_eq
  cases op with
  | append a =>
    obtain ⟨hholds, hdropped⟩ := append_holds h.toHolds a
    have hexcess : BoundedQueue.excess q.capacity (q.elements ++ [a]) =
        q.elements.length + 1 - r.capacity := by
      rw [BoundedQueue.excess, hcap, List.length_append, List.length_singleton]
    have hpos := h.toHolds.capacity_pos
    refine ⟨⟨?_, (capacity_append r a).trans hcap⟩, ?_, ?_⟩
    · simp only [BoundedQueue.perform, hexcess]
      exact hholds
    · simp only [Ring.perform, BoundedQueue.perform, hexcess]
      rw [List.take_append_of_le_length (by omega), ← hdropped]
      cases (r.append a).2 <;> rfl
    · rw [perform?, h.toHolds.append?_eq]
      rfl
  | drain =>
    refine ⟨⟨clear_holds h.toHolds, (capacity_clear r).trans hcap⟩, ?_, ?_⟩
    · exact congrArg QueueAnswer.taken (toList_eq h.toHolds)
    · rw [perform?, h.toHolds.drain?_eq]
      rfl
  | clear => exact ⟨⟨clear_holds h.toHolds, (capacity_clear r).trans hcap⟩, rfl, rfl⟩
  | resize n =>
    obtain ⟨hholds, hcapacity⟩ := resize_holds h.toHolds n
    refine ⟨⟨hholds, hcapacity⟩, rfl, ?_⟩
    rw [perform?, h.toHolds.resize?_eq]
    rfl

theorem Represents.run {r : Ring α} {q : BoundedQueue α} (h : r.Represents q)
    (ops : List (QueueOp α)) :
    (QueueOp.run perform r ops).1.Represents (QueueOp.run BoundedQueue.perform q ops).1 ∧
      (QueueOp.run perform r ops).2 = (QueueOp.run BoundedQueue.perform q ops).2 ∧
      r.run? ops = some (QueueOp.run perform r ops) := by
  induction ops generalizing r q with
  | nil => exact ⟨h, rfl, rfl⟩
  | cons op ops ih =>
    obtain ⟨hstep, hanswer, hfaultless⟩ := h.step op
    obtain ⟨hrest, hanswers, hruns⟩ := ih hstep
    refine ⟨hrest, ?_, ?_⟩
    · simp only [QueueOp.run, hanswer, hanswers]
    · rw [run?, hfaultless, Option.bind_eq_bind, Option.bind_some, hruns]
      rfl

/-- Whatever is done to a ring that was empty, no operation reads or writes a slot that is not there
or takes a remainder by zero, each gives back what it gives back for a queue of that capacity, and the
ring stands for the queue: the slots outside of the elements are empty, and going over the places of
the elements meets them from the oldest to the newest, or the other way round. -/
theorem run_is_bounded_queue (n : Nat) (ops : List (QueueOp α)) :
    let r := QueueOp.run perform (ofCapacity n : Ring α) ops
    let q := QueueOp.run BoundedQueue.perform (BoundedQueue.ofCapacity n) ops
    (ofCapacity n).run? ops = some r ∧ r.2 = q.2 ∧ r.1.Represents q.1 ∧
      (∀ j < r.1.capacity, (∀ i < r.1.length, r.1.slot i ≠ j) → r.1.slots[j]? = some none) ∧
      r.1.toList = q.1.elements ∧
      r.1.visit? (List.range r.1.length) = some q.1.elements ∧
      r.1.visit? (List.range r.1.length).reverse = some q.1.elements.reverse := by
  intro r q
  obtain ⟨hrepresents, hanswers, hfaultless⟩ := (ofCapacity_represents n).run ops
  have hlist : r.1.toList = q.1.elements := toList_eq hrepresents.toHolds
  refine ⟨hfaultless, hanswers, hrepresents, fun j hj hout => ?_, hlist, ?_, ?_⟩
  · exact hrepresents.toHolds.slot_outside hj hout
  · rw [hrepresents.toHolds.visit?_eq, ← hlist]
    rfl
  · rw [hrepresents.toHolds.visit?_eq, List.filterMap_reverse, ← hlist]
    rfl

example : (QueueOp.run perform (ofCapacity 2)
    [.append 1, .append 2, .append 3, .resize 1, .append 4, .drain]).2 =
      [.dropped none, .dropped none, .dropped (some 1), .done, .dropped (some 3), .taken [4]] := by
  decide

end Ring
end DnsFilter
