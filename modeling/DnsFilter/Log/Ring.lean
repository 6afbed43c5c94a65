/-!
# Ring buffers

A queue of bounded length in an array of slots. Appending to a full buffer drops the oldest element.
-/
namespace DnsFilter

structure Ring (α : Type) where
  slots : Array (Option α)
  /-- The slot of the oldest element. -/
  head : Nat
  length : Nat

namespace Ring

variable {α : Type}

/-- An empty buffer. It holds one element at least. -/
def ofCapacity (capacity : Nat) : Ring α := ⟨Array.replicate (max capacity 1) none, 0, 0⟩

def capacity (r : Ring α) : Nat := r.slots.size

def isEmpty (r : Ring α) : Bool := r.length == 0

/-- The slot of the element at a place, the oldest being at 0. -/
def slot (r : Ring α) (i : Nat) : Nat := (r.head + i) % r.capacity

/-- The elements, the oldest first. -/
def toList (r : Ring α) : List α :=
  (List.range r.length).filterMap (fun i => r.slots[r.slot i]?.join)

/-- Appends an element and tells which one was dropped for it. -/
def append (r : Ring α) (a : α) : Ring α × Option α :=
  if r.length < r.capacity then
    (⟨r.slots.setIfInBounds (r.slot r.length) (some a), r.head, r.length + 1⟩, none)
  else
    (⟨r.slots.setIfInBounds r.head (some a), (r.head + 1) % r.capacity, r.length⟩,
      r.slots[r.head]?.join)

def clear (r : Ring α) : Ring α := ⟨Array.replicate r.capacity none, 0, 0⟩

/-- Takes all elements out, the oldest first. -/
def drain (r : Ring α) : Ring α × List α := (r.clear, r.toList)

def extend (r : Ring α) (elements : List α) : Ring α :=
  elements.foldl (fun r a => (r.append a).1) r

/-- Changes the capacity and keeps the newest elements that fit. -/
def resize (r : Ring α) (capacity : Nat) : Ring α := (ofCapacity capacity).extend r.toList

end Ring
end DnsFilter
