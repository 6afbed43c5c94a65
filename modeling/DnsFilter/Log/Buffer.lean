import DnsFilter.Log.Entry
import DnsFilter.Log.Ring
/-!
# Buffered entries

The newest entries in a ring, and before them the entries that were pushed out of the ring and wait
for a flush.
-/
namespace DnsFilter

structure LogBuffer where
  ring : Ring LogEntry
  /-- Entries that were pushed out of the ring, the oldest first. -/
  spilled : List LogEntry := []
  /-- A flush was asked for and has not begun. -/
  isFlushPending : Bool := false

namespace LogBuffer

def ofCapacity (capacity : Nat) : LogBuffer := { ring := .ofCapacity capacity }

def size (b : LogBuffer) : Nat := b.ring.length + b.spilled.length

/-- All entries, the oldest first. -/
def toList (b : LogBuffer) : List LogEntry := b.spilled ++ b.ring.toList

/-- Appends an entry. With `keepsAll` the one that is pushed out for it is spilled. -/
def append (b : LogBuffer) (keepsAll : Bool) (e : LogEntry) : LogBuffer :=
  let (ring, dropped) := b.ring.append e
  { b with ring, spilled := if keepsAll then b.spilled ++ dropped.toList else b.spilled }

def isFlushDue (b : LogBuffer) (size : Nat) : Bool := !b.isFlushPending && size ≤ b.ring.length

/-- Empties the buffer. A pending flush has nothing left to do. -/
def clear (b : LogBuffer) : LogBuffer := { ring := b.ring.clear }

/-- The newest entries, the newest first. -/
def recent (b : LogBuffer) (limit : Nat) : List LogEntry := b.ring.toList.reverse.take limit

/-- Changes the capacity of the ring. With `keepsAll` the oldest entries that no longer fit are
spilled. -/
def resize (b : LogBuffer) (keepsAll : Bool) (capacity : Nat) : LogBuffer :=
  if b.ring.capacity = capacity then b
  else
    let overflow := b.ring.toList.take (b.ring.length - capacity)
    { b with
      ring := b.ring.resize capacity
      spilled := if keepsAll then b.spilled ++ overflow else b.spilled }

end LogBuffer
end DnsFilter
