import DnsFilter.Proofs.Log.Moves
/-!
# Shelves of log entries

The files of a log as lists of entries. Appending and rotating never change the order of the
entries, and only whole archives are dropped, the oldest first. The folder follows the shelf as long
as the counters of archives that were made in one millisecond do not run over.
-/
namespace DnsFilter

structure LogShelf where
  pruned : List (List LogEntry) := []
  archives : List (List LogEntry) := []
  predecessor : Option (List LogEntry) := none
  active : Option (List LogEntry) := none

namespace LogShelf

def append (s : LogShelf) (entries : List LogEntry) : LogShelf :=
  if entries = [] then s else { s with active := some (s.active.getD [] ++ entries) }

/-- The predecessor becomes the newest archive and the active file the predecessor. The oldest of
more than `maxArchives` archives are pruned. -/
def rotate (s : LogShelf) (maxArchives : Nat) : LogShelf :=
  let all := s.archives ++ s.predecessor.toList
  let excess := all.length - maxArchives
  { pruned := s.pruned ++ all.take excess
    archives := all.drop excess
    predecessor := s.active
    active := none }

/-- What all files hold together. -/
def entries (s : LogShelf) : List LogEntry :=
  s.archives.flatten ++ s.predecessor.getD [] ++ s.active.getD []

theorem append_rest (s : LogShelf) (new : List LogEntry) :
    (s.append new).pruned = s.pruned ∧ (s.append new).archives = s.archives ∧
      (s.append new).predecessor = s.predecessor := by
  unfold append
  split_ifs
  · exact ⟨rfl, rfl, rfl⟩
  · exact ⟨rfl, rfl, rfl⟩

theorem append_entries (s : LogShelf) (new : List LogEntry) :
    (s.append new).entries = s.entries ++ new := by
  unfold append
  split_ifs with hnil
  · rw [hnil, List.append_nil]
  · simp [entries]

/-- A rotation keeps all entries in their order, those of pruned archives in front. -/
theorem rotate_entries (s : LogShelf) (maxArchives : Nat) :
    (s.rotate maxArchives).pruned.flatten ++ (s.rotate maxArchives).entries =
      s.pruned.flatten ++ s.entries := by
  obtain ⟨pruned, archives, predecessor, active⟩ := s
  have hlast : predecessor.toList.flatten = predecessor.getD [] := by cases predecessor <;> simp
  have hsplit (n : Nat) : ((archives ++ predecessor.toList).take n).flatten ++
      ((archives ++ predecessor.toList).drop n).flatten =
        archives.flatten ++ predecessor.getD [] := by
    rw [← List.flatten_append, List.take_append_drop, List.flatten_append, hlast]
  simp only [rotate, entries, Option.getD_none, List.append_nil, List.flatten_append]
  rw [List.append_assoc, ← List.append_assoc (List.flatten (List.take _ _)), hsplit]

end LogShelf

namespace LogWriter

theorem bytesOf_append (front back : List LogEntry) :
    bytesOf (front ++ back) = bytesOf front ++ bytesOf back := by
  simp [bytesOf, linesOf, Utf8.encode]

theorem bytesOf_flatten (parts : List (List LogEntry)) :
    bytesOf parts.flatten = (parts.map bytesOf).flatten := by
  induction parts with
  | nil => rfl
  | cons part parts ih =>
    rw [List.flatten_cons, bytesOf_append, ih, List.map_cons, List.flatten_cons]

theorem bytesOf_getD (part : Option (List LogEntry)) :
    bytesOf (part.getD []) = (part.map bytesOf).getD [] := by
  cases part <;> rfl

theorem bytesOf_entries (s : LogShelf) :
    bytesOf s.entries = (s.archives.map bytesOf).flatten ++ (s.predecessor.map bytesOf).getD [] ++
      (s.active.map bytesOf).getD [] := by
  rw [LogShelf.entries, bytesOf_append, bytesOf_append, bytesOf_flatten, bytesOf_getD, bytesOf_getD]

end LogWriter

namespace LogFolder

/-- The files hold the lines of these entries. -/
structure Shows (x : LogFolder) (s : LogShelf) : Prop where
  archives : x.archives.map (·.2) = s.archives.map LogWriter.bytesOf
  predecessor : x.predecessor = s.predecessor.map LogWriter.bytesOf
  active : x.active = s.active.map LogWriter.bytesOf

namespace Shows

variable {x : LogFolder} {s : LogShelf} (h : x.Shows s)
include h

theorem appendEntries (entries : List LogEntry) :
    (x.appendEntries entries).Shows (s.append entries) := by
  unfold LogFolder.appendEntries LogShelf.append
  split_ifs
  · exact h
  · refine ⟨h.archives, h.predecessor, ?_⟩
    rw [append, h.active, Option.map_some, LogWriter.bytesOf_append]
    cases s.active <;> rfl

theorem shift {all : List (String × Bytes)}
    (hall : all.map (·.2) = x.archives.map (·.2) ++ x.predecessor.toList) (maxArchives : Nat) :
    (x.shift maxArchives all).Shows (s.rotate maxArchives) := by
  have hshelf : all.map (·.2) = (s.archives ++ s.predecessor.toList).map LogWriter.bytesOf := by
    rw [hall, h.archives, h.predecessor, List.map_append]
    cases s.predecessor <;> rfl
  have hlen : all.length = (s.archives ++ s.predecessor.toList).length := by
    simpa using congrArg List.length hshelf
  constructor
  · simp only [LogFolder.shift, LogShelf.rotate]
    rw [List.map_drop, hshelf, hlen, List.map_drop]
  · exact h.active
  · rfl

end Shows

/-! ## The names of archives -/

def IsNumbered (x : LogFolder) (made : List Timestamp) : Prop :=
  ∀ name ∈ x.names, ∃ t ∈ made, (LogName.order name.toList).stamp = t.stamp.toList ∧
    (LogName.order name.toList).counter < made.countP (·.stamp = t.stamp)

theorem IsNumbered.mono {x y : LogFolder} {made more : List Timestamp} (h : x.IsNumbered made)
    (hnames : ∀ name ∈ y.names, name ∈ x.names) : y.IsNumbered (made ++ more) := by
  intro name hname
  obtain ⟨t, ht, hstamp, hcounter⟩ := h name (hnames name hname)
  refine ⟨t, List.mem_append_left _ ht, hstamp, ?_⟩
  rw [List.countP_append]
  omega

theorem IsNumbered.appendEntries {x : LogFolder} {made : List Timestamp} (h : x.IsNumbered made)
    (entries : List LogEntry) : (x.appendEntries entries).IsNumbered made := by
  unfold LogFolder.appendEntries
  split_ifs
  · exact h
  · exact h

def withNewest (x : LogFolder) (now : Timestamp) : List (String × Bytes) :=
  x.archives ++ (x.predecessor.map fun content =>
    (LogName.nextArchive now x.names, content)).toList

theorem withNewest_contents (x : LogFolder) (now : Timestamp) :
    (x.withNewest now).map (·.2) = x.archives.map (·.2) ++ x.predecessor.toList := by
  rw [withNewest, List.map_append]
  cases x.predecessor <;> rfl

def madeWithNewest (x : LogFolder) (made : List Timestamp) (now : Timestamp) : List Timestamp :=
  made ++ (x.predecessor.map fun _ => now).toList

section
variable {x : LogFolder} {made : List Timestamp} {now : Timestamp} (h : x.IsNumbered made)
  (hclock : Timestamp.IsClock (made ++ [now]))
  (hcount : (x.madeWithNewest made now).countP (·.stamp = now.stamp) ≤ 2 ^ 32)
include h hclock hcount

theorem nextArchive_last (hsome : x.predecessor.isSome = true) :
    let order := LogName.order (LogName.nextArchive now x.names).toList
    order.stamp = now.stamp.toList ∧ order.counter ≤ made.countP (·.stamp = now.stamp) ∧
      ∀ name ∈ x.names, (LogName.order name.toList).Before order := by
  obtain ⟨hnow, hyear⟩ := hclock.valid now (by simp)
  have hbound : made.countP (·.stamp = now.stamp) < Text.limit32 := by
    obtain ⟨content, hcontent⟩ := Option.isSome_iff_exists.mp hsome
    have hone : made.countP (·.stamp = now.stamp) + 1 ≤ 2 ^ 32 := by
      simpa [madeWithNewest, hcontent, List.countP_append] using hcount
    have hlimit : Text.limit32 = 2 ^ 32 := rfl
    omega
  refine LogName.nextArchive_spec hyear (fun name hname => ?_) hbound fun name hname hsame => ?_
  · obtain ⟨t, ht, hstamp, -⟩ := h name hname
    obtain ⟨hvalid, htyear⟩ := hclock.valid t (List.mem_append_left _ ht)
    rw [hstamp]
    exact Timestamp.stamp_atMost hvalid hnow htyear hyear
      ((List.pairwise_append.mp hclock.ordered).2.2 t ht now (List.mem_singleton_self now))
  · obtain ⟨t, -, hstamp, hcounter⟩ := h name hname
    have ht : t.stamp = now.stamp := String.toList_inj.mp (hstamp.symm.trans hsame)
    rwa [ht] at hcounter

theorem archives_withNewest (hascending : LogName.IsAscending x.names) :
    LogFiles.Archives x now (x.withNewest now) := by
  unfold LogFiles.Archives
  cases hpredecessor : x.predecessor with
  | none => simp [withNewest, hpredecessor]
  | some content =>
    obtain ⟨-, -, hbefore⟩ := nextArchive_last h hclock hcount (by simp [hpredecessor])
    simp only [withNewest, hpredecessor, Option.map_some, Option.toList_some]
    refine ⟨List.Perm.refl _, ?_⟩
    rw [List.map_append]
    refine List.pairwise_append.mpr ⟨hascending, List.pairwise_singleton _ _, ?_⟩
    intro name hname newest hnewest
    obtain rfl : newest = LogName.nextArchive now x.names := by simpa using hnewest
    exact hbefore name hname

theorem shift_isNumbered (maxArchives : Nat) :
    (x.shift maxArchives (x.withNewest now)).IsNumbered (x.madeWithNewest made now) := by
  intro name hname
  have hall : name ∈ (x.withNewest now).map (·.1) := by
    simp only [shift, names, List.map_drop] at hname
    exact List.mem_of_mem_drop hname
  rw [withNewest, List.map_append, List.mem_append] at hall
  rcases hall with hold | hnew
  · exact h.mono (y := x) (fun _ hother => hother) name hold
  · cases hpredecessor : x.predecessor with
    | none => simp [hpredecessor] at hnew
    | some content =>
      obtain ⟨hstamp, hcounter, -⟩ :=
        nextArchive_last h hclock hcount (by simp [hpredecessor])
      obtain rfl : name = LogName.nextArchive now x.names := by simpa [hpredecessor] using hnew
      refine ⟨now, by simp [madeWithNewest, hpredecessor], hstamp, ?_⟩
      simp only [madeWithNewest, hpredecessor, Option.map_some, Option.toList_some,
        List.countP_append, List.countP_singleton, decide_true, if_true]
      omega

end

end LogFolder
end DnsFilter
