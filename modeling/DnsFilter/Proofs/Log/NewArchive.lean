import DnsFilter.Proofs.Log.Rotation
/-!
# The name of a new archive

Whatever names there are in the directory, the name of a new archive is none of them and stands
behind all archives of its millisecond, as long as none of these has the highest counter. From there
a build with checks panics. In the released one the counter goes on at zero, and the archive with the
highest counter itself is written over where the one before it is there too.
-/
namespace DnsFilter

namespace LogName

/-- The highest counter of 32 bits. -/
def highestCounter : Nat := 4294967295

theorem highestCounter_eq : highestCounter + 1 = Text.limit32 := by decide

theorem unsigned?_lt {limit n : Nat} {s : List Char} (h : Text.unsigned? limit s = some n) :
    n < limit := by
  unfold Text.unsigned? at h
  simpa using (Option.filter_eq_some_iff.mp h).2

theorem order_counter_lt (name : List Char) : (order name).counter < Text.limit32 := by
  have hzero : 0 < Text.limit32 := by decide
  simp only [order]
  split
  · exact hzero
  · split
    · rename_i n hn
      exact unsigned?_lt hn
    · exact hzero

/-! ## Names made for a time -/

theorem exists_stamp (t : Timestamp) : ∃ front, t.stamp.toList = front ++ ['Z'] := by
  simp only [Timestamp.stamp, String.toList_append]
  exact ⟨_, rfl⟩

theorem unsigned?_letter (limit : Nat) (s : List Char) :
    Text.unsigned? limit (s ++ ['Z']) = none := by
  have hdecimal (s : List Char) : Text.decimal? (s ++ ['Z']) = none := by
    have hletter : Text.isDigit 'Z' = false := by decide
    simp [Text.decimal?, hletter]
  simp only [Text.unsigned?]
  split
  · rename_i rest heq
    cases s with
    | nil => cases heq
    | cons c s =>
      obtain ⟨-, rfl⟩ := List.cons.inj heq
      exact congrArg (Option.filter _) (hdecimal s)
  · exact congrArg (Option.filter _) (hdecimal s)

/-- A stamp with a sign in front has a hyphen too, but no counter stands behind it. -/
theorem order_archive_stamp (t : Timestamp) :
    order (archive t.stamp.toList none) = ⟨t.stamp.toList, 0⟩ := by
  obtain ⟨front, hstamp⟩ := exists_stamp t
  have hstem : stem (archive t.stamp.toList none) = t.stamp.toList := by
    rw [archive, stem_archive]
  cases hcut : Text.cutAtLast? '-' t.stamp.toList with
  | none => simp only [order, hstem, hcut]
  | some parts =>
    obtain ⟨before, after⟩ := parts
    obtain ⟨-, hparts⟩ := Text.cutAtLast?_eq_some hcut
    have hlast : ∃ more, after = more ++ ['Z'] := by
      have hend : front ++ ['Z'] = before ++ '-' :: after := hstamp.symm.trans hparts
      rcases List.eq_nil_or_concat after with rfl | ⟨more, c, rfl⟩
      · have hletter := (List.append_inj' hend rfl).2
        exact absurd hletter (by decide)
      · rw [List.concat_eq_append, ← List.cons_append, ← List.append_assoc] at hend
        exact ⟨more, by rw [List.concat_eq_append, (List.append_inj' hend rfl).2]⟩
    obtain ⟨more, rfl⟩ := hlast
    simp only [order, hstem, hcut, unsigned?_letter]

/-- A counter runs over where one of the archives of the time has the highest one. -/
theorem not_runsOver_iff {stamp : List Char} {names : List String} :
    ¬runsOver stamp names = true ↔
      ∀ name ∈ names, (order name.toList).stamp = stamp →
        (order name.toList).counter ≠ highestCounter := by
  have hlimit := highestCounter_eq
  rw [Bool.not_eq_true, runsOver_eq_false_iff]
  refine forall₂_congr fun name _ => imp_congr_right fun _ => ?_
  have hlt := order_counter_lt name.toList
  omega

theorem nextArchive_eq {now : Timestamp} {names : List String} {counter : Option Nat}
    (h : nextCounter now.stamp.toList names = counter) :
    nextArchive now names = String.ofList (archive now.stamp.toList counter) := by
  rw [← h]
  rfl

theorem order_nextArchive (now : Timestamp) (names : List String) :
    order (nextArchive now names).toList =
      ⟨now.stamp.toList, (nextCounter now.stamp.toList names).getD 0⟩ := by
  rw [nextArchive_toList]
  cases hnext : nextCounter now.stamp.toList names with
  | none => exact order_archive_stamp now
  | some counter => exact order_archive_some (nextCounter_lt hnext)

/-! ## The counter -/

section
variable {stamp : List Char} {names : List String}

theorem counter_lt_next {counter : Nat} (hnext : nextCounter stamp names = some counter)
    {name : String} (hname : name ∈ names) (hstamp : (order name.toList).stamp = stamp)
    (hhighest : (order name.toList).counter ≠ highestCounter) :
    (order name.toList).counter < counter := by
  have hle := (nextCounter_eq_some_iff.mp hnext).2 name hname hstamp
  have hlt := order_counter_lt name.toList
  have hlimit := highestCounter_eq
  rw [Nat.mod_eq_of_lt (by omega)] at hle
  omega

end

/-- The new name stands behind the archives of its stamp if and only if none of these has the highest
counter. -/
theorem nextArchive_last_iff (now : Timestamp) (names : List String) :
    (∀ name ∈ names, (order name.toList).stamp = now.stamp.toList →
        (order name.toList).Before (order (nextArchive now names).toList)) ↔
      ∀ name ∈ names, (order name.toList).stamp = now.stamp.toList →
        (order name.toList).counter ≠ highestCounter := by
  have hcounter (name : String) (hstamp : (order name.toList).stamp = now.stamp.toList) :
      (order name.toList).Before (order (nextArchive now names).toList) ↔
        (order name.toList).counter < (nextCounter now.stamp.toList names).getD 0 := by
    simp only [order_nextArchive, Order.Before, hstamp, true_and, List.lt_irrefl, false_or]
  constructor
  · intro hlast name hname hstamp hhighest
    have hlt := (hcounter name hstamp).mp (hlast name hname hstamp)
    cases hnext : nextCounter now.stamp.toList names with
    | none => exact nextCounter_eq_none.mp hnext name hname hstamp
    | some counter =>
      have hsmall := nextCounter_lt hnext
      have hlimit := highestCounter_eq
      rw [hnext, Option.getD_some] at hlt
      omega
  · intro hhighest name hname hstamp
    apply (hcounter name hstamp).mpr
    cases hnext : nextCounter now.stamp.toList names with
    | none => exact absurd hstamp (nextCounter_eq_none.mp hnext name hname)
    | some counter => exact counter_lt_next hnext hname hstamp (hhighest name hname hstamp)

/-- The new name is that of an archive that is there if and only if this is the one with the highest
counter and there is one with the counter before it. -/
theorem nextArchive_mem_iff (now : Timestamp) (names : List String) :
    nextArchive now names ∈ names ↔
      String.ofList (archive now.stamp.toList (some highestCounter)) ∈ names ∧
        ∃ name ∈ names, order name.toList = ⟨now.stamp.toList, highestCounter - 1⟩ := by
  have hlimit := highestCounter_eq
  constructor
  · intro hmem
    have horder := order_nextArchive now names
    cases hnext : nextCounter now.stamp.toList names with
    | none => exact absurd (by rw [horder]) (nextCounter_eq_none.mp hnext _ hmem)
    | some counter =>
      rw [hnext, Option.getD_some] at horder
      have hhighest : counter = highestCounter := by
        by_contra hne
        have hlt := counter_lt_next hnext hmem (by rw [horder]) (by rwa [horder])
        rw [horder] at hlt
        exact Nat.lt_irrefl _ hlt
      subst hhighest
      obtain ⟨⟨name, hname, hstamp, hcounter⟩, -⟩ := nextCounter_eq_some_iff.mp hnext
      refine ⟨?_, name, hname, ?_⟩
      · rw [nextArchive_eq hnext] at hmem
        exact hmem
      · have hlt := order_counter_lt name.toList
        have hbefore : (order name.toList).counter = highestCounter - 1 := by
          rcases Nat.lt_or_ge ((order name.toList).counter + 1) Text.limit32 with hsmall | hlarge
          · rw [Nat.mod_eq_of_lt hsmall] at hcounter
            omega
          · rw [show (order name.toList).counter + 1 = Text.limit32 by omega, Nat.mod_self]
              at hcounter
            omega
        rw [← hstamp, ← hbefore]
  · rintro ⟨hmem, name, hname, horder⟩
    have hnext : nextCounter now.stamp.toList names = some highestCounter := by
      refine nextCounter_eq_some_iff.mpr ⟨⟨name, hname, by rw [horder], ?_⟩, ?_⟩
      · rw [horder]
        exact (by decide : (highestCounter - 1 + 1) % Text.limit32 = highestCounter)
      · intro other _ _
        have hlt := Nat.mod_lt ((order other.toList).counter + 1) (y := Text.limit32) (by decide)
        omega
    rw [nextArchive_eq hnext]
    exact hmem

end LogName

namespace LogFiles

theorem pathOf_inj (f : LogFiles) {a b : String} : f.pathOf a = f.pathOf b ↔ a = b := by
  unfold pathOf Disk.join
  split_ifs <;> simp

/-- Whatever the directory holds: a build gives a path for a new archive that is none of those that are
there, and whose name comes last among the archives of its stamp, if and only if none of these has the
highest counter. Otherwise a build with checks panics. The released one gives a path of the same stamp,
and this is the path of one that is there if and only if it is the archive with the highest counter and
there is one with the counter before it. -/
theorem new_archive_is_new_and_last_iff (f : LogFiles) (now : Timestamp) (listed : List String) :
    let names := LogName.archives listed
    let stamp := now.stamp.toList
    let new := LogName.nextArchive now names
    let isFree := ∀ name ∈ names, (LogName.order name.toList).stamp = stamp →
      (LogName.order name.toList).counter ≠ LogName.highestCounter
    (LogName.order new.toList).stamp = stamp ∧
      (∀ b, (∃ path, f.newPath b now names = .ok path ∧ path = f.pathOf new ∧
          path ∉ listed.map f.pathOf ∧
          ∀ name ∈ names, (LogName.order name.toList).stamp = stamp →
            (LogName.order name.toList).Before (LogName.order new.toList)) ↔ isFree) ∧
      (¬isFree → f.newPath .checked now names = .error .overflow) ∧
      f.newPath .released now names = .ok (f.pathOf new) ∧
      (f.pathOf new ∈ listed.map f.pathOf ↔
        String.ofList (LogName.archive stamp (some LogName.highestCounter)) ∈ listed ∧
          ∃ name ∈ names, LogName.order name.toList = ⟨stamp, LogName.highestCounter - 1⟩) := by
  intro names stamp new isFree
  have hlisted {name : String} (harchive : LogName.isArchive name.toList = true) :
      name ∈ listed ↔ name ∈ names := by
    rw [LogName.mem_archives, harchive]
    exact (and_iff_left rfl).symm
  have hpath : f.pathOf new ∈ listed.map f.pathOf ↔ new ∈ names := by
    rw [← hlisted (LogName.isArchive_nextArchive now names), List.mem_map]
    constructor
    · rintro ⟨name, hname, hsame⟩
      obtain rfl : name = LogName.nextArchive now names := f.pathOf_inj.mp hsame
      exact hname
    · intro hnew
      exact ⟨_, hnew, rfl⟩
  have hmem := LogName.nextArchive_mem_iff now names
  have hlast := LogName.nextArchive_last_iff now names
  have hfree : ¬LogName.runsOver stamp names = true ↔ isFree := LogName.not_runsOver_iff
  have hstamp : (LogName.order new.toList).stamp = stamp := by
    have hnew : LogName.order new.toList = ⟨stamp, _⟩ := LogName.order_nextArchive now names
    rw [hnew]
  refine ⟨hstamp, fun b => ?_, fun hnot => ?_, newPath_released f now names, ?_⟩
  · constructor
    · rintro ⟨path, -, -, -, hbefore⟩
      exact hlast.mp hbefore
    · intro hall
      refine ⟨f.pathOf new, ?_, rfl, fun hthere => ?_, hlast.mpr hall⟩
      · exact newPath_eq_ok.mpr ⟨fun hover => hfree.mpr hall hover.2, rfl⟩
      · obtain ⟨hhighest, -⟩ := hmem.mp (hpath.mp hthere)
        have horder : LogName.order (String.ofList
            (LogName.archive stamp (some LogName.highestCounter))).toList =
            ⟨stamp, LogName.highestCounter⟩ := by
          rw [String.toList_ofList]
          exact LogName.order_archive_some (by decide)
        exact hall _ hhighest (by rw [horder]) (by rw [horder])
  · exact if_pos ⟨rfl, not_not.mp (mt hfree.mp hnot)⟩
  · rw [hpath, hmem]
    refine and_congr_left fun _ => (hlisted ?_).symm
    rw [String.toList_ofList]
    exact LogName.isArchive_archive _ _

/-- With the two highest counters in use, a rotation panics in a build with checks. In the released
one the next archive of the millisecond takes the place of the last one, whose records are gone. -/
theorem highest_counter_is_written_over :
    let f : LogFiles := ⟨"log"⟩
    let now : Timestamp := ⟨1704067200, 0⟩
    let older := "querylog.json.20240101T000000.000Z-4294967294.gz"
    let newer := "querylog.json.20240101T000000.000Z-4294967295.gz"
    let d : Disk := ⟨[(["log"], .directory), (["log", older], .packed [97, 10]),
      (["log", newer], .packed [98, 10]), (["log", "querylog.json.1"], .plain [99, 10]),
      (["log", "querylog.json"], .plain [100, 10])]⟩
    f.archives d = .ok [older, newer] ∧
      f.newPath .released now [older, newer] = .ok (f.pathOf newer) ∧
      (f.archivePredecessor .released now).perform d = (.ok (), ⟨[(["log"], .directory),
        (["log", older], .packed [97, 10]), (["log", newer], .packed [99, 10]),
        (["log", "querylog.json"], .plain [100, 10])]⟩) ∧
      f.newPath .checked now [older, newer] = .error .overflow ∧
      (f.rotate .checked 10 now).perform d = (.error .overflow, d) := by
  intro f now older newer d
  have hplace : d.IsAt f.dir ["log"] := ⟨by decide +kernel, by decide +kernel⟩
  have harchives : f.archives d = .ok [older, newer] :=
    (archives_of_isAt hplace).trans (congrArg Except.ok
      (LogName.archives_eq_of_perm (by decide +kernel) (by decide +kernel)))
  have hpath : f.newPath .released now [older, newer] = .ok (f.pathOf newer) := by decide +kernel
  refine ⟨harchives, hpath, ?_, by decide +kernel, ?_⟩
  · rw [archivePredecessor, OnDisk.perform_bind, OnDisk.perform_look,
      archiveFor_of_archives harchives, hpath]
    decide +kernel
  · exact rotate_panics 10 (by decide +kernel) (by decide +kernel) harchives (by decide +kernel)

end LogFiles
end DnsFilter
