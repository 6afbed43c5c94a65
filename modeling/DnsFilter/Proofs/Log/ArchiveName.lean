import Mathlib.Data.List.Nodup
import Mathlib.Data.List.Pairwise
import DnsFilter.Log.Archive
import DnsFilter.Proofs.Storage.Directory
import DnsFilter.Proofs.Text.Affix
import DnsFilter.Proofs.Time.Stamp
/-!
# The order of archives

The name of a new archive comes behind those that are there, as long as its counter does not run
over. Names whose order is known to be ascending are listed in that order.
-/
namespace DnsFilter

namespace LogName

/-! ## Names and their order -/

def IsStampText (s : List Char) : Prop :=
  ∀ c ∈ s, Text.isDigit c = true ∨ c = 'T' ∨ c = '.' ∨ c = 'Z'

theorem hyphen_notMem {s : List Char} (h : IsStampText s) : '-' ∉ s := by
  intro hmem
  exact absurd (h '-' hmem) (by decide)

theorem isStampText_stamp {t : Timestamp} (h : t.HasFourDigitYear) :
    IsStampText t.stamp.toList := by
  intro c hc
  rw [Timestamp.stamp_toList h] at hc
  simp only [Timestamp.clockText, List.mem_append, List.mem_cons, List.not_mem_nil, or_false] at hc
  rcases hc with hc | hc | hc | rfl | hc | hc | hc | rfl | hc | rfl
  case inr.inr.inr.inl => exact .inr (.inl rfl)
  case inr.inr.inr.inr.inr.inr.inr.inl => exact .inr (.inr (.inl rfl))
  case inr.inr.inr.inr.inr.inr.inr.inr.inr => exact .inr (.inr (.inr rfl))
  all_goals exact .inl (Text.isDigit_of_mem_padded hc)

theorem stem_archive (middle : List Char) :
    stem (archiveStart ++ middle ++ archiveEnd) = middle := by
  rw [stem, List.append_assoc, Text.afterPrefix?_append, Option.bind_some,
    Text.beforeSuffix?_append]
  rfl

def counterText : Option Nat → List Char
  | none => []
  | some n => '-' :: Nat.toDigits 10 n

theorem archive_eq (stamp : List Char) (counter : Option Nat) :
    archive stamp counter = archiveStart ++ (stamp ++ counterText counter) ++ archiveEnd := by
  cases counter <;> simp [archive, counterText]

theorem isArchive_archive (stamp : List Char) (counter : Option Nat) :
    isArchive (archive stamp counter) = true := by
  simp only [archive_eq, isArchive, Bool.and_eq_true, List.isPrefixOf_iff_prefix,
    List.isSuffixOf_iff_suffix]
  exact ⟨List.append_assoc .. ▸ List.prefix_append .., List.suffix_append ..⟩

theorem order_archive_none {stamp : List Char} (h : IsStampText stamp) :
    order (archive stamp none) = ⟨stamp, 0⟩ := by
  simp only [order, archive_eq, counterText, List.append_nil, stem_archive,
    Text.cutAtLast?_of_notMem (hyphen_notMem h)]

theorem unsigned?_toDigits {n : Nat} (h : n < Text.limit32) :
    Text.unsigned? Text.limit32 (Nat.toDigits 10 n) = some n := by
  have hdigits : ∀ c ∈ Nat.toDigits 10 n, Text.isDigit c = true := fun _ hc =>
    Text.isDigit_of_mem_toDigits hc
  obtain ⟨c, rest, hc⟩ := List.exists_cons_of_ne_nil (Nat.toDigits_ne_nil (b := 10) (n := n))
  have hplus : c ≠ '+' := by
    rintro rfl
    exact absurd (hdigits '+' (hc ▸ List.mem_cons_self)) (by decide)
  have hvalue : Text.decimal? (Nat.toDigits 10 n) = some n := by
    rw [Text.decimal?, if_pos ⟨Nat.toDigits_ne_nil, List.all_eq_true.mpr hdigits⟩,
      Text.decimalValue_toDigits]
  unfold Text.unsigned?
  split
  case h_1 heq =>
    rw [hc] at heq
    exact absurd (List.cons.inj heq).1 hplus
  case h_2 => simp [hvalue, h]

theorem order_archive_some {stamp : List Char} {n : Nat} (hn : n < Text.limit32) :
    order (archive stamp (some n)) = ⟨stamp, n⟩ := by
  have hdigits : '-' ∉ Nat.toDigits 10 n := fun hmem =>
    absurd (Text.isDigit_of_mem_toDigits hmem) (by decide)
  simp only [order, archive_eq, counterText, stem_archive, Text.cutAtLast?_append hdigits,
    unsigned?_toDigits hn]

/-! ## Ascending names -/

def Order.Before (a b : Order) : Prop :=
  a.stamp < b.stamp ∨ a.stamp = b.stamp ∧ a.counter < b.counter

instance (a b : Order) : Decidable (a.Before b) := inferInstanceAs (Decidable (_ ∨ _ ∧ _))

theorem Order.atMost_iff {a b : Order} :
    a.atMost b = true ↔ a.stamp < b.stamp ∨ a.stamp = b.stamp ∧ a.counter ≤ b.counter := by
  simp [atMost]

theorem Order.Before.atMost {a b : Order} (h : a.Before b) : a.atMost b = true :=
  atMost_iff.mpr (h.imp_right (And.imp_right Nat.le_of_lt))

theorem Order.Before.not_atMost {a b : Order} (h : a.Before b) : ¬b.atMost a = true := by
  rw [atMost_iff]
  rintro (hlt | ⟨heq, hle⟩)
  · rcases h with hlt' | ⟨heq', -⟩
    · exact List.lt_asymm hlt hlt'
    · exact List.lt_irrefl _ (heq' ▸ hlt)
  · rcases h with hlt' | ⟨-, hlt'⟩
    · exact List.lt_irrefl _ (heq ▸ hlt')
    · omega

theorem Order.atMost_trans (a b c : Order) (h : a.atMost b = true) (k : b.atMost c = true) :
    a.atMost c = true := by
  rw [atMost_iff] at *
  rcases h with hlt | ⟨heq, hle⟩ <;> rcases k with klt | ⟨keq, kle⟩
  · exact .inl (List.lt_trans hlt klt)
  · exact .inl (keq ▸ hlt)
  · exact .inl (heq ▸ klt)
  · exact .inr ⟨heq.trans keq, Nat.le_trans hle kle⟩

theorem Order.atMost_total (a b : Order) : (a.atMost b || b.atMost a) = true := by
  rw [Bool.or_eq_true, atMost_iff, atMost_iff]
  have hstamps : a.stamp < b.stamp ∨ a.stamp = b.stamp ∨ b.stamp < a.stamp :=
    Std.Trichotomous.rel_or_eq_or_rel_swap
  rcases hstamps with hlt | heq | hlt
  · exact .inl (.inl hlt)
  · exact (Nat.le_total a.counter b.counter).imp (fun h => .inr ⟨heq, h⟩)
      fun h => .inr ⟨heq.symm, h⟩
  · exact .inr (.inl hlt)

theorem Order.before_of_atMost {a b : Order} (h : a.atMost b = true) (hne : a ≠ b) :
    a.Before b := by
  rcases atMost_iff.mp h with hlt | ⟨heq, hle⟩
  · exact .inl hlt
  · refine .inr ⟨heq, Nat.lt_of_le_of_ne hle fun hcounter => hne ?_⟩
    cases a
    cases b
    simp_all

def IsAscending (names : List String) : Prop :=
  names.Pairwise fun a b => (order a.toList).Before (order b.toList)

instance (names : List String) : Decidable (IsAscending names) :=
  inferInstanceAs (Decidable (names.Pairwise _))

theorem IsAscending.nodup {names : List String} (h : IsAscending names) : names.Nodup := by
  refine List.Pairwise.imp ?_ h
  rintro a b hbefore rfl
  exact hbefore.not_atMost hbefore.atMost

theorem IsAscending.eq_of_atMost {names : List String} (h : IsAscending names) {a b : String}
    (ha : a ∈ names) (hb : b ∈ names) (hab : (order a.toList).atMost (order b.toList) = true)
    (hba : (order b.toList).atMost (order a.toList) = true) : a = b := by
  have hpairs : names.Pairwise fun a b => (order a.toList).atMost (order b.toList) = true →
      (order b.toList).atMost (order a.toList) = true → a = b :=
    h.imp fun hbefore _ hba => absurd hba hbefore.not_atMost
  have : Std.Symm fun a b : String => (order a.toList).atMost (order b.toList) = true →
      (order b.toList).atMost (order a.toList) = true → a = b :=
    ⟨fun _ _ h hba hab => (h hab hba).symm⟩
  exact List.Pairwise.forall_of_forall (fun _ _ _ _ => rfl) hpairs ha hb hab hba

theorem archives_eq_of_perm {listed names : List String}
    (hperm : (listed.filter fun n => isArchive n.toList).Perm names)
    (hnames : IsAscending names) : archives listed = names := by
  unfold archives
  refine List.Perm.eq_of_pairwise ?_ (List.pairwise_mergeSort ?_ ?_ _)
    (hnames.imp fun h => h.atMost) ((List.mergeSort_perm _ _).trans hperm)
  · intro a b ha hb
    exact hnames.eq_of_atMost (hperm.mem_iff.mp ((List.mergeSort_perm _ _).mem_iff.mp ha)) hb
  · exact fun a b c => Order.atMost_trans _ _ _
  · exact fun a b => Order.atMost_total _ _

theorem archives_eq {listed names : List String} (hlisted : listed.Nodup)
    (hnames : IsAscending names) (harchives : ∀ n ∈ names, isArchive n.toList = true)
    (hsame : ∀ n, isArchive n.toList = true → (n ∈ listed ↔ n ∈ names)) :
    archives listed = names := by
  refine archives_eq_of_perm ?_ hnames
  rw [List.perm_ext_iff_of_nodup (hlisted.filter _) hnames.nodup]
  intro n
  rw [List.mem_filter]
  exact ⟨fun h => (hsame n h.2).mp h.1, fun h =>
    ⟨(hsame n (harchives n h)).mpr h, harchives n h⟩⟩

theorem mem_archives {listed : List String} {name : String} :
    name ∈ archives listed ↔ name ∈ listed ∧ isArchive name.toList = true := by
  rw [archives, (List.mergeSort_perm _ _).mem_iff, List.mem_filter]

/-- Archives are listed in ascending order if no two of them have the same place in it. -/
theorem isAscending_archives {listed : List String}
    (hdistinct : ((archives listed).map fun name => order name.toList).Nodup) :
    IsAscending (archives listed) := by
  have hsorted : (archives listed).Pairwise fun a b =>
      (order a.toList).atMost (order b.toList) = true := by
    refine List.pairwise_mergeSort ?_ ?_ _
    · exact fun a b c => Order.atMost_trans _ _ _
    · exact fun a b => Order.atMost_total _ _
  exact hsorted.imp₂ (fun _ _ => Order.before_of_atMost) (List.pairwise_map.mp hdistinct)

/-! ## A new name -/

section
variable {stamp : List Char} {names : List String}

theorem runsOver_eq_false_iff :
    runsOver stamp names = false ↔
      ∀ n ∈ names, (order n.toList).stamp = stamp → (order n.toList).counter + 1 < Text.limit32 := by
  simp [runsOver]

theorem nextCounter_eq_none :
    nextCounter stamp names = none ↔ ∀ n ∈ names, (order n.toList).stamp ≠ stamp := by
  simp [nextCounter, List.max?_eq_none_iff]

theorem mem_nextCounters {n : Nat} :
    n ∈ ((names.map fun n => order n.toList).filter (·.stamp == stamp)).map
        (fun o => (o.counter + 1) % Text.limit32) ↔
      ∃ name ∈ names, (order name.toList).stamp = stamp ∧
        ((order name.toList).counter + 1) % Text.limit32 = n := by
  simp [and_assoc]

theorem nextCounter_eq_some_iff {n : Nat} :
    nextCounter stamp names = some n ↔
      (∃ name ∈ names, (order name.toList).stamp = stamp ∧
        ((order name.toList).counter + 1) % Text.limit32 = n) ∧
      ∀ name ∈ names, (order name.toList).stamp = stamp →
        ((order name.toList).counter + 1) % Text.limit32 ≤ n := by
  unfold nextCounter
  rw [List.max?_eq_some_iff, mem_nextCounters]
  refine and_congr_right fun _ => ?_
  constructor
  · intro h name hname hstamp
    exact h _ (mem_nextCounters.mpr ⟨name, hname, hstamp, rfl⟩)
  · intro h n hn
    obtain ⟨name, hname, hstamp, rfl⟩ := mem_nextCounters.mp hn
    exact h name hname hstamp

/-- The next counter is one past the highest, if that has 32 bits. -/
theorem nextCounter_eq_some
    (hsmall : ∀ n ∈ names, (order n.toList).stamp = stamp →
      (order n.toList).counter + 1 < Text.limit32) {counter : Nat}
    (h : nextCounter stamp names = some counter) :
    (∃ n ∈ names, order n.toList = ⟨stamp, counter - 1⟩ ∧ 0 < counter) ∧
      ∀ n ∈ names, (order n.toList).stamp = stamp → (order n.toList).counter < counter := by
  obtain ⟨⟨n, hn, hstamp, hlast⟩, hmax⟩ := nextCounter_eq_some_iff.mp h
  constructor
  · rw [Nat.mod_eq_of_lt (hsmall n hn hstamp)] at hlast
    refine ⟨n, hn, ?_, by omega⟩
    rw [← hlast, ← hstamp, Nat.add_sub_cancel]
  · intro n hn hstamp
    have hle := hmax n hn hstamp
    rw [Nat.mod_eq_of_lt (hsmall n hn hstamp)] at hle
    omega

end

theorem nextArchive_toList (now : Timestamp) (names : List String) :
    (nextArchive now names).toList =
      archive now.stamp.toList (nextCounter now.stamp.toList names) :=
  String.toList_ofList

theorem isArchive_nextArchive (now : Timestamp) (names : List String) :
    isArchive (nextArchive now names).toList = true := by
  rw [nextArchive_toList]
  exact isArchive_archive _ _

/-- The name of a new archive stands behind those of archives that are no younger, and its counter
is at most one past theirs. -/
theorem nextArchive_spec {now : Timestamp} (hyear : now.HasFourDigitYear) {names : List String}
    (hpast : ∀ n ∈ names, Text.AtMost (order n.toList).stamp now.stamp.toList) {bound : Nat}
    (hbound : bound < Text.limit32)
    (hcounters : ∀ n ∈ names, (order n.toList).stamp = now.stamp.toList →
      (order n.toList).counter < bound) :
    (order (nextArchive now names).toList).stamp = now.stamp.toList ∧
      (order (nextArchive now names).toList).counter ≤ bound ∧
      ∀ n ∈ names, (order n.toList).Before (order (nextArchive now names).toList) := by
  have htext := isStampText_stamp hyear
  have hsmall : ∀ n ∈ names, (order n.toList).stamp = now.stamp.toList →
      (order n.toList).counter + 1 < Text.limit32 := fun n hn hstamp => by
    have hlt := hcounters n hn hstamp
    omega
  rw [nextArchive_toList]
  cases hnext : nextCounter now.stamp.toList names with
  | none =>
    have hother := nextCounter_eq_none.mp hnext
    rw [order_archive_none htext]
    simp only [Order.Before, true_and]
    refine ⟨Nat.zero_le _, fun n hn => .inl ?_⟩
    exact (hpast n hn).resolve_right (hother n hn)
  | some counter =>
    obtain ⟨⟨last, hlast, horder, hpos⟩, hhighest⟩ := nextCounter_eq_some hsmall hnext
    have hle := hcounters last hlast (by rw [horder])
    have hle : counter - 1 < bound := by rwa [horder] at hle
    have hcounter : counter < Text.limit32 := by omega
    rw [order_archive_some hcounter]
    simp only [Order.Before, true_and]
    refine ⟨by omega, fun n hn => ?_⟩
    rcases hpast n hn with hearlier | hsame
    · exact .inl hearlier
    · exact .inr ⟨hsame, hhighest n hn hsame⟩

def numbered (t : Timestamp) (n : Nat) : String :=
  String.ofList (archive t.stamp.toList (if n = 0 then none else some n))

theorem order_numbered {t : Timestamp} (hyear : t.HasFourDigitYear) {n : Nat}
    (hn : n < Text.limit32) : order (numbered t n).toList = ⟨t.stamp.toList, n⟩ := by
  rw [numbered, String.toList_ofList]
  split_ifs with hzero
  · rw [order_archive_none (isStampText_stamp hyear), hzero]
  · exact order_archive_some hn

/-- The counter of 32 bits goes on from the last one, and after its highest value from zero. -/
theorem nextArchive_numbered {t : Timestamp} (hyear : t.HasFourDigitYear) {n : Nat}
    (hn : n < Text.limit32) :
    nextArchive t [numbered t n] =
      String.ofList (archive t.stamp.toList (some ((n + 1) % Text.limit32))) := by
  have hcounter : nextCounter t.stamp.toList [numbered t n] =
      some ((n + 1) % Text.limit32) := by
    simp [nextCounter, order_numbered hyear hn]
  rw [nextArchive, hcounter]

theorem nextArchive_numbered_of_lt {t : Timestamp} (hyear : t.HasFourDigitYear) {n : Nat}
    (hn : n + 1 < Text.limit32) : nextArchive t [numbered t n] = numbered t (n + 1) := by
  rw [nextArchive_numbered hyear (Nat.lt_of_succ_lt hn), Nat.mod_eq_of_lt hn]
  rfl

/-! ## Names as parts of paths -/

def IsNameChar (c : Char) : Prop := c ≠ '/' ∧ c ≠ '\x00' ∧ c.val ≤ 127

instance (c : Char) : Decidable (IsNameChar c) := inferInstanceAs (Decidable (_ ∧ _))

theorem areNameChars {s : List Char} (h : s.all fun c => decide (IsNameChar c)) :
    ∀ c ∈ s, IsNameChar c := fun c hc => of_decide_eq_true (List.all_eq_true.mp h c hc)

theorem isNameChar_of_isDigit {c : Char} (h : Text.isDigit c = true) : IsNameChar c := by
  have hrange : '0' ≤ c ∧ c ≤ '9' := by
    simpa [Text.isDigit] using h
  refine ⟨?_, ?_, ?_⟩
  · rintro rfl
    exact absurd hrange (by decide)
  · rintro rfl
    exact absurd hrange (by decide)
  · exact Nat.le_trans hrange.2 (by decide)

theorem isNameChar_of_mem_stamp {t : Timestamp} {c : Char} (hc : c ∈ t.stamp.toList) :
    IsNameChar c := by
  have hpadded {width n : Nat} (h : c ∈ (Text.padded width n).toList) : IsNameChar c :=
    isNameChar_of_isDigit (Text.isDigit_of_mem_padded h)
  have hletter {letters : String} (h : c ∈ letters.toList)
      (hletters : letters.toList.all fun c => decide (IsNameChar c)) : IsNameChar c :=
    areNameChars hletters c h
  have hyear (h : c ∈ (Timestamp.yearText t.date.year).toList) : IsNameChar c := by
    unfold Timestamp.yearText at h
    split_ifs at h
    · exact hpadded h
    · exact (List.mem_append.mp (String.toList_append .. ▸ h)).elim (hletter · (by decide)) hpadded
    · exact (List.mem_append.mp (String.toList_append .. ▸ h)).elim (hletter · (by decide)) hpadded
  simp only [Timestamp.stamp, String.toList_append, List.mem_append] at hc
  rcases hc with ((((((((hc | hc) | hc) | hc) | hc) | hc) | hc) | hc) | hc) | hc
  · exact hyear hc
  case inl.inl.inl.inl.inl.inl.inr => exact hletter hc (by decide)
  case inl.inl.inr => exact hletter hc (by decide)
  case inr => exact hletter hc (by decide)
  all_goals exact hpadded hc

/-- A name that begins as archives do is no special one. -/
theorem isPlainName_ofList {name : List Char} (hchars : ∀ c ∈ name, IsNameChar c)
    (hstart : archiveStart <+: name) (hlen : name.length ≤ Disk.nameLimit) :
    Disk.IsPlainName (String.ofList name) := by
  have hstartLength : archiveStart.length = 14 := rfl
  have hlong := hstart.length_le
  refine Disk.isPlainName_of_ascii ?_ ?_ (fun c hc => (hchars c hc).2.2) (by omega) hlen
  · exact fun h => (hchars _ h).1 rfl
  · exact fun h => (hchars _ h).2.1 rfl

theorem isPlainName_active : Disk.IsPlainName active := by
  constructor <;> decide

theorem isPlainName_predecessor : Disk.IsPlainName predecessor := by
  constructor <;> decide

theorem nextCounter_lt {stamp : List Char} {names : List String} {counter : Nat}
    (h : nextCounter stamp names = some counter) : counter < Text.limit32 := by
  obtain ⟨o, -, rfl⟩ := List.mem_map.mp (List.max?_eq_some_iff.mp h).1
  exact Nat.mod_lt _ (by decide)

theorem counterText_spec {counter : Option Nat}
    (h : ∀ n, counter = some n → n < Text.limit32) :
    (∀ c ∈ counterText counter, IsNameChar c) ∧ (counterText counter).length ≤ 11 := by
  cases counter with
  | none => simp [counterText]
  | some n =>
    have hdigits : (Nat.toDigits 10 n).length ≤ 10 :=
      (Nat.length_toDigits_le_iff (by decide) (by decide)).mpr
        (Nat.lt_trans (h n rfl) (by decide))
    constructor
    · intro c hc
      rcases List.mem_cons.mp hc with rfl | hdigit
      · decide
      · exact isNameChar_of_isDigit (Text.isDigit_of_mem_toDigits hdigit)
    · simp only [counterText, List.length_cons]
      omega

theorem length_stamp {t : Timestamp} (ht : t.IsWellFormed) (hyear : t.HasFourDigitYear) :
    t.stamp.toList.length = 20 := by
  have two {n : Nat} (hn : n < 100) : (Text.padded 2 n).toList.length = 2 :=
    Text.length_padded (by decide) hn
  have hyearLength : (Text.padded 4 t.date.year.toNat).toList.length = 4 := by
    obtain ⟨-, hmax⟩ := hyear
    exact Text.length_padded (by decide) (by omega)
  have hmonth := two (Nat.lt_trans t.month_lt (by decide))
  have hday := two (Nat.lt_trans t.day_lt (by decide))
  have hhour := two (Nat.lt_trans t.hour_lt (by decide))
  have hminute := two (Nat.lt_trans t.minute_lt (by decide))
  have hsecond := two (Nat.lt_trans (Timestamp.second_lt ht) (by decide))
  have hmillis : (Text.padded 3 (t.subsecond / 1000000)).toList.length = 3 := by
    have hlt := t.subsecond_lt
    exact Text.length_padded (by decide) (by omega)
  rw [Timestamp.stamp_toList hyear]
  simp only [Timestamp.clockText, List.length_append, List.length_cons, List.length_nil,
    hyearLength, hmonth, hday, hhour, hminute, hsecond, hmillis]

theorem nextArchive_chars (now : Timestamp) (names : List String) :
    ∀ c ∈ (nextArchive now names).toList, IsNameChar c := by
  have hcounter := counterText_spec fun _ => @nextCounter_lt now.stamp.toList names _
  rw [nextArchive_toList, archive_eq]
  simp only [List.mem_append]
  rintro c ((hc | hc | hc) | hc)
  · exact areNameChars (by decide : archiveStart.all fun c => decide (IsNameChar c)) c hc
  · exact isNameChar_of_mem_stamp hc
  · exact hcounter.1 c hc
  · exact areNameChars (by decide : archiveEnd.all fun c => decide (IsNameChar c)) c hc

theorem archiveStart_prefix_nextArchive (now : Timestamp) (names : List String) :
    archiveStart <+: (nextArchive now names).toList := by
  have harchive := isArchive_nextArchive now names
  rw [isArchive, Bool.and_eq_true] at harchive
  exact List.isPrefixOf_iff_prefix.mp harchive.1

theorem isPlainName_nextArchive {now : Timestamp} (hnow : now.IsWellFormed)
    (hyear : now.HasFourDigitYear) (names : List String) :
    Disk.IsPlainName (nextArchive now names) := by
  have hlen := length_stamp hnow hyear
  have hstartLength : archiveStart.length = 14 := rfl
  have hendLength : archiveEnd.length = 3 := rfl
  have hcounter := counterText_spec fun _ => @nextCounter_lt now.stamp.toList names _
  rw [← String.ofList_toList (s := nextArchive now names)]
  apply isPlainName_ofList (nextArchive_chars now names) (archiveStart_prefix_nextArchive now names)
  rw [nextArchive_toList, archive_eq]
  simp only [List.length_append, hlen, hstartLength, hendLength]
  have hcounterLength := hcounter.2
  have hlimit : 48 ≤ Disk.nameLimit := by decide
  omega

end LogName
end DnsFilter
