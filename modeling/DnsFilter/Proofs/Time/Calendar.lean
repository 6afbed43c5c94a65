import Mathlib.Algebra.GroupWithZero.Nat
import Mathlib.Tactic.SplitIfs
import DnsFilter.Time.Date
/-!
# The count of days

The date of a day number is a date of the calendar and counts the same number of days, and later
days have later dates.
-/
namespace DnsFilter.Date

/-! ## Months -/

theorem monthAndDay_spec {lengths : List Nat} (first : Nat) {day : Nat} (h : day < lengths.sum) :
    ∃ i < lengths.length, ∃ k, monthAndDay lengths first day = (first + i, k + 1) ∧
      k < lengths.getD i 0 ∧ (lengths.take i).sum + k = day := by
  induction lengths generalizing first day with
  | nil => simp at h
  | cons length rest ih =>
    rw [List.sum_cons] at h
    by_cases hday : day < length
    · exact ⟨0, Nat.succ_pos _, day, by simp [monthAndDay, hday], by simpa using hday, by simp⟩
    · obtain ⟨i, hi, k, hread, hk, hsum⟩ := ih (first + 1) (show day - length < _ by omega)
      refine ⟨i + 1, Nat.succ_lt_succ hi, k, ?_, by simpa using hk, ?_⟩
      · rw [monthAndDay, if_neg hday, hread, Nat.add_assoc, Nat.add_comm 1 i]
      · rw [List.take_succ_cons, List.sum_cons]
        omega

theorem daysBeforeMonth_eq (leap : Bool) (month : Nat) :
    daysBeforeMonth leap month = ((monthLengths leap).take (month - 1)).sum := by
  rw [daysBeforeMonth, List.sum_eq_foldl]

def yearLength (year : Int) : Nat := if isLeap year then 366 else 365

theorem sum_monthLengths (year : Int) : (monthLengths (isLeap year)).sum = yearLength year := by
  cases hleap : isLeap year <;> simp [monthLengths, yearLength, hleap]

theorem daysBeforeMonth_lt (leap : Bool) {month later : Nat} (hmonth : 1 ≤ month)
    (hlt : month < later) (hlater : later ≤ 12) :
    daysBeforeMonth leap month + (monthLengths leap).getD (month - 1) 0 ≤
      daysBeforeMonth leap later := by
  have hall : ∀ leap : Bool, ∀ later < 13, ∀ month < later, 1 ≤ month →
      daysBeforeMonth leap month + (monthLengths leap).getD (month - 1) 0 ≤
        daysBeforeMonth leap later := by decide
  exact hall leap later (by omega) month hlt hmonth

theorem daysBeforeMonth_le_year (year : Int) {month : Nat} (hmonth : 1 ≤ month)
    (hlast : month ≤ 12) :
    daysBeforeMonth (isLeap year) month + monthLength year month ≤ yearLength year := by
  have hall : ∀ leap : Bool, ∀ month < 13, 1 ≤ month →
      daysBeforeMonth leap month + (monthLengths leap).getD (month - 1) 0 ≤
        (if leap then 366 else 365) := by decide
  exact hall (isLeap year) month (by omega) hmonth

/-! ## Years -/

theorem isLeap_iff (year : Int) :
    isLeap year = true ↔ year % 4 = 0 ∧ (year % 100 ≠ 0 ∨ year % 400 = 0) := by
  simp [isLeap]

theorem daysBeforeYear_succ (year : Int) :
    daysBeforeYear (year + 1) = daysBeforeYear year + yearLength year := by
  simp only [yearLength, isLeap_iff, daysBeforeYear]
  split_ifs <;> omega

theorem daysBeforeYear_le {year later : Int} (h : year ≤ later) :
    daysBeforeYear year ≤ daysBeforeYear later := by
  simp only [daysBeforeYear]
  omega

section
variable (q : Int) {n100 n4 n1 : Nat} (h100 : n100 ≤ 3) (h4 : n4 ≤ 24) (h1 : n1 ≤ 3)
include h100 h4 h1

theorem daysBeforeYear_cycles :
    daysBeforeYear (q * 400 + (n100 * 100 + n4 * 4 + n1 + 1 : Nat)) =
      q * 146097 + (n100 * 36524 + n4 * 1461 + n1 * 365 : Nat) := by
  have hfour : (q * 400 + (n100 * 100 + n4 * 4 + n1 + 1 : Nat) - 1) / 4 =
      q * 100 + (n100 * 25 + n4 : Nat) := by omega
  have hhundred : (q * 400 + (n100 * 100 + n4 * 4 + n1 + 1 : Nat) - 1) / 100 =
      q * 4 + (n100 : Nat) := by omega
  have hcycle : (q * 400 + (n100 * 100 + n4 * 4 + n1 + 1 : Nat) - 1) / 400 = q := by omega
  simp only [daysBeforeYear, hfour, hhundred, hcycle]
  omega

/-- The fourth year of four is a leap year, the last of a hundred years only if it is the last of
four hundred. -/
theorem isLeap_cycles :
    isLeap (q * 400 + (n100 * 100 + n4 * 4 + n1 + 1 : Nat)) = true ↔
      n1 = 3 ∧ (n4 = 24 → n100 = 3) := by
  rw [isLeap_iff]
  omega

end

theorem exists_year (n : Int) :
    ∃ (year : Int) (day : Nat), day < yearLength year ∧ n = daysBeforeYear year + day ∧
      ofDays n =
        let md := monthAndDay (monthLengths (isLeap year)) 1 day
        ⟨year, md.1, md.2⟩ := by
  have hn : n = n / 146097 * 146097 + ((n % 146097).toNat : Nat) := by omega
  have hr400 : (n % 146097).toNat < 146097 := by omega
  refine ⟨_, _, ?_, ?_, rfl⟩
  -- each count of cycles is generalized as soon as its bound is known: what is left is linear
  all_goals
    generalize (n % 146097).toNat = r400 at *
    have h100 : min 3 (r400 / 36524) ≤ 3 := Nat.min_le_left ..
    have hr100 : r400 - min 3 (r400 / 36524) * 36524 ≤ 36524 := by omega
    have hlast : r400 - min 3 (r400 / 36524) * 36524 = 36524 → min 3 (r400 / 36524) = 3 := by omega
    have hsplit : r400 = min 3 (r400 / 36524) * 36524 +
      (r400 - min 3 (r400 / 36524) * 36524) := by omega
    generalize min 3 (r400 / 36524) = n100 at *
    generalize r400 - n100 * 36524 = r100 at *
    have h1 : min 3 (r100 % 1461 / 365) ≤ 3 := Nat.min_le_left ..
  · rw [yearLength]
    simp only [isLeap_cycles (n / 146097) h100 (show r100 / 1461 ≤ 24 by omega) h1]
    split_ifs <;> omega
  · rw [daysBeforeYear_cycles (n / 146097) h100 (by omega) h1]
    omega

/-! ## Dates -/

def InCalendar (d : Date) : Prop :=
  1 ≤ d.month ∧ d.month ≤ 12 ∧ 1 ≤ d.day ∧ d.day ≤ monthLength d.year d.month

theorem ofDays_spec (n : Int) : (ofDays n).InCalendar ∧ (ofDays n).toDays = n := by
  obtain ⟨year, day, hday, hn, hdate⟩ := exists_year n
  rw [← sum_monthLengths] at hday
  obtain ⟨i, hi, k, hread, hk, hsum⟩ := monthAndDay_spec 1 hday
  have hlen : (monthLengths (isLeap year)).length = 12 := rfl
  rw [hdate, hread]
  refine ⟨⟨by simp, ?_, by simp, ?_⟩, ?_⟩
  · simp only
    omega
  · simp only [monthLength, Nat.add_sub_cancel_left]
    omega
  · simp only [toDays, daysBeforeMonth_eq, Nat.add_sub_cancel_left]
    omega

theorem inCalendar_ofDays (n : Int) : (ofDays n).InCalendar := (ofDays_spec n).1

@[simp] theorem toDays_ofDays (n : Int) : (ofDays n).toDays = n := (ofDays_spec n).2

/-- An earlier year, or an earlier month or day of the same year. -/
def Before (d e : Date) : Prop :=
  d.year < e.year ∨ d.year = e.year ∧ (d.month < e.month ∨ d.month = e.month ∧ d.day < e.day)

theorem toDays_lt {d e : Date} (hd : d.InCalendar) (he : e.InCalendar) (h : d.Before e) :
    d.toDays < e.toDays := by
  obtain ⟨hdmonth, hdlast, hdday, hdlen⟩ := hd
  obtain ⟨hemonth, helast, heday, helen⟩ := he
  simp only [toDays]
  rcases h with hyear | ⟨hyear, hmonth | ⟨hmonth, hday⟩⟩
  · have hnext := daysBeforeYear_le (Int.add_one_le_iff.mpr hyear)
    have hsucc := daysBeforeYear_succ d.year
    have hrest := daysBeforeMonth_le_year d.year hdmonth hdlast
    omega
  · have hnext := daysBeforeMonth_lt (isLeap d.year) hdmonth hmonth helast
    rw [monthLength] at hdlen
    rw [← hyear]
    omega
  · rw [hyear, hmonth]
    omega

/-- A later day has no earlier date. -/
theorem not_before_of_le {m n : Int} (h : m ≤ n) : ¬(ofDays n).Before (ofDays m) := by
  intro hbefore
  have hlt := toDays_lt (inCalendar_ofDays n) (inCalendar_ofDays m) hbefore
  rw [toDays_ofDays, toDays_ofDays] at hlt
  omega

theorem before_of_lt {m n : Int} (h : m < n) : (ofDays m).Before (ofDays n) := by
  have hnot := not_before_of_le (Int.le_of_lt h)
  have hne : ofDays m ≠ ofDays n := by
    intro heq
    have hdays := congrArg toDays heq
    rw [toDays_ofDays, toDays_ofDays] at hdays
    omega
  generalize ofDays m = d at hnot hne
  generalize ofDays n = e at hnot hne
  obtain ⟨y, mo, da⟩ := d
  obtain ⟨y', mo', da'⟩ := e
  simp only [Before] at hnot ⊢
  simp only [ne_eq, Date.mk.injEq] at hne
  omega

end DnsFilter.Date
