import DnsFilter.Time.Rfc3339
import DnsFilter.Proofs.Text.Digits
import DnsFilter.Proofs.Time.Calendar
/-!
# Reading timestamps that were written

A timestamp of the years 0 to 9999 is read back from its text to the nanosecond, in a leap second
too, and every timestamp that is read from a text is well formed.
-/
namespace DnsFilter

/-- A leap second only goes on from the last second of a minute. -/
def Timestamp.IsWellFormed (t : Timestamp) : Prop :=
  t.fraction < Duration.nanosPerSecond ∨
    t.fraction < 2 * Duration.nanosPerSecond ∧ t.seconds % 60 = 59

def Timestamp.HasFourDigitYear (t : Timestamp) : Prop := 0 ≤ t.date.year ∧ t.date.year ≤ 9999

namespace Timestamp

instance (t : Timestamp) : Decidable t.IsWellFormed := inferInstanceAs (Decidable (_ ∨ _))

instance (t : Timestamp) : Decidable t.HasFourDigitYear := inferInstanceAs (Decidable (_ ∧ _))

theorem secondOfDay_lt (t : Timestamp) : t.secondOfDay < 86400 := by
  unfold secondOfDay
  omega

theorem hour_lt (t : Timestamp) : t.hour < 24 := by
  have hday := t.secondOfDay_lt
  unfold hour
  omega

theorem minute_lt (t : Timestamp) : t.minute < 60 := by
  unfold minute
  omega

theorem month_lt (t : Timestamp) : t.date.month < 13 := by
  obtain ⟨-, hlast, -⟩ := Date.inCalendar_ofDays (t.seconds / 86400 + epochDays)
  exact Nat.lt_succ_of_le hlast

theorem day_lt (t : Timestamp) : t.date.day < 32 := by
  obtain ⟨-, hlast, -, hday⟩ := Date.inCalendar_ofDays (t.seconds / 86400 + epochDays)
  have hall : ∀ leap : Bool, ∀ month < 13, (Date.monthLengths leap).getD (month - 1) 0 < 32 := by
    decide
  exact Nat.lt_of_le_of_lt hday (hall _ _ (Nat.lt_succ_of_le hlast))

theorem subsecond_lt (t : Timestamp) : t.subsecond < 10 ^ 9 :=
  Nat.mod_lt _ (by decide)

theorem IsWellFormed.leap {t : Timestamp} (h : t.IsWellFormed) :
    t.fraction / Duration.nanosPerSecond = 0 ∨
      t.fraction / Duration.nanosPerSecond = 1 ∧ t.secondOfDay % 60 = 59 := by
  have hnanos : Duration.nanosPerSecond = 1000000000 := rfl
  unfold IsWellFormed at h
  unfold secondOfDay
  rw [hnanos] at h ⊢
  omega

theorem second_lt {t : Timestamp} (h : t.IsWellFormed) : t.second < 61 := by
  have hleap := h.leap
  unfold second
  omega

theorem ofDate_date (t : Timestamp) :
    ofDate t.date (t.hour * 3600 + t.minute * 60 + t.secondOfDay % 60 : Nat) t.fraction = t := by
  have hclock : t.hour * 3600 + t.minute * 60 + t.secondOfDay % 60 = t.secondOfDay := by
    unfold hour minute
    omega
  have hdays : t.date.toDays = t.seconds / 86400 + epochDays := Date.toDays_ofDays _
  have hseconds : (t.secondOfDay : Int) = t.seconds % 86400 := by
    unfold secondOfDay
    omega
  rw [hclock, ofDate, hdays, hseconds]
  congr
  omega

theorem HasFourDigitYear.supported {t : Timestamp} (h : t.HasFourDigitYear) :
    Date.minYear ≤ t.date.year ∧ t.date.year ≤ Date.maxYear := by
  obtain ⟨hyear, hmax⟩ := h
  simp only [Date.minYear, Date.maxYear]
  omega

theorem isValid_date {t : Timestamp} (h : t.HasFourDigitYear) : t.date.isValid = true := by
  obtain ⟨hmonth, hlast, hday, hlen⟩ := Date.inCalendar_ofDays (t.seconds / 86400 + epochDays)
  obtain ⟨hlow, hhigh⟩ := h.supported
  simp only [Date.isValid, Bool.and_eq_true, decide_eq_true_eq]
  exact ⟨⟨⟨⟨⟨hlow, hhigh⟩, hmonth⟩, hlast⟩, hday⟩, hlen⟩

theorem isSupported_of_year {t : Timestamp} (h : t.HasFourDigitYear) : t.isSupported = true := by
  simp only [isSupported, Bool.and_eq_true, decide_eq_true_eq]
  exact h.supported

theorem yearText_eq {t : Timestamp} (h : t.HasFourDigitYear) :
    yearText t.date.year = Text.padded 4 t.date.year.toNat := if_pos h

end Timestamp

namespace Rfc3339

/-! ## Numbers -/

theorem isBlank_of_isDigit {c : Char} (h : Text.isDigit c = true) : Text.isBlank c = false := by
  simp only [Text.isDigit, Bool.and_eq_true, decide_eq_true_eq, Char.le_def,
    UInt32.le_iff_toNat_le] at h
  have hlow : 48 ≤ c.toNat := h.1
  have hhigh : c.toNat ≤ 57 := h.2
  simp only [Text.isBlank, Bool.or_eq_false_iff, Bool.and_eq_false_imp, beq_eq_false_iff_ne,
    decide_eq_true_eq, decide_eq_false_iff_not]
  omega

theorem trimStart_stops {s : List Char} (h : Text.Stops Text.isBlank s) : Text.trimStart s = s :=
  h.dropWhile_eq

theorem readMark_cons {c : Char} (hc : Text.isBlank c = false) (s : List Char) :
    readMark c (c :: s) = some s := by
  simp [readMark, trimStart_stops (Text.stops_cons hc s)]

/-- Digits up to the width, or fewer of them before a text that does not go on with one. -/
theorem takeWhile_take {width : Nat} {digits rest : List Char}
    (hdigits : ∀ c ∈ digits, Text.isDigit c = true) (hlen : digits.length ≤ width)
    (hrest : digits.length = width ∨ Text.Stops Text.isDigit rest) :
    ((digits ++ rest).take width).takeWhile Text.isDigit = digits := by
  rw [List.take_append, List.take_of_length_le hlen]
  apply Text.takeWhile_run hdigits
  rcases hrest with hfull | hstops
  · rw [hfull, Nat.sub_self, List.take_zero]
    exact Text.stops_nil _
  · intro c hc
    cases rest with
    | nil => simp at hc
    | cons d rest =>
      obtain rfl : d = c := by
        cases hmore : width - digits.length with
        | zero => simp [hmore] at hc
        | succ more => simpa [hmore] using hc
      exact hstops d rfl

theorem readDigits_run {width : Nat} {digits rest : List Char} (hne : digits ≠ [])
    (hdigits : ∀ c ∈ digits, Text.isDigit c = true) (hlen : digits.length ≤ width)
    (hrest : digits.length = width ∨ Text.Stops Text.isDigit rest) :
    readDigits width (digits ++ rest) = some (Text.decimalValue digits, rest) := by
  simp [readDigits, takeWhile_take hdigits hlen hrest, hne]

section
variable {width n : Nat} (hwidth : 0 < width) (hn : n < 10 ^ width) (rest : List Char)
include hwidth hn

theorem padded_ne_nil : (Text.padded width n).toList ≠ [] := by
  have hlen := Text.length_padded hwidth hn
  intro hempty
  rw [hempty, List.length_nil] at hlen
  omega

theorem head_padded {c : Char} (hc : ((Text.padded width n).toList ++ rest).head? = some c) :
    Text.isDigit c = true := by
  obtain ⟨d, digits, hdigits⟩ := List.exists_cons_of_ne_nil (padded_ne_nil hwidth hn)
  rw [hdigits] at hc
  obtain rfl := Option.some.inj hc
  exact Text.isDigit_of_mem_padded (hdigits ▸ List.mem_cons_self)

theorem trimStart_padded :
    Text.trimStart ((Text.padded width n).toList ++ rest) =
      (Text.padded width n).toList ++ rest :=
  trimStart_stops fun _ hc => isBlank_of_isDigit (head_padded hwidth hn rest hc)

theorem readDigits_padded :
    readDigits width ((Text.padded width n).toList ++ rest) = some (n, rest) := by
  have hlen := Text.length_padded hwidth hn
  rw [readDigits_run (padded_ne_nil hwidth hn) (fun _ => Text.isDigit_of_mem_padded)
    (Nat.le_of_eq hlen) (.inl hlen), Text.decimalValue_padded]

theorem readNumber_padded :
    readNumber width ((Text.padded width n).toList ++ rest) = some (n, rest) := by
  rw [readNumber, trimStart_padded hwidth hn, readDigits_padded hwidth hn]

end

theorem readYear_padded {n : Nat} (hn : n < 10 ^ 4) (rest : List Char) :
    readYear ((Text.padded 4 n).toList ++ rest) = some ((n : Int), rest) := by
  have hhead := @head_padded 4 n (by decide) hn rest
  have hread := readDigits_padded (by decide) hn rest
  rw [readYear, trimStart_padded (by decide) hn]
  split
  case h_1 hminus => exact absurd (hhead (by rw [hminus]; rfl)) (by decide)
  case h_2 hplus => exact absurd (hhead (by rw [hplus]; rfl)) (by decide)
  case h_3 => rw [hread]; rfl

/-! ## The fraction of a second -/

theorem readFraction_digits {width nanos : Nat} (hwidth : 0 < width) (hnine : width ≤ 9)
    (hn : nanos < 10 ^ width) {rest : List Char} (hrest : Text.Stops Text.isDigit rest) :
    readFraction ('.' :: ((Text.padded width nanos).toList ++ rest)) =
      some (nanos * 10 ^ (9 - width), rest) := by
  have hdigits : ∀ c ∈ (Text.padded width nanos).toList, Text.isDigit c = true := fun _ =>
    Text.isDigit_of_mem_padded
  have hlen := Text.length_padded hwidth hn
  have hrun := takeWhile_take hdigits (hlen ▸ hnine) (.inr hrest)
  have hread := readDigits_run (padded_ne_nil hwidth hn) hdigits (hlen ▸ hnine) (.inr hrest)
  have hdrop : rest.dropWhile Text.isDigit = rest := hrest.dropWhile_eq
  simp [readFraction, hrun, hread, hdrop, hlen]

theorem readFraction_text {nanos : Nat} (hn : nanos < 10 ^ 9) (rest : List Char) :
    readFraction ((fractionText nanos).toList ++ 'Z' :: rest) = some (nanos, 'Z' :: rest) := by
  have hstops : Text.Stops Text.isDigit ('Z' :: rest) := Text.stops_cons (by decide) _
  have hdot (digits : String) :
      ("." ++ digits).toList ++ 'Z' :: rest = '.' :: (digits.toList ++ 'Z' :: rest) := by
    simp
  rw [fractionText]
  split_ifs with hzero hmillis hmicros
  · rw [hzero]
    rfl
  · have hexact : nanos / 1000000 * 10 ^ (9 - 3) = nanos := by omega
    rw [hdot, readFraction_digits (by decide) (by decide) (by omega) hstops, hexact]
  · have hexact : nanos / 1000 * 10 ^ (9 - 6) = nanos := by omega
    rw [hdot, readFraction_digits (by decide) (by decide) (by omega) hstops, hexact]
  · rw [hdot, readFraction_digits (by decide) (by decide) hn hstops, Nat.sub_self, Nat.pow_zero,
      Nat.mul_one]

/-! ## Date, time of day and offset -/

theorem readDate_text {year month day : Nat} (hyear : year < 10 ^ 4) (hmonth : month < 10 ^ 2)
    (hday : day < 10 ^ 2) (rest : List Char) :
    readDate ((Text.padded 4 year).toList ++ '-' :: ((Text.padded 2 month).toList ++
      '-' :: ((Text.padded 2 day).toList ++ rest))) = some (⟨year, month, day⟩, rest) := by
  simp [readDate, readYear_padded hyear, readMark_cons (c := '-') (by decide),
    readNumber_padded (by decide) hmonth, readNumber_padded (by decide) hday]

theorem readClock_text {hour minute second leap nanos : Nat}
    (h : hour < 24 ∧ minute < 60 ∧ second < 60)
    (hleap : leap = 0 ∨ leap = 1 ∧ second = 59) (hnanos : nanos < 10 ^ 9) (rest : List Char) :
    readClock ((Text.padded 2 hour).toList ++ ':' :: ((Text.padded 2 minute).toList ++
      ':' :: ((Text.padded 2 (second + leap)).toList ++
        ((fractionText nanos).toList ++ 'Z' :: rest)))) =
      some ((hour * 3600 + minute * 60 + second, nanos + leap * Duration.nanosPerSecond),
        'Z' :: rest) := by
  have hcarry : (second + leap) / 60 = leap := by omega
  have hhour : hour < 10 ^ 2 := by omega
  have hminute : minute < 10 ^ 2 := by omega
  have hsecond : second + leap < 10 ^ 2 := by omega
  have hbounds : ¬(23 < hour ∨ 59 < minute ∨ 60 < second + leap) := by omega
  simp only [readClock, readNumber_padded (by decide) hhour,
    readNumber_padded (by decide) hminute,
    readNumber_padded (by decide) hsecond,
    readMark_cons (c := ':') (by decide), readFraction_text hnanos, Option.bind_eq_bind,
    Option.bind_some, hcarry, Nat.add_sub_cancel]
  simp [hbounds, or_assoc]

theorem text_toList (t : Timestamp) (h : t.HasFourDigitYear) :
    (text t).toList =
      (Text.padded 4 t.date.year.toNat).toList ++ '-' :: ((Text.padded 2 t.date.month).toList ++
        '-' :: ((Text.padded 2 t.date.day).toList ++ 'T' :: ((Text.padded 2 t.hour).toList ++
          ':' :: ((Text.padded 2 t.minute).toList ++ ':' :: ((Text.padded 2 t.second).toList ++
            ((fractionText t.subsecond).toList ++ ['Z'])))))) := by
  simp [text, Timestamp.yearText_eq h]

theorem parse?_text {t : Timestamp} (h : t.IsWellFormed) (hyear : t.HasFourDigitYear) :
    parse? (text t) = some t := by
  have hfour : t.date.year.toNat < 10 ^ 4 := by
    obtain ⟨hzero, hmax⟩ := hyear
    omega
  have hdate : Date.mk t.date.year.toNat t.date.month t.date.day = t.date := by
    rw [Int.toNat_of_nonneg hyear.1]
  have hmonth : t.date.month < 10 ^ 2 := Nat.lt_trans t.month_lt (by decide)
  have hday : t.date.day < 10 ^ 2 := Nat.lt_trans t.day_lt (by decide)
  have hclock := readClock_text ⟨t.hour_lt, t.minute_lt, Nat.mod_lt t.secondOfDay (by decide)⟩
    (Or.imp_right (And.imp_right id) h.leap) t.subsecond_lt []
  have hoffset : readOffset ['Z'] = some (0, []) := by decide
  have hbetween (s : List Char) : readBetween ('T' :: s) = some s := rfl
  have hblank : Text.trimStart ['Z'] = ['Z'] := by decide
  have hnanos : t.subsecond + t.fraction / Duration.nanosPerSecond * Duration.nanosPerSecond =
      t.fraction := Nat.mod_add_div' _ _
  have hsecond : t.second = t.secondOfDay % 60 + t.fraction / Duration.nanosPerSecond := rfl
  rw [parse?, text_toList t hyear, parseChars?, readDate_text hfour hmonth hday, hdate, hsecond]
  simp only [Option.bind_eq_bind, Option.bind_some, hbetween, hclock, hblank, hoffset, hnanos,
    Int.sub_zero, t.ofDate_date, Timestamp.isValid_date hyear, Timestamp.isSupported_of_year hyear]
  rfl

/-! ## Texts of any form -/

theorem isDigit_of_mem_takeWhile {s : List Char} : ∀ c ∈ s.takeWhile Text.isDigit,
    Text.isDigit c = true :=
  List.all_eq_true.mp List.all_takeWhile

theorem readFraction_lt {s rest : List Char} {nanos : Nat}
    (h : readFraction s = some (nanos, rest)) : nanos < 10 ^ 9 := by
  unfold readFraction at h
  split at h
  case h_2 =>
    obtain ⟨rfl, -⟩ := Prod.mk.inj (Option.some.inj h)
    decide
  case h_1 s =>
    simp only [readDigits] at h
    split_ifs at h
    · cases h
    · simp only [Option.bind_eq_bind, Option.bind_some, Option.some.injEq, Prod.mk.injEq] at h
      obtain ⟨rfl, -⟩ := h
      have hlt := Text.decimalValue_lt (isDigit_of_mem_takeWhile (s := s.take 9))
      have hlen : ((s.take 9).takeWhile Text.isDigit).length ≤ 9 :=
        Nat.le_trans (List.takeWhile_sublist _).length_le (List.length_take_le ..)
      generalize (s.take 9).takeWhile Text.isDigit = digits at *
      calc Text.decimalValue digits * 10 ^ (9 - digits.length)
          < 10 ^ digits.length * 10 ^ (9 - digits.length) :=
            Nat.mul_lt_mul_of_pos_right hlt (Nat.pow_pos (by decide))
        _ = 10 ^ 9 := by rw [← Nat.pow_add, Nat.add_sub_cancel' hlen]

theorem readClock_spec {s rest : List Char} {seconds nanos : Nat}
    (h : readClock s = some ((seconds, nanos), rest)) :
    nanos < Duration.nanosPerSecond ∨
      nanos < 2 * Duration.nanosPerSecond ∧ seconds % 60 = 59 := by
  simp only [readClock, Option.bind_eq_bind, Option.bind_eq_some_iff] at h
  obtain ⟨⟨hour, s₁⟩, -, s₂, -, ⟨minute, s₃⟩, -, s₄, -, ⟨second, s₅⟩, -, ⟨read, s₆⟩, hread, h⟩ := h
  have hlt := readFraction_lt hread
  have hnanos : Duration.nanosPerSecond = 10 ^ 9 := rfl
  simp only at h
  split_ifs at h with hbounds
  · cases h
  · simp only [Bool.or_eq_true, decide_eq_true_eq, not_or] at hbounds
    simp only [Option.some.injEq, Prod.mk.injEq] at h
    obtain ⟨⟨rfl, rfl⟩, -⟩ := h
    rw [hnanos]
    have hcarry : second / 60 = 0 ∨ second / 60 = 1 ∧ second = 60 := by omega
    rcases hcarry with hnone | ⟨hone, hsixty⟩ <;> omega

theorem readOffset_mod {s rest : List Char} {offset : Int}
    (h : readOffset s = some (offset, rest)) : offset % 60 = 0 := by
  unfold readOffset at h
  split_ifs at h with hutc
  · obtain ⟨rfl, -⟩ := Prod.mk.inj (Option.some.inj h)
    rfl
  · split at h
    · obtain ⟨rfl, -⟩ := Prod.mk.inj (Option.some.inj h)
      rfl
    · obtain ⟨rfl, -⟩ := Prod.mk.inj (Option.some.inj h)
      rfl
    · simp only [Option.bind_eq_bind, Option.bind_eq_some_iff] at h
      obtain ⟨negative, -, ⟨hours, s₁⟩, -, ⟨minutes, s₂⟩, -, h⟩ := h
      split_ifs at h
      · cases h
      · cases h
      all_goals
        obtain ⟨rfl, -⟩ := Prod.mk.inj (Option.some.inj h)
        omega
    · cases h

theorem parse?_isWellFormed {s : String} {t : Timestamp} (h : parse? s = some t) :
    t.IsWellFormed := by
  simp only [parse?, parseChars?, Option.bind_eq_bind, Option.bind_eq_some_iff] at h
  obtain ⟨⟨date, s₁⟩, -, s₂, -, ⟨⟨seconds, nanos⟩, s₃⟩, hclock, ⟨offset, s₄⟩, hoffset, h⟩ := h
  have hmod := readOffset_mod hoffset
  simp only at h
  split_ifs at h
  obtain rfl := Option.some.inj h
  rcases readClock_spec hclock with hshort | ⟨hlong, hlast⟩
  · exact .inl hshort
  · refine .inr ⟨hlong, ?_⟩
    simp only [Timestamp.ofDate]
    omega

end Rfc3339
end DnsFilter
