import DnsFilter.Proofs.Text.Blank
import DnsFilter.Time.Interval
/-!
# Texts of intervals

What is read as an interval is a number and a unit with nothing but white space around them, whose
product has 64 bits. The text of whole seconds is such a number with its unit, so it is read back.
-/
namespace DnsFilter.Interval

inductive TimeUnit
  | second | minute | hour | day
  deriving DecidableEq, Repr

namespace TimeUnit

def letter : TimeUnit → Char
  | second => 's'
  | minute => 'm'
  | hour => 'h'
  | day => 'd'

def seconds : TimeUnit → Nat
  | second => 1
  | minute => 60
  | hour => 3600
  | day => 86400

theorem seconds_pos (u : TimeUnit) : 0 < u.seconds := by
  cases u <;> decide

theorem letter_graphic (u : TimeUnit) : 33 ≤ u.letter.toNat ∧ u.letter.toNat ≤ 126 := by
  cases u <;> decide

theorem isDigit_letter (u : TimeUnit) : Text.isDigit u.letter = false := by
  cases u <;> decide

end TimeUnit

theorem unitSeconds?_eq_some_iff {s : List Char} {size : Nat} :
    unitSeconds? s = some size ↔ ∃ u : TimeUnit, s = [u.letter] ∧ u.seconds = size := by
  constructor
  · intro h
    unfold unitSeconds? at h
    split at h
    case h_1 => exact ⟨.second, rfl, Option.some.inj h⟩
    case h_2 => exact ⟨.minute, rfl, Option.some.inj h⟩
    case h_3 => exact ⟨.hour, rfl, Option.some.inj h⟩
    case h_4 => exact ⟨.day, rfl, Option.some.inj h⟩
    case h_5 => cases h
  · rintro ⟨u, rfl, rfl⟩
    cases u <;> rfl

structure Quantity where
  digits : List Char
  unit : TimeUnit
  digits_ne_nil : digits ≠ []
  isDigit_digits : ∀ c ∈ digits, Text.isDigit c = true

namespace Quantity

def value (q : Quantity) : Nat := Text.decimalValue q.digits

def text (q : Quantity) : List Char := q.digits ++ [q.unit.letter]

def seconds (q : Quantity) : Nat := q.value * q.unit.seconds

/-- A number of whole units in decimal digits. -/
def ofNat (n : Nat) (u : TimeUnit) : Quantity where
  digits := Nat.toDigits 10 n
  unit := u
  digits_ne_nil := Nat.toDigits_ne_nil
  isDigit_digits := fun _ => Text.isDigit_of_mem_toDigits

theorem seconds_ofNat (n : Nat) (u : TimeUnit) : (ofNat n u).seconds = n * u.seconds := by
  rw [seconds, value, ofNat, Text.decimalValue_toDigits]

theorem value_le_seconds (q : Quantity) : q.value ≤ q.seconds :=
  Nat.le_mul_of_pos_right q.value q.unit.seconds_pos

theorem stops_letter (q : Quantity) : Text.Stops Text.isDigit [q.unit.letter] :=
  Text.stops_cons q.unit.isDigit_letter []

theorem noBlank_text (q : Quantity) : Text.NoBlank q.text := by
  intro c hc
  apply Text.isBlank_of_graphic
  rcases List.mem_append.mp hc with hdigit | hletter
  · have hrange := Text.isDigit_iff.mp (q.isDigit_digits c hdigit)
    omega
  · obtain rfl := List.mem_singleton.mp hletter
    exact q.unit.letter_graphic

end Quantity

/-! ## Reading -/

theorem parseSeconds_of_trim {s : List Char} {q : Quantity} (hs : Text.trim s = q.text)
    (hfits : q.seconds < Text.limit64) : parseSeconds s = .ok q.seconds := by
  have hdigits : q.text.takeWhile Text.isDigit = q.digits :=
    Text.takeWhile_run q.isDigit_digits q.stops_letter
  have hunit : q.text.dropWhile Text.isDigit = [q.unit.letter] :=
    Text.dropWhile_run q.isDigit_digits q.stops_letter
  have hsize : unitSeconds? [q.unit.letter] = some q.unit.seconds :=
    unitSeconds?_eq_some_iff.mpr ⟨q.unit, rfl, rfl⟩
  have hvalue : ¬Text.limit64 ≤ Text.decimalValue q.digits := by
    have hle := q.value_le_seconds
    unfold Quantity.value at hle
    omega
  have hproduct : Text.decimalValue q.digits * q.unit.seconds < Text.limit64 := hfits
  simp [parseSeconds, hs, hdigits, hunit, hsize, q.digits_ne_nil, hvalue, hproduct,
    Quantity.seconds, Quantity.value]

theorem exists_quantity_of_parseSeconds {s : List Char} {n : Nat} (h : parseSeconds s = .ok n) :
    ∃ q : Quantity, Text.trim s = q.text ∧ q.seconds = n ∧ n < Text.limit64 := by
  simp only [parseSeconds] at h
  split_ifs at h with hunit hdigits
  split at h
  · cases h
  · rename_i size hsize
    split_ifs at h with hfits
    obtain rfl := Except.ok.inj h
    obtain ⟨u, hletter, rfl⟩ := unitSeconds?_eq_some_iff.mp hsize
    have hne : (Text.trim s).takeWhile Text.isDigit ≠ [] := by
      intro hnil
      exact hdigits (by simp [hnil])
    refine ⟨⟨_, u, hne, fun c hc => List.all_eq_true.mp List.all_takeWhile c hc⟩, ?_, rfl, hfits⟩
    rw [Quantity.text, ← hletter, List.takeWhile_append_dropWhile]

/-- What is read is a number and a unit between white space, and it is their product. -/
theorem parse_eq_ok_iff {s : String} {d : Duration} :
    parse s = .ok d ↔ ∃ (before after : List Char) (q : Quantity), Text.AllBlank before ∧
      Text.AllBlank after ∧ s.toList = before ++ q.text ++ after ∧ q.value < Text.limit64 ∧
      q.seconds < Text.limit64 ∧ d = .ofSeconds q.seconds := by
  constructor
  · intro h
    unfold parse at h
    cases hparse : parseSeconds s.toList with
    | error e =>
      rw [hparse] at h
      cases h
    | ok n =>
      rw [hparse] at h
      obtain rfl := Except.ok.inj h
      obtain ⟨q, htrim, rfl, hfits⟩ := exists_quantity_of_parseSeconds hparse
      obtain ⟨before, after, hbefore, hafter, hs⟩ := Text.exists_around_trim s.toList
      rw [htrim] at hs
      exact ⟨before, after, q, hbefore, hafter, hs,
        Nat.lt_of_le_of_lt q.value_le_seconds hfits, hfits, rfl⟩
  · rintro ⟨before, after, q, hbefore, hafter, hs, -, hfits, rfl⟩
    have htrim : Text.trim s.toList = q.text := by
      rw [hs]
      exact Text.trim_surrounded hbefore q.noBlank_text.isTrimmed (by simp [Quantity.text]) hafter
    rw [parse, parseSeconds_of_trim htrim hfits]
    rfl

/-! ## Writing -/

/-- Seconds are written as a number of one unit, which makes them up without a rest. -/
theorem secondsText_eq (n : Nat) : ∃ q : Quantity, secondsText n = q.text ∧ q.seconds = n := by
  unfold secondsText
  split_ifs with hzero hday hhour hminute
  · exact ⟨.ofNat 0 .second, rfl, by rw [Quantity.seconds_ofNat, Nat.zero_mul, hzero]⟩
  · refine ⟨.ofNat (n / 86400) .day, rfl, ?_⟩
    rw [Quantity.seconds_ofNat]
    exact Nat.div_mul_cancel (Nat.dvd_of_mod_eq_zero hday.1)
  · refine ⟨.ofNat (n / 3600) .hour, rfl, ?_⟩
    rw [Quantity.seconds_ofNat]
    exact Nat.div_mul_cancel (Nat.dvd_of_mod_eq_zero hhour)
  · refine ⟨.ofNat (n / 60) .minute, rfl, ?_⟩
    rw [Quantity.seconds_ofNat]
    exact Nat.div_mul_cancel (Nat.dvd_of_mod_eq_zero hminute)
  · exact ⟨.ofNat n .second, rfl, by rw [Quantity.seconds_ofNat, TimeUnit.seconds, Nat.mul_one]⟩

theorem seconds_ofSeconds (n : Nat) : (Duration.ofSeconds n).seconds = n :=
  Nat.mul_div_cancel n (by decide)

/-- The text of an interval that has 64 bits of seconds is read back. -/
theorem parse_text {n : Nat} (h : n < Text.limit64) :
    parse (text (.ofSeconds n)) = .ok (.ofSeconds n) := by
  obtain ⟨q, hq, rfl⟩ := secondsText_eq n
  have hnil : Text.AllBlank [] := by
    intro c hc
    cases hc
  refine parse_eq_ok_iff.mpr ⟨[], [], q, hnil, hnil, ?_, ?_, h, rfl⟩
  · rw [text, seconds_ofSeconds, hq, String.toList_ofList]
    simp
  · exact Nat.lt_of_le_of_lt q.value_le_seconds h

/-- What is read is written so that it is read again as the same. -/
theorem parse_text_of_parse {s : String} {d : Duration} (h : parse s = .ok d) :
    parse (text d) = .ok d := by
  obtain ⟨-, -, q, -, -, -, -, hfits, rfl⟩ := parse_eq_ok_iff.mp h
  exact parse_text hfits

/-- Intervals of 64 bits of whole seconds are read back from their texts. A text is read at all if
and only if it is a number and a unit between white space, and both the number and its product with
the unit have 64 bits; then it is read as that product. -/
theorem texts_are_exact :
    (∀ n < Text.limit64, parse (text (.ofSeconds n)) = .ok (.ofSeconds n)) ∧
      ∀ (s : String) (d : Duration), parse s = .ok d ↔
        ∃ (before after : List Char) (q : Quantity), Text.AllBlank before ∧ Text.AllBlank after ∧
          s.toList = before ++ q.text ++ after ∧ q.value < Text.limit64 ∧
          q.seconds < Text.limit64 ∧ d = .ofSeconds q.seconds := by
  constructor
  · intro n hn
    exact parse_text hn
  · intro s d
    exact parse_eq_ok_iff

/-- The longest interval, and the largest number of days, which stands between white space. -/
theorem longest_intervals_are_read :
    18446744073709551615 < Text.limit64 ∧
      parse (text (.ofSeconds 18446744073709551615)) = .ok (.ofSeconds 18446744073709551615) ∧
      parse "\t213503982334601d " = .ok (.ofSeconds (213503982334601 * 86400)) := by
  have hlimit : 18446744073709551615 < Text.limit64 := by decide
  let days : Quantity := ⟨"213503982334601".toList, .day, by decide, List.all_eq_true.mp (by decide)⟩
  refine ⟨hlimit, texts_are_exact.1 _ hlimit, (texts_are_exact.2 _ _).mpr ?_⟩
  exact ⟨['\t'], [' '], days, by decide, by decide, by decide, by decide, by decide, rfl⟩

/-- One day more is too long. -/
example : (parse "213503982334602d").toOption = none := by decide

end DnsFilter.Interval
