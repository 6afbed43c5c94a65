import Mathlib.Tactic.SplitIfs
import DnsFilter.Text.Ascii
/-!
# Letters and digits by their codes

What lower-casing makes of a character, and which characters it leaves as they are.
-/
namespace DnsFilter.Text

theorem between_iff {c low high : Char} :
    (decide (low ≤ c) && decide (c ≤ high)) = true ↔
      low.toNat ≤ c.toNat ∧ c.toNat ≤ high.toNat := by
  simp [Char.le_def, UInt32.le_iff_toNat_le]

theorem isUpper_iff {c : Char} : isUpper c = true ↔ 65 ≤ c.toNat ∧ c.toNat ≤ 90 := between_iff

theorem isLower_iff {c : Char} : isLower c = true ↔ 97 ≤ c.toNat ∧ c.toNat ≤ 122 := between_iff

theorem isDigit_iff {c : Char} : isDigit c = true ↔ 48 ≤ c.toNat ∧ c.toNat ≤ 57 := between_iff

theorem isHexDigit_iff {c : Char} :
    isHexDigit c = true ↔ (48 ≤ c.toNat ∧ c.toNat ≤ 57) ∨ (97 ≤ c.toNat ∧ c.toNat ≤ 102) ∨
      (65 ≤ c.toNat ∧ c.toNat ≤ 70) := by
  rw [isHexDigit, Bool.or_eq_true, Bool.or_eq_true, isDigit_iff, between_iff, between_iff]
  exact or_assoc

theorem toNat_lowerChar (c : Char) :
    (lowerChar c).toNat = if isUpper c then c.toNat + 32 else c.toNat := by
  unfold lowerChar
  split_ifs with hc
  · have hrange := isUpper_iff.mp hc
    have hvalid : (c.toNat + 32).isValidChar := .inl (by omega)
    rw [Char.ofNat, dif_pos hvalid]
    rfl
  · rfl

theorem isUpper_lowerChar (c : Char) : isUpper (lowerChar c) = false := by
  rw [← Bool.not_eq_true, isUpper_iff, toNat_lowerChar]
  split_ifs with hc
  · have hrange := isUpper_iff.mp hc
    omega
  · rwa [isUpper_iff] at hc

theorem not_isUpper_of_mem_lower {s : List Char} {c : Char} (h : c ∈ lower s) :
    isUpper c = false := by
  obtain ⟨b, -, rfl⟩ := List.mem_map.mp h
  exact isUpper_lowerChar b

theorem lowerChar_of_not_isUpper {c : Char} (h : isUpper c = false) : lowerChar c = c := by
  simp [lowerChar, h]

@[simp] theorem isDigit_lowerChar (c : Char) : isDigit (lowerChar c) = isDigit c := by
  rw [Bool.eq_iff_iff, isDigit_iff, isDigit_iff, toNat_lowerChar]
  split_ifs with hc
  · have hrange := isUpper_iff.mp hc
    omega
  · rfl

@[simp] theorem isHexDigit_lowerChar (c : Char) : isHexDigit (lowerChar c) = isHexDigit c := by
  rw [Bool.eq_iff_iff, isHexDigit_iff, isHexDigit_iff, toNat_lowerChar]
  split_ifs with hc
  · have hrange := isUpper_iff.mp hc
    omega
  · rfl

theorem hexVal_lowerChar {c : Char} (h : isHexDigit c = true) :
    hexVal (lowerChar c) = hexVal c := by
  cases hc : isUpper c with
  | false => rw [lowerChar_of_not_isUpper hc]
  | true =>
    have hrange := isUpper_iff.mp hc
    have hhex := isHexDigit_iff.mp h
    have hlow : (lowerChar c).toNat = c.toNat + 32 := by rw [toNat_lowerChar, if_pos hc]
    have hdigit : ¬isDigit c = true := by rw [isDigit_iff]; omega
    have hfirst : ¬('a'.toNat ≤ c.toNat ∧ c.toNat ≤ 'f'.toNat) := by
      have ha : 'a'.toNat = 97 := rfl
      omega
    have hsecond : 'a'.toNat ≤ (lowerChar c).toNat ∧ (lowerChar c).toNat ≤ 'f'.toNat := by
      have ha : 'a'.toNat = 97 := rfl
      have hf : 'f'.toNat = 102 := rfl
      omega
    rw [hexVal, isDigit_lowerChar, if_neg hdigit, if_pos (between_iff.mpr hsecond), hexVal,
      if_neg hdigit, if_neg (mt between_iff.mp hfirst), hlow]
    have ha : 'a'.toNat = 97 := rfl
    have hA : 'A'.toNat = 65 := rfl
    omega

/-- A character that is no letter comes from itself only. -/
theorem lowerChar_eq_iff {c d : Char} (hupper : isUpper d = false) (hlower : isLower d = false) :
    lowerChar c = d ↔ c = d := by
  cases hc : isUpper c with
  | false => rw [lowerChar_of_not_isUpper hc]
  | true =>
    have hrange := isUpper_iff.mp hc
    constructor
    · rintro rfl
      rw [← Bool.not_eq_true, isLower_iff, toNat_lowerChar, if_pos hc] at hlower
      omega
    · rintro rfl
      exact absurd hc (by simp [hupper])

/-- The same without a quantifier over characters, so that it can be evaluated. -/
theorem not_isUpper_of_all {s : List Char} (h : (s.all fun c => !isUpper c) = true) :
    ∀ c ∈ s, isUpper c = false := by
  intro c hc
  simpa using List.all_eq_true.mp h c hc

theorem lower_eq_self {s : List Char} (h : ∀ c ∈ s, isUpper c = false) : lower s = s := by
  refine (List.map_congr_left fun c hc => ?_).trans (List.map_id s)
  exact lowerChar_of_not_isUpper (h c hc)

theorem lower_lower (s : List Char) : lower (lower s) = lower s :=
  lower_eq_self fun _ => not_isUpper_of_mem_lower

theorem lower_append (s t : List Char) : lower (s ++ t) = lower s ++ lower t := List.map_append

theorem lower_reverse (s : List Char) : (lower s).reverse = lower s.reverse :=
  List.map_reverse.symm

/-- Lower-casing a text does not change where a run ends if it changes no member of the run's
characters. -/
theorem takeWhile_lower {p : Char → Bool} (hp : ∀ c, p (lowerChar c) = p c) (s : List Char) :
    (lower s).takeWhile p = lower (s.takeWhile p) := by
  rw [lower, List.takeWhile_map]
  congr 2
  funext c
  exact hp c

theorem dropWhile_lower {p : Char → Bool} (hp : ∀ c, p (lowerChar c) = p c) (s : List Char) :
    (lower s).dropWhile p = lower (s.dropWhile p) := by
  rw [lower, List.dropWhile_map]
  congr 2
  funext c
  exact hp c

end DnsFilter.Text
