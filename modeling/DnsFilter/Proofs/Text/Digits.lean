import Mathlib.Algebra.GroupWithZero.Nat
import Mathlib.Tactic.SplitIfs
import DnsFilter.Text.Decimal
/-!
# Digits

Numbers written in decimal or hexadecimal digits are read back, with or without zeros in front. A
run of digits ends where the text that follows does not begin with one.
-/
namespace DnsFilter.Text

def Stops (p : Char → Bool) (s : List Char) : Prop := ∀ c, s.head? = some c → p c = false

theorem stops_nil (p : Char → Bool) : Stops p [] := by
  intro c hc
  cases hc

theorem stops_cons {p : Char → Bool} {c : Char} (h : p c = false) (s : List Char) :
    Stops p (c :: s) := by
  intro d hd
  obtain rfl := Option.some.inj hd
  exact h

instance (p : Char → Bool) (s : List Char) : Decidable (Stops p s) :=
  match s with
  | [] => isTrue (stops_nil p)
  | c :: s =>
    match h : p c with
    | false => isTrue (stops_cons h s)
    | true => isFalse fun hstops => Bool.false_ne_true ((hstops c rfl).symm.trans h)

section
variable {p : Char → Bool} {run rest : List Char}

theorem Stops.takeWhile_eq_nil (h : Stops p rest) : rest.takeWhile p = [] := by
  cases rest with
  | nil => rfl
  | cons c rest => simp [h c rfl]

theorem Stops.dropWhile_eq (h : Stops p rest) : rest.dropWhile p = rest := by
  cases rest with
  | nil => rfl
  | cons c rest => simp [h c rfl]

theorem takeWhile_run (hrun : ∀ c ∈ run, p c = true) (hrest : Stops p rest) :
    (run ++ rest).takeWhile p = run := by
  rw [List.takeWhile_append_of_pos hrun, hrest.takeWhile_eq_nil, List.append_nil]

theorem dropWhile_run (hrun : ∀ c ∈ run, p c = true) (hrest : Stops p rest) :
    (run ++ rest).dropWhile p = rest := by
  rw [List.dropWhile_append_of_pos hrun, hrest.dropWhile_eq]

end

/-! ## Decimal digits -/

theorem isDigit_eq (c : Char) : isDigit c = c.isDigit := by
  simp only [isDigit, Char.isDigit, ge_iff_le, Char.le_def]

theorem isDigit_of_mem_toDigits {n : Nat} {c : Char} (h : c ∈ Nat.toDigits 10 n) :
    isDigit c = true := by
  rw [isDigit_eq]
  exact Nat.isDigit_of_mem_toDigits (by decide) (by decide) h

theorem head_toDigits (n : Nat) :
    ∃ c digits, Nat.toDigits 10 n = c :: digits ∧ isDigit c = true := by
  obtain ⟨c, digits, hc⟩ := List.exists_cons_of_ne_nil (Nat.toDigits_ne_nil (b := 10) (n := n))
  exact ⟨c, digits, hc, isDigit_of_mem_toDigits (hc ▸ List.mem_cons_self)⟩

@[simp] theorem decimalValue_toDigits (n : Nat) : decimalValue (Nat.toDigits 10 n) = n :=
  Nat.ofDigitChars_ten_toDigits

theorem digitVal_lt {c : Char} (h : isDigit c = true) : digitVal c < 10 := by
  simp only [isDigit, Bool.and_eq_true, decide_eq_true_eq, Char.le_def, UInt32.le_iff_toNat_le] at h
  have htop : c.toNat ≤ 57 := h.2
  have hzero : '0'.toNat = 48 := rfl
  unfold digitVal
  omega

theorem foldl_digits_lt {digits : List Char} (h : ∀ c ∈ digits, isDigit c = true) (n : Nat) :
    digits.foldl (fun n c => 10 * n + digitVal c) n < (n + 1) * 10 ^ digits.length := by
  induction digits generalizing n with
  | nil => simp
  | cons c digits ih =>
    obtain ⟨hc, hdigits⟩ := List.forall_mem_cons.mp h
    have hlast := digitVal_lt hc
    have hnext : 10 * n + digitVal c + 1 ≤ (n + 1) * 10 := by omega
    calc (c :: digits).foldl (fun n c => 10 * n + digitVal c) n
        = digits.foldl (fun n c => 10 * n + digitVal c) (10 * n + digitVal c) := rfl
      _ < (10 * n + digitVal c + 1) * 10 ^ digits.length := ih hdigits _
      _ ≤ (n + 1) * 10 * 10 ^ digits.length := Nat.mul_le_mul_right _ hnext
      _ = (n + 1) * 10 ^ (c :: digits).length := by
        rw [List.length_cons, Nat.pow_succ, Nat.mul_assoc, Nat.mul_comm 10]

theorem decimalValue_lt {digits : List Char} (h : ∀ c ∈ digits, isDigit c = true) :
    decimalValue digits < 10 ^ digits.length := by
  have hall := foldl_digits_lt h 0
  rwa [Nat.zero_add, Nat.one_mul] at hall

theorem le_foldl_digits (digits : List Char) (n : Nat) :
    n ≤ digits.foldl (fun n c => 10 * n + digitVal c) n := by
  induction digits generalizing n with
  | nil => exact Nat.le_refl n
  | cons c digits ih =>
    rw [List.foldl_cons]
    exact Nat.le_trans (by omega) (ih _)

theorem le_foldl_digits_pow (digits : List Char) (n : Nat) :
    n * 10 ^ digits.length ≤ digits.foldl (fun n c => 10 * n + digitVal c) n := by
  induction digits generalizing n with
  | nil => simp
  | cons c digits ih =>
    calc n * 10 ^ (c :: digits).length
        = n * 10 * 10 ^ digits.length := by
          rw [List.length_cons, Nat.pow_succ, Nat.mul_assoc, Nat.mul_comm 10]
      _ ≤ (10 * n + digitVal c) * 10 ^ digits.length := Nat.mul_le_mul_right _ (by omega)
      _ ≤ (c :: digits).foldl (fun n c => 10 * n + digitVal c) n := ih _

theorem lt_of_digitVal_lt {c d : Char} (h : digitVal c < digitVal d) : c < d := by
  have hnat : c.toNat < d.toNat := by
    unfold digitVal at h
    omega
  exact hnat

theorem eq_of_digitVal_eq {c d : Char} (hc : isDigit c = true) (hd : isDigit d = true)
    (h : digitVal c = digitVal d) : c = d := by
  have hlow {c : Char} (hc : isDigit c = true) : '0'.toNat ≤ c.toNat := by
    simp only [isDigit, Bool.and_eq_true, decide_eq_true_eq] at hc
    exact hc.1
  have hclow := hlow hc
  have hdlow := hlow hd
  have hnat : c.toNat = d.toNat := by
    unfold digitVal at h
    omega
  exact Char.toNat_inj.mp hnat

theorem digits_lt {xs ys : List Char} (hx : ∀ c ∈ xs, isDigit c = true)
    (hy : ∀ c ∈ ys, isDigit c = true) (hlen : xs.length = ys.length) {n : Nat}
    (h : xs.foldl (fun n c => 10 * n + digitVal c) n < ys.foldl (fun n c => 10 * n + digitVal c) n)
    (r r' : List Char) : xs ++ r < ys ++ r' := by
  induction xs generalizing ys n with
  | nil =>
    obtain rfl := List.length_eq_zero_iff.mp hlen.symm
    exact absurd h (Nat.lt_irrefl _)
  | cons c xs ih =>
    cases ys with
    | nil => simp at hlen
    | cons d ys =>
      obtain ⟨hc, hxs⟩ := List.forall_mem_cons.mp hx
      obtain ⟨hd, hys⟩ := List.forall_mem_cons.mp hy
      have hrest : xs.length = ys.length := by simpa using hlen
      rw [List.cons_append, List.cons_append, List.cons_lt_cons_iff]
      rcases Nat.lt_trichotomy (digitVal c) (digitVal d) with hlt | heq | hgt
      · exact .inl (lt_of_digitVal_lt hlt)
      · obtain rfl := eq_of_digitVal_eq hc hd heq
        exact .inr ⟨rfl, ih hxs hys hrest h⟩
      · have hupper := foldl_digits_lt hys (10 * n + digitVal d)
        have hlower := le_foldl_digits_pow xs (10 * n + digitVal c)
        have hstep : (10 * n + digitVal d + 1) * 10 ^ ys.length ≤
            (10 * n + digitVal c) * 10 ^ xs.length := by
          rw [hrest]
          exact Nat.mul_le_mul_right _ (by omega)
        simp only [List.foldl_cons] at h
        omega

theorem mem_toDigits {b n : Nat} (hb : 1 < b) {c : Char} (h : c ∈ Nat.toDigits b n) :
    ∃ d < b, c = d.digitChar := by
  induction n using Nat.strongRecOn with
  | ind n ih =>
    rw [Nat.toDigits_eq_if hb] at h
    split_ifs at h with hsmall
    · exact ⟨n, hsmall, List.mem_singleton.mp h⟩
    · rcases List.mem_append.mp h with hfront | hlast
      · exact ih (n / b) (Nat.div_lt_self (by omega) hb) hfront
      · exact ⟨n % b, Nat.mod_lt n (by omega), List.mem_singleton.mp hlast⟩

/-- No number but zero is written with a zero in front. -/
theorem head?_toDigits_ne {n : Nat} (hn : 0 < n) : (Nat.toDigits 10 n).head? ≠ some '0' := by
  induction n using Nat.strongRecOn with
  | ind n ih =>
    rw [Nat.toDigits_eq_if (by decide)]
    split_ifs with hsmall
    · have hdigits : ∀ d < 10, 0 < d → [d.digitChar].head? ≠ some '0' := by decide
      exact hdigits n hsmall hn
    · have hfront := ih (n / 10) (by omega) (by omega)
      obtain ⟨c, rest, hc⟩ :=
        List.exists_cons_of_ne_nil (Nat.toDigits_ne_nil (b := 10) (n := n / 10))
      rw [hc] at hfront ⊢
      exact hfront

theorem toDigits_of_head?_zero {n : Nat} (h : (Nat.toDigits 10 n).head? = some '0') :
    Nat.toDigits 10 n = ['0'] := by
  rcases Nat.eq_zero_or_pos n with rfl | hn
  · rfl
  · exact absurd h (head?_toDigits_ne hn)

/-! ## A fixed width -/

theorem isDigit_of_mem_padded {width n : Nat} {c : Char} (h : c ∈ (padded width n).toList) :
    isDigit c = true := by
  rw [padded, String.toList_ofList] at h
  rcases List.mem_append.mp h with hzero | hdigit
  · rw [(List.mem_replicate.mp hzero).2]
    rfl
  · exact isDigit_of_mem_toDigits hdigit

theorem decimalValue_zeros (count : Nat) (digits : List Char) :
    decimalValue (List.replicate count '0' ++ digits) = decimalValue digits := by
  induction count with
  | zero => rfl
  | succ count ih =>
    rw [List.replicate_succ]
    exact ih

@[simp] theorem decimalValue_padded (width n : Nat) : decimalValue (padded width n).toList = n := by
  rw [padded, String.toList_ofList, decimalValue_zeros, decimalValue_toDigits]

theorem length_padded {width n : Nat} (hwidth : 0 < width) (hn : n < 10 ^ width) :
    (padded width n).toList.length = width := by
  have hlen : (Nat.toDigits 10 n).length ≤ width :=
    (Nat.length_toDigits_le_iff (by decide) hwidth).mpr hn
  simp only [padded, String.toList_ofList, List.length_append, List.length_replicate]
  omega

/-! ## The order of texts -/

def AtMost (s t : List Char) : Prop := s < t ∨ s = t

instance (s t : List Char) : Decidable (AtMost s t) := inferInstanceAs (Decidable (_ ∨ _))

theorem AtMost.append_left {s t : List Char} (h : AtMost s t) (run : List Char) :
    AtMost (run ++ s) (run ++ t) :=
  h.imp List.append_left_lt fun heq => by rw [heq]

theorem AtMost.cons {s t : List Char} (h : AtMost s t) (c : Char) : AtMost (c :: s) (c :: t) :=
  h.append_left [c]

theorem padded_append_atMost {width a b : Nat} (hwidth : 0 < width) (ha : a < 10 ^ width)
    (hb : b < 10 ^ width) {r r' : List Char} (h : a < b ∨ a = b ∧ AtMost r r') :
    AtMost ((padded width a).toList ++ r) ((padded width b).toList ++ r') := by
  rcases h with hlt | ⟨rfl, hle⟩
  · left
    apply digits_lt (n := 0) (fun _ => isDigit_of_mem_padded) (fun _ => isDigit_of_mem_padded)
    · rw [length_padded hwidth ha, length_padded hwidth hb]
    · change decimalValue _ < decimalValue _
      rwa [decimalValue_padded, decimalValue_padded]
  · exact hle.append_left _

/-! ## Hexadecimal digits -/

def hexValue (digits : List Char) : Nat := digits.foldl (fun n c => 16 * n + hexVal c) 0

theorem isHexDigit_of_mem_toDigits {n : Nat} {c : Char} (h : c ∈ Nat.toDigits 16 n) :
    isHexDigit c = true := by
  obtain ⟨d, hd, rfl⟩ := mem_toDigits (by decide) h
  have hall : ∀ d < 16, isHexDigit d.digitChar = true := by decide
  exact hall d hd

theorem hexValue_toDigits (n : Nat) : hexValue (Nat.toDigits 16 n) = n := by
  have hdigit : ∀ d < 16, hexVal d.digitChar = d := by decide
  induction n using Nat.strongRecOn with
  | ind n ih =>
    rw [Nat.toDigits_eq_if (by decide)]
    split_ifs with hsmall
    · simp [hexValue, hdigit n hsmall]
    · have hfront := ih (n / 16) (by omega)
      rw [hexValue] at hfront
      rw [hexValue, List.foldl_append, hfront]
      simp only [List.foldl_cons, List.foldl_nil, hdigit (n % 16) (by omega)]
      omega

end DnsFilter.Text
