import Mathlib.Data.List.TakeWhile
import Mathlib.Tactic.SplitIfs
import DnsFilter.Text.Utf8
/-!
# Parts of texts

No character of a text goes on over an ASCII byte, so what stands before one is a text itself. What
was encoded is decoded again, one character after another.
-/
namespace DnsFilter.Utf8

/-- Bytes that are decoded without a fault. -/
def IsText (bytes : Bytes) : Prop := (decode? bytes).isSome = true

instance (bytes : Bytes) : Decidable (IsText bytes) := inferInstanceAs (Decidable (_ = _))

theorem scan_cons (b : UInt8) (rest : Bytes) (acc : List (Option Char)) :
    scan (b :: rest) acc = scan (rest.drop (next b rest).2) ((next b rest).1 :: acc) := by
  rw [scan]

theorem scan_eq (bytes : Bytes) (acc : List (Option Char)) :
    scan bytes acc = acc.reverse ++ scan bytes [] := by
  induction hn : bytes.length using Nat.strongRecOn generalizing bytes acc with
  | ind n ih =>
    cases bytes with
    | nil => simp [scan]
    | cons b rest =>
      have hlt : (rest.drop (next b rest).2).length < n := by
        rw [← hn, List.length_drop, List.length_cons]
        omega
      rw [scan_cons, scan_cons, ih _ hlt _ _ rfl, ih _ hlt _ [(next b rest).1] rfl]
      simp

theorem isText_iff {bytes : Bytes} : IsText bytes ↔ (scan bytes []).all Option.isSome = true := by
  simp only [IsText, decode?]
  split_ifs with hall <;> simp [hall]

theorem isText_nil : IsText [] := by
  rw [isText_iff, scan]
  rfl

theorem isText_cons {b : UInt8} {rest : Bytes} :
    IsText (b :: rest) ↔ (next b rest).1.isSome = true ∧ IsText (rest.drop (next b rest).2) := by
  rw [isText_iff, isText_iff, scan_cons, scan_eq]
  simp

/-! ## Before an ASCII byte -/

theorem low_of_announced {b low high : UInt8} {count : Nat}
    (h : announced b = some (count, low, high)) : 0x80 ≤ low := by
  unfold announced at h
  split_ifs at h <;> cases h <;> decide

section
variable {a : UInt8} (ha : a < 0x80)
include ha

theorem takeWhile_isTail (front rest : Bytes) (n : Nat) :
    ((front ++ a :: rest).take n).takeWhile isTail = (front.take n).takeWhile isTail := by
  have hstop : isTail a = false := by
    simp only [isTail, Bool.and_eq_false_imp, decide_eq_true_eq]
    intro hle
    exact absurd ha (UInt8.not_lt.mpr hle)
  induction front generalizing n with
  | nil => cases n <;> simp [hstop]
  | cons b front ih =>
    cases n with
    | zero => rfl
    | succ n => simp only [List.cons_append, List.take_succ_cons, List.takeWhile_cons, ih]

theorem tailBytes_before {low : UInt8} (hlow : 0x80 ≤ low) (count : Nat) (high : UInt8)
    (front rest : Bytes) :
    tailBytes count low high (front ++ a :: rest) = tailBytes count low high front := by
  cases front with
  | nil =>
    have hbelow : ¬low ≤ a := UInt8.not_le.mpr (UInt8.lt_of_lt_of_le ha hlow)
    simp [tailBytes, hbelow]
  | cons b front => simp only [List.cons_append, tailBytes, takeWhile_isTail ha]

/-- How a character goes on is known where the next ASCII byte stands. -/
theorem next_before (b : UInt8) (front rest : Bytes) :
    next b (front ++ a :: rest) = next b front := by
  unfold next
  split_ifs
  · rfl
  · cases hannounced : announced b with
    | none => rfl
    | some bounds =>
      obtain ⟨count, low, high⟩ := bounds
      simp only [tailBytes_before ha (low_of_announced hannounced)]

end

theorem length_tailBytes_le (count : Nat) (low high : UInt8) (rest : Bytes) :
    (tailBytes count low high rest).length ≤ rest.length := by
  cases rest with
  | nil => exact Nat.le_refl _
  | cons b more =>
    simp only [tailBytes]
    split_ifs
    · have hsub := ((List.takeWhile_sublist isTail (l := more.take (count - 1))).trans
        (List.take_sublist _ _)).length_le
      simpa using hsub
    · exact Nat.zero_le _

theorem next_length_le (b : UInt8) (rest : Bytes) : (next b rest).2 ≤ rest.length := by
  unfold next
  split_ifs
  · exact Nat.zero_le _
  · cases announced b with
    | none => exact Nat.zero_le _
    | some bounds =>
      obtain ⟨count, low, high⟩ := bounds
      have hle := length_tailBytes_le count low high rest
      simp only
      split_ifs with hcount
      · exact hcount ▸ hle
      · exact hle

theorem isText_of_append {a : UInt8} (ha : a < 0x80) {front rest : Bytes}
    (h : IsText (front ++ a :: rest)) : IsText front := by
  induction hn : front.length using Nat.strongRecOn generalizing front with
  | ind n ih =>
    cases front with
    | nil => exact isText_nil
    | cons b front =>
      rw [List.cons_append, isText_cons, next_before ha] at h
      obtain ⟨hfirst, hmore⟩ := h
      rw [List.drop_append_of_le_length (next_length_le b front)] at hmore
      have hlt : (front.drop (next b front).2).length < n := by
        rw [← hn, List.length_drop, List.length_cons]
        omega
      exact isText_cons.mpr ⟨hfirst, ih _ hlt hmore rfl⟩

/-! ## What was encoded -/

def tailByte (n : Nat) : UInt8 := UInt8.ofNat (n % 64 + 128)

@[simp] theorem toNat_tailByte (n : Nat) : (tailByte n).toNat = n % 64 + 128 := by
  rw [tailByte, UInt8.toNat_ofNat']
  omega

theorem isTail_tailByte (n : Nat) : isTail (tailByte n) = true := by
  simp [isTail, UInt8.le_iff_toNat_le]
  omega

/-- A character is read with as many bytes behind its first one as that announces. -/
theorem next_of_announced {b low high first : UInt8} {count : Nat} (hb : ¬b < 0x80)
    (hannounced : announced b = some (count, low, high)) (hlow : low ≤ first)
    (hhigh : first ≤ high) {more : Bytes} (hmore : ∀ x ∈ more, isTail x = true)
    (hcount : more.length + 1 = count) (rest : Bytes) :
    next b (first :: more ++ rest) =
      (some (joined (b.toNat % Nat.pow 2 (6 - count)) (first :: more)), count) := by
  have htake : ((more ++ rest).take (count - 1)).takeWhile isTail = more := by
    rw [← hcount, Nat.add_sub_cancel, List.take_left, List.takeWhile_eq_self_iff]
    exact hmore
  have htail : tailBytes count low high (first :: more ++ rest) = first :: more := by
    simp [tailBytes, hlow, hhigh, htake]
  simp only [next, if_neg hb, hannounced, htail, List.length_cons, hcount, if_true]

/-- The first byte of a character of two bytes, by its five bits. -/
theorem announced_two : ∀ k < 32, 2 ≤ k → ¬UInt8.ofNat (k + 192) < 0x80 ∧
    announced (UInt8.ofNat (k + 192)) = some (1, 0x80, 0xBF) ∧
    (UInt8.ofNat (k + 192)).toNat % Nat.pow 2 5 = k := by
  decide

/-- The first byte of a character of three bytes, by its four bits. -/
theorem announced_three : ∀ k < 16, ¬UInt8.ofNat (k + 224) < 0x80 ∧
    announced (UInt8.ofNat (k + 224)) =
      some (2, if k = 0 then 0xA0 else 0x80, if k = 13 then 0x9F else 0xBF) ∧
    (UInt8.ofNat (k + 224)).toNat % Nat.pow 2 4 = k := by
  decide

/-- The first byte of a character of four bytes, by its three bits. -/
theorem announced_four : ∀ k < 5, ¬UInt8.ofNat (k + 240) < 0x80 ∧
    announced (UInt8.ofNat (k + 240)) =
      some (3, if k = 0 then 0x90 else 0x80, if k = 4 then 0x8F else 0xBF) ∧
    (UInt8.ofNat (k + 240)).toNat % Nat.pow 2 3 = k := by
  decide

theorem next_encodeChar (c : Char) (rest : Bytes) :
    ∃ b tail, String.utf8EncodeChar c = b :: tail ∧
      next b (tail ++ rest) = (some c, tail.length) := by
  have hvalid : c.toNat < 0xD800 ∨ 0xDFFF < c.toNat ∧ c.toNat < 0x110000 := c.valid
  have hchar : Char.ofNat c.toNat = c := Char.ofNat_toNat c
  have htoNat : c.val.toNat = c.toNat := rfl
  simp only [String.utf8EncodeChar, htoNat]
  generalize c.toNat = n at hvalid hchar
  split_ifs with hone htwo hthree
  · refine ⟨_, [], rfl, ?_⟩
    have hbyte : (UInt8.ofNat n).toNat = n := by
      rw [UInt8.toNat_ofNat']
      omega
    have hsmall : UInt8.ofNat n < 0x80 := by
      rw [UInt8.lt_iff_toNat_lt, hbyte]
      exact Nat.lt_succ_of_le hone
    simp [next, hsmall, hbyte, hchar]
  · obtain ⟨hb, hannounced, hlead⟩ := announced_two (n / 64 % 32) (by omega) (by omega)
    refine ⟨_, [tailByte n], rfl, ?_⟩
    rw [next_of_announced hb hannounced (by simp [UInt8.le_iff_toNat_le])
      (by simp [UInt8.le_iff_toNat_le]; omega) (List.forall_mem_nil _) rfl, hlead]
    have hsum : n / 64 % 32 * 64 + n % 64 = n := by omega
    simp [joined, hsum, hchar]
  · obtain ⟨hb, hannounced, hlead⟩ := announced_three (n / 4096 % 16) (by omega)
    refine ⟨_, [tailByte (n / 64), tailByte n], rfl, ?_⟩
    have hmore : ∀ x ∈ [tailByte n], isTail x = true := by
      simp [isTail_tailByte]
    rw [next_of_announced hb hannounced ?_ ?_ hmore rfl, hlead]
    · have hsum : (n / 4096 % 16 * 64 + n / 64 % 64) * 64 + n % 64 = n := by omega
      simp [joined, hsum, hchar]
    · rw [UInt8.le_iff_toNat_le, toNat_tailByte]
      split_ifs
      · simp
        omega
      · simp
    · rw [UInt8.le_iff_toNat_le, toNat_tailByte]
      split_ifs
      · simp
        omega
      · simp
        omega
  · obtain ⟨hb, hannounced, hlead⟩ := announced_four (n / 262144 % 8) (by omega)
    refine ⟨_, [tailByte (n / 4096), tailByte (n / 64), tailByte n], rfl, ?_⟩
    have hmore : ∀ x ∈ [tailByte (n / 64), tailByte n], isTail x = true := by
      simp [isTail_tailByte]
    rw [next_of_announced hb hannounced ?_ ?_ hmore rfl, hlead]
    · have hsum : ((n / 262144 % 8 * 64 + n / 4096 % 64) * 64 + n / 64 % 64) * 64 + n % 64 = n := by
        omega
      simp [joined, hsum, hchar]
    · rw [UInt8.le_iff_toNat_le, toNat_tailByte]
      split_ifs
      · simp
        omega
      · simp
    · rw [UInt8.le_iff_toNat_le, toNat_tailByte]
      split_ifs
      · simp
        omega
      · simp
        omega

theorem scan_encode (s : List Char) : scan (encode s) [] = s.map some := by
  induction s with
  | nil => rw [encode, List.flatMap_nil, scan]; rfl
  | cons c s ih =>
    obtain ⟨b, tail, hc, hnext⟩ := next_encodeChar c (encode s)
    have hencode : encode (c :: s) = b :: (tail ++ encode s) := by
      rw [encode, List.flatMap_cons, hc]
      rfl
    rw [hencode, scan_cons, hnext, List.drop_left, scan_eq, ih]
    rfl

theorem decode?_encode (s : List Char) : decode? (encode s) = some s := by
  have hall : (s.map some).all Option.isSome = true := by simp
  simp [decode?, scan_encode, List.filterMap_map]

end DnsFilter.Utf8
