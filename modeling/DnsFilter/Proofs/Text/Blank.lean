import Mathlib.Data.List.TakeWhile
import DnsFilter.Proofs.Text.Ascii
import DnsFilter.Proofs.Text.Digits
import DnsFilter.Text.Blank
/-!
# White space around and between words

Trimming takes away the white space around a text that neither begins nor ends with any, and
splitting takes away the white space between two words.
-/
namespace DnsFilter.Text

theorem isBlank_of_graphic {c : Char} (h : 33 ≤ c.toNat ∧ c.toNat ≤ 126) : isBlank c = false := by
  simp only [isBlank, Bool.or_eq_false_iff, Bool.and_eq_false_imp, beq_eq_false_iff_ne,
    decide_eq_true_eq, decide_eq_false_iff_not]
  omega

theorem isBlank_lowerChar (c : Char) : isBlank (lowerChar c) = isBlank c := by
  cases hc : isUpper c with
  | false => rw [lowerChar_of_not_isUpper hc]
  | true =>
    have hrange := isUpper_iff.mp hc
    have hlow : (lowerChar c).toNat = c.toNat + 32 := by rw [toNat_lowerChar, if_pos hc]
    rw [isBlank_of_graphic (by omega), isBlank_of_graphic (c := c) (by omega)]

def AllBlank (s : List Char) : Prop := ∀ c ∈ s, isBlank c = true

def NoBlank (s : List Char) : Prop := ∀ c ∈ s, isBlank c = false

instance (s : List Char) : Decidable (AllBlank s) :=
  decidable_of_iff (s.all isBlank = true) List.all_eq_true

instance (s : List Char) : Decidable (NoBlank s) :=
  decidable_of_iff ((s.all fun c => !isBlank c) = true) (by simp [NoBlank])

theorem NoBlank.append {s t : List Char} (hs : NoBlank s) (ht : NoBlank t) : NoBlank (s ++ t) :=
  List.forall_mem_append.mpr ⟨hs, ht⟩

theorem Stops.append {p : Char → Bool} {s t : List Char} (hs : Stops p s) (ht : Stops p t) :
    Stops p (s ++ t) := by
  cases s with
  | nil => exact ht
  | cons c s => exact hs

theorem stops_flatMap {α : Type} {p : Char → Bool} {write : α → List Char} {l : List α}
    (h : ∀ a ∈ l, Stops p (write a)) : Stops p (l.flatMap write) := by
  induction l with
  | nil => exact stops_nil p
  | cons a l ih =>
    obtain ⟨ha, hl⟩ := List.forall_mem_cons.mp h
    rw [List.flatMap_cons]
    exact ha.append (ih hl)

theorem Stops.append_right {p : Char → Bool} {s : List Char} (hs : Stops p s) (hne : s ≠ [])
    (t : List Char) : Stops p (s ++ t) := by
  cases s with
  | nil => exact absurd rfl hne
  | cons c s => exact hs

theorem Stops.of_append {p : Char → Bool} {s t : List Char} (h : Stops p (s ++ t)) :
    Stops p s := by
  cases s with
  | nil => exact stops_nil p
  | cons c s => exact h

theorem stops_dropWhile (p : Char → Bool) (s : List Char) : Stops p (s.dropWhile p) := by
  intro c hc
  have hnot := List.head?_dropWhile_not p s
  rw [hc] at hnot
  exact hnot

/-! ## Taking away a tail -/

section
variable {p : Char → Bool}

theorem stops_dropEndWhile (p : Char → Bool) (s : List Char) :
    Stops p (dropEndWhile p s).reverse := by
  rw [dropEndWhile, List.reverse_reverse]
  exact stops_dropWhile p s.reverse

theorem exists_tail (p : Char → Bool) (s : List Char) :
    ∃ tail, s = dropEndWhile p s ++ tail ∧ ∀ c ∈ tail, p c = true := by
  refine ⟨(s.reverse.takeWhile p).reverse, ?_, ?_⟩
  · rw [dropEndWhile, ← List.reverse_append, List.takeWhile_append_dropWhile, List.reverse_reverse]
  · intro c hc
    exact List.all_eq_true.mp List.all_takeWhile c (List.mem_reverse.mp hc)

theorem dropEndWhile_append {tail : List Char} (htail : ∀ c ∈ tail, p c = true) (s : List Char) :
    dropEndWhile p (s ++ tail) = dropEndWhile p s := by
  rw [dropEndWhile, List.reverse_append, List.dropWhile_append_of_pos (by simpa using htail)]
  rfl

theorem Stops.dropEndWhile_eq {s : List Char} (h : Stops p s.reverse) : dropEndWhile p s = s := by
  rw [dropEndWhile, h.dropWhile_eq, List.reverse_reverse]

theorem stops_lower (hp : ∀ c, p (lowerChar c) = p c) {s : List Char} :
    Stops p (lower s) ↔ Stops p s := by
  cases s with
  | nil => rfl
  | cons c s => simp [Stops, lower, hp]

theorem dropEndWhile_lower (hp : ∀ c, p (lowerChar c) = p c) (s : List Char) :
    dropEndWhile p (lower s) = lower (dropEndWhile p s) := by
  rw [dropEndWhile, lower_reverse, dropWhile_lower hp, lower_reverse, dropEndWhile]

theorem Stops.dropEndWhile {q : Char → Bool} {s : List Char} (h : Stops q s) :
    Stops q (dropEndWhile p s) := by
  obtain ⟨tail, htail, -⟩ := exists_tail p s
  rw [htail] at h
  exact h.of_append

theorem length_dropEndWhile_le (p : Char → Bool) (s : List Char) :
    (dropEndWhile p s).length ≤ s.length := by
  obtain ⟨tail, htail, -⟩ := exists_tail p s
  have hlen := congrArg List.length htail
  rw [List.length_append] at hlen
  omega

end

/-! ## Trimming -/

structure IsTrimmed (s : List Char) : Prop where
  starts : Stops isBlank s
  ends : Stops isBlank s.reverse

theorem NoBlank.isTrimmed {s : List Char} (h : NoBlank s) : IsTrimmed s where
  starts := fun c hc => h c (List.mem_of_head? hc)
  ends := fun c hc => h c (List.mem_reverse.mp (List.mem_of_head? hc))

theorem isTrimmed_trim (s : List Char) : IsTrimmed (trim s) where
  starts := (stops_dropWhile isBlank s).dropEndWhile
  ends := stops_dropEndWhile isBlank (trimStart s)

theorem IsTrimmed.append {s t : List Char} (hs : IsTrimmed s) (ht : IsTrimmed t) :
    IsTrimmed (s ++ t) where
  starts := hs.starts.append ht.starts
  ends := by
    rw [List.reverse_append]
    exact ht.ends.append hs.ends

theorem IsTrimmed.between {s t : List Char} (hs : IsTrimmed s) (hsne : s ≠ [])
    (ht : IsTrimmed t) (htne : t ≠ []) (middle : List Char) : IsTrimmed (s ++ middle ++ t) where
  starts := by
    rw [List.append_assoc]
    exact hs.starts.append_right hsne _
  ends := by
    rw [List.reverse_append]
    exact ht.ends.append_right (by simpa using htne) _

theorem trim_surrounded {before s after : List Char} (hbefore : AllBlank before)
    (hs : IsTrimmed s) (hne : s ≠ []) (hafter : AllBlank after) :
    trim (before ++ s ++ after) = s := by
  have hstart : trimStart (before ++ s ++ after) = s ++ after := by
    rw [List.append_assoc]
    exact dropWhile_run hbefore (hs.starts.append_right hne after)
  rw [trim, hstart, trimEnd, dropEndWhile_append hafter, hs.ends.dropEndWhile_eq]

theorem IsTrimmed.trim_eq {s : List Char} (h : IsTrimmed s) : trim s = s := by
  rw [trim, trimStart, h.starts.dropWhile_eq, trimEnd, h.ends.dropEndWhile_eq]

/-- Trimming takes away white space from both ends and nothing else. -/
theorem exists_around_trim (s : List Char) :
    ∃ before after, AllBlank before ∧ AllBlank after ∧ s = before ++ trim s ++ after := by
  obtain ⟨after, hafter, hblank⟩ := exists_tail isBlank (trimStart s)
  refine ⟨s.takeWhile isBlank, after, ?_, hblank, ?_⟩
  · exact fun c hc => List.all_eq_true.mp List.all_takeWhile c hc
  · have hstart : trimStart s = trim s ++ after := hafter
    rw [List.append_assoc, ← hstart, trimStart, List.takeWhile_append_dropWhile]

/-- A text of which trimming leaves nothing is white space. -/
theorem allBlank_of_trim {s : List Char} (h : trim s = []) : AllBlank s := by
  obtain ⟨before, after, hbefore, hafter, hs⟩ := exists_around_trim s
  rw [h, List.append_nil] at hs
  rw [hs]
  exact List.forall_mem_append.mpr ⟨hbefore, hafter⟩

theorem trimEnd_of_allBlank {s : List Char} (h : AllBlank s) : trimEnd s = [] :=
  dropEndWhile_append h []

/-! ## Words -/

section
variable {c d : Char} {rest : List Char}

theorem words_cons_blank (hc : isBlank c = true) : words (c :: rest) = words rest := by
  rw [words.eq_def]
  simp only [hc, if_true]

theorem words_last (hc : isBlank c = false) : words [c] = [[c]] := by
  rw [words.eq_def]
  simp only [hc, Bool.false_eq_true, if_false]

theorem words_before_blank (hc : isBlank c = false) (hd : isBlank d = true) :
    words (c :: d :: rest) = [c] :: words (d :: rest) := by
  rw [words.eq_def]
  simp only [hc, hd, Bool.false_eq_true, if_false, if_true]

theorem words_inside {w : List Char} {ws : List (List Char)} (hc : isBlank c = false)
    (hd : isBlank d = false) (hrest : words (d :: rest) = w :: ws) :
    words (c :: d :: rest) = (c :: w) :: ws := by
  rw [words.eq_def]
  simp only [hc, hd, hrest, Bool.false_eq_true, if_false]

end

theorem words_blank {gap : List Char} (h : AllBlank gap) (s : List Char) :
    words (gap ++ s) = words s := by
  induction gap with
  | nil => rfl
  | cons c gap ih =>
    obtain ⟨hc, hgap⟩ := List.forall_mem_cons.mp h
    rw [List.cons_append, words_cons_blank hc]
    exact ih hgap

/-- A run of other characters is a word where white space or nothing follows. -/
theorem words_run {s rest : List Char} (hs : NoBlank s) (hne : s ≠ [])
    (hrest : ∀ c, rest.head? = some c → isBlank c = true) :
    words (s ++ rest) = s :: words rest := by
  induction s with
  | nil => exact absurd rfl hne
  | cons c s ih =>
    obtain ⟨hc, hmore⟩ := List.forall_mem_cons.mp hs
    cases s with
    | nil =>
      cases rest with
      | nil => exact words_last hc
      | cons d rest => exact words_before_blank hc (hrest d rfl)
    | cons d s => exact words_inside hc (hmore d List.mem_cons_self) (ih hmore (by simp))

theorem words_single {s : List Char} (hs : NoBlank s) (hne : s ≠ []) : words s = [s] := by
  have hrun : words (s ++ []) = s :: words [] := words_run hs hne (by simp)
  rwa [List.append_nil] at hrun

theorem words_pair {s gap t : List Char} (hs : NoBlank s) (hsne : s ≠ []) (hgap : AllBlank gap)
    (hgapne : gap ≠ []) (ht : NoBlank t) (htne : t ≠ []) : words (s ++ gap ++ t) = [s, t] := by
  have hblank : ∀ c, (gap ++ t).head? = some c → isBlank c = true := by
    obtain ⟨c, more, rfl⟩ := List.exists_cons_of_ne_nil hgapne
    intro d hd
    obtain rfl : c = d := by simpa using hd
    exact hgap c List.mem_cons_self
  rw [List.append_assoc, words_run hs hsne hblank, words_blank hgap, words_single ht htne]

end DnsFilter.Text
