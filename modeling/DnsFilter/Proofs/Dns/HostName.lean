import DnsFilter.Dns.HostName
import DnsFilter.Proofs.Text.Affix
import DnsFilter.Proofs.Text.Ascii
import DnsFilter.Proofs.Text.Blank
/-!
# The letters of host names

Well-formed names consist of the characters of labels and of dots, in either case. Without letters in
upper case, they are their own normal form.
-/
namespace DnsFilter.HostName

theorem isLabelChar_iff {c : Char} :
    isLabelChar c = true ↔ (48 ≤ c.toNat ∧ c.toNat ≤ 57) ∨ (97 ≤ c.toNat ∧ c.toNat ≤ 122) ∨
      (65 ≤ c.toNat ∧ c.toNat ≤ 90) ∨ c = '-' ∨ c = '_' := by
  simp only [isLabelChar, Bool.or_eq_true, Text.isDigit_iff, Text.isLower_iff, Text.isUpper_iff,
    beq_iff_eq, or_assoc]

@[simp] theorem isLabelChar_lowerChar (c : Char) :
    isLabelChar (Text.lowerChar c) = isLabelChar c := by
  cases hc : Text.isUpper c with
  | false => rw [Text.lowerChar_of_not_isUpper hc]
  | true =>
    have hrange := Text.isUpper_iff.mp hc
    have hlow : (Text.lowerChar c).toNat = c.toNat + 32 := by rw [Text.toNat_lowerChar, if_pos hc]
    rw [isLabelChar_iff.mpr (.inr (.inr (.inl hrange))),
      isLabelChar_iff.mpr (.inr (.inl (by omega)))]

theorem mem_of_isWellFormed {name : List Char} (h : isWellFormed name = true) {c : Char}
    (hc : c ∈ name) : isLabelChar c = true ∨ c = '.' := by
  simp only [isWellFormed, Bool.and_eq_true, List.all_eq_true] at h
  have hlabels : ['.'].intercalate (labels name) = name := List.intercalate_splitOn '.'
  rw [← hlabels] at hc
  rcases Text.mem_intercalate hc with hdot | ⟨label, hlabel, hmem⟩
  · exact .inr (List.mem_singleton.mp hdot)
  · have hall := h.2 label hlabel
    simp only [isLabel, Bool.and_eq_true, List.all_eq_true] at hall
    exact .inl (hall.2 c hmem)

theorem ne_nil_of_isWellFormed {name : List Char} (h : isWellFormed name = true) : name ≠ [] := by
  rintro rfl
  exact absurd h (by decide)

/-- The characters of a name in any spelling. -/
theorem mem_of_lower {name : List Char} (h : isWellFormed (Text.lower name) = true) {c : Char}
    (hc : c ∈ name) : isLabelChar c = true ∨ c = '.' := by
  rcases mem_of_isWellFormed h (List.mem_map_of_mem hc) with hlabel | hdot
  · exact .inl (by simpa using hlabel)
  · exact .inr ((Text.lowerChar_eq_iff (by decide) (by decide)).mp hdot)

theorem noBlank_of_isWellFormed {name : List Char} (h : isWellFormed name = true) :
    Text.NoBlank name := by
  intro c hc
  rcases mem_of_isWellFormed h hc with hlabel | rfl
  · rcases isLabelChar_iff.mp hlabel with hdigit | hlow | hup | rfl | rfl
    · exact Text.isBlank_of_graphic (by omega)
    · exact Text.isBlank_of_graphic (by omega)
    · exact Text.isBlank_of_graphic (by omega)
    all_goals decide
  · decide

/-- A dot at the end would leave an empty label behind it. -/
theorem getLast?_ne_dot {name : List Char} (h : isWellFormed name = true) :
    name.getLast? ≠ some '.' := by
  intro hlast
  obtain ⟨front, rfl⟩ := List.getLast?_eq_some_iff.mp hlast
  have hlabels : labels (front ++ '.' :: []) = labels front ++ labels [] :=
    List.splitOn_append_cons_self front []
  simp only [isWellFormed, Bool.and_eq_true, hlabels, List.all_append] at h
  exact absurd h.2.2 (by decide)

structure IsNormal (name : List Char) : Prop where
  wellFormed : isWellFormed name = true
  fixed : normalForm name = name

theorem isNormal_of_noUpper {name : List Char} (h : isWellFormed name = true)
    (hupper : ∀ c ∈ name, Text.isUpper c = false) : IsNormal name where
  wellFormed := h
  fixed := by
    have hends : Text.Stops (· == '.') name.reverse := by
      intro c hc
      rw [List.head?_reverse] at hc
      rw [beq_eq_false_iff_ne]
      rintro rfl
      exact getLast?_ne_dot h hc
    rw [normalForm, (noBlank_of_isWellFormed h).isTrimmed.trim_eq, hends.dropEndWhile_eq,
      Text.lower_eq_self hupper]

end DnsFilter.HostName
