import Mathlib.Data.List.Basic
import Mathlib.Data.List.TakeWhile
import DnsFilter.Proofs.Net.Address
import DnsFilter.Proofs.Text.Ascii
/-!
# Letters in addresses

An address is read from its text in either case. Its own text consists of hexadecimal digits, dots
and colons.
-/
namespace DnsFilter.IpAddress

open Text

/-! ## Reading in either case -/

def lowerRest {α : Type} (r : α × List Char) : α × List Char := (r.1, lower r.2)

theorem lower_takeWhile_isDigit (s : List Char) :
    (lower s).takeWhile isDigit = s.takeWhile isDigit := by
  rw [takeWhile_lower isDigit_lowerChar]
  refine lower_eq_self fun c hc => ?_
  have hdigit := isDigit_iff.mp (List.mem_takeWhile_imp hc)
  rw [← Bool.not_eq_true, isUpper_iff]
  omega

theorem lower_drop (n : Nat) (s : List Char) : (lower s).drop n = lower (s.drop n) := by
  simp [lower]

theorem readPart_lower (s : List Char) : readPart (lower s) = (readPart s).map lowerRest := by
  simp only [readPart, lower_takeWhile_isDigit, lower_drop]
  split_ifs <;> rfl

theorem readChar_lower {c : Char} (hupper : isUpper c = false) (hlower : isLower c = false)
    (s : List Char) : readChar c (lower s) = (readChar c s).map lower := by
  cases s with
  | nil => rfl
  | cons d s =>
    simp only [lower, List.map_cons, readChar, lowerChar_eq_iff hupper hlower]
    split_ifs <;> rfl

theorem readDot_lower (s : List Char) : readChar '.' (lower s) = (readChar '.' s).map lower :=
  readChar_lower (by decide) (by decide) s

theorem readColon_lower (s : List Char) : readChar ':' (lower s) = (readChar ':' s).map lower :=
  readChar_lower (by decide) (by decide) s

theorem readV4_lower (s : List Char) : readV4 (lower s) = (readV4 s).map lowerRest := by
  simp only [readV4, readPart_lower, readDot_lower, Option.bind_eq_bind, Option.bind_map,
    Option.map_bind, Function.comp_def, lowerRest]
  rfl

theorem hexValue_lower {digits : List Char} (h : ∀ c ∈ digits, isHexDigit c = true) :
    hexValue (lower digits) = hexValue digits := by
  rw [hexValue, lower, List.foldl_map]
  refine List.foldl_ext _ _ 0 fun n c hc => ?_
  rw [hexVal_lowerChar (h c hc)]

theorem readGroup_lower (s : List Char) : readGroup (lower s) = (readGroup s).map lowerRest := by
  have hvalue : hexValue (lower (s.takeWhile isHexDigit)) = hexValue (s.takeWhile isHexDigit) :=
    hexValue_lower fun c hc => List.mem_takeWhile_imp hc
  have hempty : (lower (s.takeWhile isHexDigit) = []) = (s.takeWhile isHexDigit = []) := by
    simp [lower]
  have hlen : (lower (s.takeWhile isHexDigit)).length = (s.takeWhile isHexDigit).length :=
    List.length_map _
  unfold hexValue at hvalue
  simp only [readGroup, takeWhile_lower isHexDigit_lowerChar, hvalue, hempty, hlen, lower_drop]
  split_ifs <;> rfl

def Groups.lowerRest (r : Groups) : Groups := { r with rest := lower r.rest }

theorem readGroups_lower (first : Bool) (limit : Nat) (s : List Char) :
    readGroups first limit (lower s) = (readGroups first limit s).lowerRest := by
  induction limit generalizing first s with
  | zero => rfl
  | succ limit ih =>
    have hbody : (if first then some (lower s) else readChar ':' (lower s)) =
        (if first then some s else readChar ':' s).map lower := by
      cases first
      · exact readColon_lower s
      · rfl
    simp only [readGroups, hbody]
    cases (if first then some s else readChar ':' s) with
    | none => rfl
    | some body =>
      have hdotted : (if 0 < limit then readV4 (lower body) else none) =
          (if 0 < limit then readV4 body else none).map IpAddress.lowerRest := by
        split_ifs
        · exact readV4_lower body
        · rfl
      simp only [Option.map_some, hdotted]
      cases (if 0 < limit then readV4 body else none) with
      | some r => rfl
      | none =>
        simp only [Option.map_none, readGroup_lower]
        cases readGroup body with
        | none => rfl
        | some r =>
          simp only [Option.map_some, IpAddress.lowerRest, ih]
          rfl

theorem readV6_lower (s : List Char) : readV6 (lower s) = (readV6 s).map lowerRest := by
  simp only [readV6, readGroups_lower, Groups.lowerRest, readColon_lower]
  generalize readGroups true 8 s = head
  split_ifs
  · cases ofGroups? head.groups <;> rfl
  · rfl
  · cases readChar ':' head.rest with
    | none => rfl
    | some first =>
      simp only [Option.map_some, Option.bind_eq_bind, Option.bind_some, readColon_lower]
      cases readChar ':' first with
      | none => rfl
      | some second =>
        simp only [Option.map_some, Option.bind_some, readGroups_lower, Groups.lowerRest]
        generalize ofGroups? _ = address
        cases address <;> rfl

theorem parse?_lower (s : List Char) :
    parse? (String.ofList (lower s)) = parse? (String.ofList s) := by
  simp only [parse?, String.toList_ofList, readV4_lower, readV6_lower]
  have hempty (rest : List Char) : (lower rest = []) = (rest = []) := by simp [lower]
  cases readV4 s with
  | some r => simp only [Option.map_some, lowerRest, hempty]
  | none =>
    simp only [Option.map_none]
    cases readV6 s with
    | some r => simp only [Option.map_some, lowerRest, hempty]
    | none => rfl

/-! ## The letters of an address -/

def isLetter (c : Char) : Bool := isHexDigit c || c == '.' || c == ':'

theorem isLetter_of_mem_groupText {g : UInt16} {c : Char} (h : c ∈ groupText g) :
    isLetter c = true := by
  simp [isLetter, isHexDigit_of_mem_groupText h]

theorem isLetter_of_mem_joinGroups {gs : List UInt16} {c : Char} (h : c ∈ joinGroups gs) :
    isLetter c = true := by
  cases gs with
  | nil => cases h
  | cons g gs =>
    rw [joinGroups_cons, List.mem_append] at h
    rcases h with hfirst | hfurther
    · exact isLetter_of_mem_groupText hfirst
    · obtain ⟨next, -, hnext⟩ := List.mem_flatMap.mp hfurther
      rcases List.mem_cons.mp hnext with rfl | htext
      · rfl
      · exact isLetter_of_mem_groupText htext

theorem isLetter_of_mem_v4 {x : Ipv4} {c : Char} (h : c ∈ Ipv4.text x) : isLetter c = true := by
  have hdigit {n : Nat} (hc : c ∈ Nat.toDigits 10 n) : isLetter c = true := by
    have hdigit := isDigit_of_mem_toDigits hc
    simp [isLetter, isHexDigit, hdigit]
  simp only [Ipv4.text, List.mem_append, List.mem_cons] at h
  rcases h with ((ha | rfl | hb) | rfl | hc) | rfl | hd
  · exact hdigit ha
  · rfl
  · exact hdigit hb
  · rfl
  · exact hdigit hc
  · rfl
  · exact hdigit hd

theorem isLetter_of_mem_v6 {x : Ipv6} {c : Char} (h : c ∈ Ipv6.text x) : isLetter c = true := by
  unfold Ipv6.text at h
  split at h
  · rcases List.mem_append.mp h with hstart | hdotted
    · have hall : "::ffff:".toList.all isLetter = true := by decide
      exact List.all_eq_true.mp hall c hstart
    · exact isLetter_of_mem_v4 hdotted
  · dsimp only at h
    split_ifs at h
    · exact isLetter_of_mem_joinGroups h
    · simp only [List.mem_append] at h
      rcases h with (hfront | hcolons) | hback
      · exact isLetter_of_mem_joinGroups hfront
      · have hall : [':', ':'].all isLetter = true := by decide
        exact List.all_eq_true.mp hall c hcolons
      · exact isLetter_of_mem_joinGroups hback

theorem isLetter_of_mem_text {x : IpAddress} {c : Char} (h : c ∈ x.text.toList) :
    isLetter c = true := by
  cases x with
  | v4 x =>
    rw [text, String.toList_ofList] at h
    exact isLetter_of_mem_v4 h
  | v6 x =>
    rw [text, String.toList_ofList] at h
    exact isLetter_of_mem_v6 h

theorem text_ne_nil (x : IpAddress) : x.text.toList ≠ [] := by
  intro h
  have hread := parse?_text x
  obtain hempty : x.text = "" := String.toList_eq_nil_iff.mp h
  rw [hempty] at hread
  exact absurd hread (by simp [show parse? "" = none by decide])

end DnsFilter.IpAddress
