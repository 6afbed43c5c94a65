import DnsFilter.Net.Address
import DnsFilter.Proofs.Text.Digits
/-!
# Reading addresses that were written

An address is read back from its text. A text without a full stop holds no dotted address, so each
group in it is read as hexadecimal digits; the groups that are left out of a text were zero.
-/
namespace DnsFilter.IpAddress

/-! ## Dotted addresses -/

theorem stops_dot (s : List Char) : Text.Stops Text.isDigit ('.' :: s) :=
  Text.stops_cons (by decide) s

theorem readPart_toDigits (b : UInt8) {rest : List Char} (hrest : Text.Stops Text.isDigit rest) :
    readPart (Nat.toDigits 10 b.toNat ++ rest) = some (b, rest) := by
  have hdigits : ∀ c ∈ Nat.toDigits 10 b.toNat, Text.isDigit c = true := fun _ hc =>
    Text.isDigit_of_mem_toDigits hc
  have hne : Nat.toDigits 10 b.toNat ≠ [] := Nat.toDigits_ne_nil
  have hbound : b.toNat < 256 := b.toNat_lt
  have hlen : (Nat.toDigits 10 b.toNat).length ≤ 3 :=
    (Nat.length_toDigits_le_iff (by decide) (by decide)).mpr (by omega)
  have hzero : (Nat.toDigits 10 b.toNat).head? = some '0' →
      ¬1 < (Nat.toDigits 10 b.toNat).length := by
    intro hhead
    simp [Text.toDigits_of_head?_zero hhead]
  have hread : UInt8.ofNat b.toNat = b := UInt8.ofNat_toNat
  simp only [readPart, Text.takeWhile_run hdigits hrest, Text.decimalValue_toDigits]
  rw [if_neg]
  · simp [hread]
  · simp only [Bool.or_eq_true, Bool.and_eq_true, decide_eq_true_eq]
    rintro (((hempty | hlong) | ⟨hhead, hmore⟩) | hlarge)
    · exact hne hempty
    · omega
    · exact hzero hhead hmore
    · omega

theorem readV4_text (x : Ipv4) {rest : List Char} (hrest : Text.Stops Text.isDigit rest) :
    readV4 (Ipv4.text x ++ rest) = some (x, rest) := by
  let part (b : UInt8) := Nat.toDigits 10 b.toNat
  have ha := readPart_toDigits x.a
    (stops_dot (part x.b ++ '.' :: (part x.c ++ '.' :: (part x.d ++ rest))))
  have hb := readPart_toDigits x.b (stops_dot (part x.c ++ '.' :: (part x.d ++ rest)))
  have hc := readPart_toDigits x.c (stops_dot (part x.d ++ rest))
  have hd := readPart_toDigits x.d hrest
  simp only [part] at ha hb hc
  simp only [Ipv4.text, List.cons_append, List.append_assoc]
  simp [readV4, ha, hb, hc, hd, readChar]

theorem readPart_stops {s : List Char} (h : Text.Stops Text.isDigit s) : readPart s = none := by
  have hnone : s.takeWhile Text.isDigit = [] := h.takeWhile_eq_nil
  simp [readPart, hnone]

theorem readV4_stops {s : List Char} (h : Text.Stops Text.isDigit s) : readV4 s = none := by
  simp [readV4, readPart_stops h]

theorem mem_of_readPart {s : List Char} {b : UInt8} {rest : List Char} {c : Char}
    (h : readPart s = some (b, rest)) (hc : c ∈ rest) : c ∈ s := by
  simp only [readPart] at h
  split_ifs at h
  obtain ⟨-, rfl⟩ := Prod.mk.inj (Option.some.inj h)
  exact List.mem_of_mem_drop hc

theorem readV4_eq_none {s : List Char} (h : '.' ∉ s) : readV4 s = none := by
  cases hpart : readPart s with
  | none => simp [readV4, hpart]
  | some read =>
    obtain ⟨b, rest⟩ := read
    have hdot : readChar '.' rest = none := by
      cases rest with
      | nil => rfl
      | cons c rest =>
        have hc : c ≠ '.' := by
          rintro rfl
          exact h (mem_of_readPart hpart List.mem_cons_self)
        simp [readChar, hc]
    simp [readV4, hpart, hdot]

/-! ## Groups -/

theorem isHexDigit_of_mem_groupText {g : UInt16} {c : Char} (h : c ∈ groupText g) :
    Text.isHexDigit c = true :=
  Text.isHexDigit_of_mem_toDigits h

theorem dot_notMem_groupText (g : UInt16) : '.' ∉ groupText g := fun h =>
  absurd (isHexDigit_of_mem_groupText h) (by decide)

theorem readGroup_text (g : UInt16) {rest : List Char} (hrest : Text.Stops Text.isHexDigit rest) :
    readGroup (groupText g ++ rest) = some (g, rest) := by
  have hne : groupText g ≠ [] := Nat.toDigits_ne_nil
  have hlen : (groupText g).length ≤ 4 :=
    (Nat.length_toDigits_le_iff (by decide) (by decide)).mpr g.toNat_lt
  have hvalue : (groupText g).foldl (fun n c => 16 * n + Text.hexVal c) 0 = g.toNat :=
    Text.hexValue_toDigits g.toNat
  have hread : UInt16.ofNat g.toNat = g := UInt16.ofNat_toNat
  simp only [readGroup, Text.takeWhile_run (fun _ => isHexDigit_of_mem_groupText) hrest]
  rw [if_neg (by simp [hne, hlen]), hvalue, hread]
  simp

theorem readGroup_stops {s : List Char} (h : Text.Stops Text.isHexDigit s) :
    readGroup s = none := by
  have hnone : s.takeWhile Text.isHexDigit = [] := h.takeWhile_eq_nil
  simp [readGroup, hnone]

theorem stops_isDigit {s : List Char} (h : Text.Stops Text.isHexDigit s) :
    Text.Stops Text.isDigit s := by
  intro c hc
  have hhex := h c hc
  simp only [Text.isHexDigit, Bool.or_eq_false_iff] at hhex
  exact hhex.1.1

theorem stops_colon (s : List Char) : Text.Stops Text.isHexDigit (':' :: s) :=
  Text.stops_cons (by decide) s

def GroupsEnd (rest : List Char) : Prop := rest = [] ∨ ∃ s, rest = ':' :: ':' :: s

theorem GroupsEnd.stops {rest : List Char} (h : GroupsEnd rest) :
    Text.Stops Text.isHexDigit rest := by
  obtain rfl | ⟨s, rfl⟩ := h
  · exact Text.stops_nil _
  · exact stops_colon _

theorem readGroups_stops (limit : Nat) {s : List Char} (h : Text.Stops Text.isHexDigit s) :
    readGroups true limit s = ⟨[], false, s⟩ := by
  cases limit with
  | zero => rfl
  | succ limit => simp [readGroups, readV4_stops (stops_isDigit h), readGroup_stops h]

theorem readGroups_end (limit : Nat) {rest : List Char} (h : GroupsEnd rest) :
    readGroups false limit rest = ⟨[], false, rest⟩ := by
  cases limit with
  | zero => rfl
  | succ limit =>
    obtain rfl | ⟨s, rfl⟩ := h
    · simp [readGroups, readChar]
    · have hcolon := stops_colon s
      simp [readGroups, readChar, readV4_stops (stops_isDigit hcolon), readGroup_stops hcolon]

def furtherGroups (gs : List UInt16) : List Char := gs.flatMap fun g => ':' :: groupText g

theorem joinGroups_cons (g : UInt16) (gs : List UInt16) :
    joinGroups (g :: gs) = groupText g ++ furtherGroups gs := by
  induction gs generalizing g with
  | nil => simp [joinGroups, furtherGroups]
  | cons next gs ih =>
    have hnext := ih next
    simp only [joinGroups, furtherGroups, List.map_cons, List.intersperse_cons_cons,
      List.flatten_cons, List.flatMap_cons] at hnext ⊢
    rw [hnext]
    simp

theorem dot_notMem_furtherGroups (gs : List UInt16) : '.' ∉ furtherGroups gs := by
  intro h
  obtain ⟨g, -, hg⟩ := List.mem_flatMap.mp h
  rcases List.mem_cons.mp hg with hcolon | htext
  · exact absurd hcolon (by decide)
  · exact dot_notMem_groupText g htext

theorem dot_notMem_joinGroups (gs : List UInt16) : '.' ∉ joinGroups gs := by
  cases gs with
  | nil => simp [joinGroups]
  | cons g gs =>
    rw [joinGroups_cons, List.mem_append, not_or]
    exact ⟨dot_notMem_groupText g, dot_notMem_furtherGroups gs⟩

theorem stops_furtherGroups (gs : List UInt16) {rest : List Char} (h : GroupsEnd rest) :
    Text.Stops Text.isHexDigit (furtherGroups gs ++ rest) := by
  cases gs with
  | nil => exact h.stops
  | cons g gs => exact stops_colon _

section
variable {rest : List Char} (hend : GroupsEnd rest) (hdot : '.' ∉ rest)
include hend hdot

theorem readGroups_further {limit : Nat} {gs : List UInt16} (hlen : gs.length ≤ limit) :
    readGroups false limit (furtherGroups gs ++ rest) = ⟨gs, false, rest⟩ := by
  induction gs generalizing limit with
  | nil => exact readGroups_end limit hend
  | cons g gs ih =>
    cases limit with
    | zero => simp at hlen
    | succ limit =>
      have hnone : readV4 (groupText g ++ (furtherGroups gs ++ rest)) = none := by
        apply readV4_eq_none
        simp [dot_notMem_groupText, dot_notMem_furtherGroups, hdot]
      have hgroup := readGroup_text g (stops_furtherGroups gs hend)
      have hmore := ih (Nat.le_of_succ_le_succ hlen)
      simp only [furtherGroups, List.flatMap_cons, List.cons_append, List.append_assoc] at *
      simp [readGroups, readChar, hnone, hgroup, hmore]

theorem readGroups_join {limit : Nat} {gs : List UInt16} (hlen : gs.length ≤ limit) :
    readGroups true limit (joinGroups gs ++ rest) = ⟨gs, false, rest⟩ := by
  cases gs with
  | nil => exact readGroups_stops limit hend.stops
  | cons g gs =>
    cases limit with
    | zero => simp at hlen
    | succ limit =>
      have hnone : readV4 (groupText g ++ (furtherGroups gs ++ rest)) = none := by
        apply readV4_eq_none
        simp [dot_notMem_groupText, dot_notMem_furtherGroups, hdot]
      have hgroup := readGroup_text g (stops_furtherGroups gs hend)
      have hmore := readGroups_further hend hdot (Nat.le_of_succ_le_succ hlen)
      rw [joinGroups_cons, List.append_assoc]
      simp [readGroups, hnone, hgroup, hmore]

end

/-! ## Runs of zero groups -/

theorem take_zerosAt {gs : List UInt16} {n : Nat} (h : n ≤ zerosAt gs) :
    gs.take n = List.replicate n 0 := by
  have hzero : ∀ g ∈ gs.takeWhile (· == 0), g = 0 := fun g hg => by
    have hall := List.all_takeWhile (p := (· == 0)) (l := gs)
    simpa using List.all_eq_true.mp hall g hg
  have hall : gs.takeWhile (· == 0) = List.replicate (zerosAt gs) 0 :=
    List.eq_replicate_iff.mpr ⟨rfl, hzero⟩
  obtain ⟨more, hmore⟩ := List.takeWhile_prefix (p := (· == 0)) (l := gs)
  calc gs.take n = (gs.takeWhile (· == 0) ++ more).take n := by rw [hmore]
    _ = (gs.takeWhile (· == 0)).take n := List.take_append_of_le_length h
    _ = List.replicate n 0 := by rw [hall, List.take_replicate, Nat.min_eq_left h]

theorem longestZeros_le (gs : List UInt16) :
    (longestZeros gs).2 ≤ zerosAt (gs.drop (longestZeros gs).1) := by
  unfold longestZeros
  generalize List.range gs.length = starts
  suffices h : ∀ best : Nat × Nat, best.2 ≤ zerosAt (gs.drop best.1) →
      (starts.foldl (fun best i =>
        if best.2 < zerosAt (gs.drop i) then (i, zerosAt (gs.drop i)) else best) best).2 ≤
      zerosAt (gs.drop (starts.foldl (fun best i =>
        if best.2 < zerosAt (gs.drop i) then (i, zerosAt (gs.drop i)) else best) best).1) from
    h (0, 0) (Nat.zero_le _)
  induction starts with
  | nil => exact fun best h => h
  | cons i starts ih =>
    intro best h
    rw [List.foldl_cons]
    apply ih
    split_ifs
    · exact Nat.le_refl _
    · exact h

theorem append_zeros {gs : List UInt16} {start count : Nat}
    (h : count ≤ zerosAt (gs.drop start)) :
    gs.take start ++ (List.replicate count 0 ++ gs.drop (start + count)) = gs := by
  rw [← take_zerosAt h, ← List.drop_drop, List.take_append_drop, List.take_append_drop]

/-! ## Whole addresses -/

theorem ofGroups?_toList (x : Ipv6) : ofGroups? x.groups.toList = some x := by
  have hlen : x.groups.toList.length = 8 := by simp
  rw [ofGroups?, dif_pos hlen]
  congr

theorem readV6_join (x : Ipv6) : readV6 (joinGroups x.groups.toList) = some (x, []) := by
  have hlen : x.groups.toList.length = 8 := by simp
  have hread := readGroups_join (.inl rfl) List.not_mem_nil (Nat.le_of_eq hlen)
  rw [List.append_nil] at hread
  simp [readV6, hread, ofGroups?_toList]

/-- Two parts of an address around a run of at least two zero groups. -/
theorem readV6_compressed (x : Ipv6) {front back : List UInt16} {count : Nat} (hcount : 1 < count)
    (h : front ++ (List.replicate count 0 ++ back) = x.groups.toList) :
    readV6 (joinGroups front ++ ':' :: ':' :: joinGroups back) = some (x, []) := by
  have hlen : front.length + (count + back.length) = 8 := by
    have hall := congrArg List.length h
    simpa using hall
  have hhead : readGroups true 8 (joinGroups front ++ ':' :: ':' :: joinGroups back) =
      ⟨front, false, ':' :: ':' :: joinGroups back⟩ :=
    readGroups_join (.inr ⟨_, rfl⟩) (by simp [dot_notMem_joinGroups]) (by omega)
  have htail : readGroups true (7 - front.length) (joinGroups back) = ⟨back, false, []⟩ := by
    have hread := readGroups_join (.inl rfl) List.not_mem_nil
      (show back.length ≤ 7 - front.length by omega)
    rwa [List.append_nil] at hread
  have hzeros : 8 - front.length - back.length = count := by omega
  have hne : front.length ≠ 8 := by omega
  simp [readV6, hhead, hne, readChar, htail, hzeros, h, ofGroups?_toList]

theorem ofNat_bytes (g : UInt16) :
    UInt16.ofNat ((g / 256).toUInt8.toNat * 256 + g.toUInt8.toNat) = g := by
  have hlt : g.toNat < 65536 := g.toNat_lt
  have hhigh : (g / 256).toUInt8.toNat = g.toNat / 256 := by
    simp only [UInt16.toNat_toUInt8, UInt16.toNat_div]
    change g.toNat / 256 % 256 = g.toNat / 256
    omega
  have hlow : g.toUInt8.toNat = g.toNat % 256 := UInt16.toNat_toUInt8 g
  have hsum : (g / 256).toUInt8.toNat * 256 + g.toUInt8.toNat = g.toNat := by
    rw [hhigh, hlow]
    omega
  rw [hsum, UInt16.ofNat_toNat]

theorem readV6_mapped (x : Ipv6) {y : Ipv4} (h : Ipv6.mapped? x = some y) :
    readV6 (':' :: ':' :: 'f' :: 'f' :: 'f' :: 'f' :: ':' :: Ipv4.text y) = some (x, []) := by
  unfold Ipv6.mapped? at h
  split at h
  case h_2 => cases h
  case h_1 high low hgroups =>
    have hhigh : UInt16.ofNat (y.a.toNat * 256 + y.b.toNat) = high := by
      rw [← Option.some.inj h]
      exact ofNat_bytes high
    have hlow : UInt16.ofNat (y.c.toNat * 256 + y.d.toNat) = low := by
      rw [← Option.some.inj h]
      exact ofNat_bytes low
    have hhead := readGroups_stops 8 (stops_colon (':' :: 'f' :: 'f' :: 'f' :: 'f' :: ':' ::
      Ipv4.text y))
    have hv4 : readV4 (Ipv4.text y) = some (y, []) := by
      have hread := readV4_text y (Text.stops_nil _)
      rwa [List.append_nil] at hread
    have hnone : readV4 ('f' :: 'f' :: 'f' :: 'f' :: ':' :: Ipv4.text y) = none :=
      readV4_stops (Text.stops_cons (by decide) _)
    have hgroup : readGroup ('f' :: 'f' :: 'f' :: 'f' :: ':' :: Ipv4.text y) =
        some (0xffff, ':' :: Ipv4.text y) :=
      readGroup_text 0xffff (stops_colon _)
    have htail : readGroups true 7 ('f' :: 'f' :: 'f' :: 'f' :: ':' :: Ipv4.text y) =
        ⟨[0xffff, high, low], true, []⟩ := by
      simp only [readGroups, if_true, Nat.reduceLT, hnone, hgroup, Bool.false_eq_true, if_false,
        readChar, hv4, hhigh, hlow]
    have hall := ofGroups?_toList x
    rw [hgroups] at hall
    simp [readV6, hhead, readChar, htail, List.replicate, hall]

/-- The text of an address of the second family begins with no digits and a full stop. -/
theorem readV6_text (x : Ipv6) :
    readV4 (Ipv6.text x) = none ∧ readV6 (Ipv6.text x) = some (x, []) := by
  unfold Ipv6.text
  cases hmapped : Ipv6.mapped? x with
  | some y => exact ⟨readV4_stops (Text.stops_cons (by decide) _), readV6_mapped x hmapped⟩
  | none =>
    have hzeros := longestZeros_le x.groups.toList
    obtain ⟨start, count⟩ := longestZeros x.groups.toList
    simp only at hzeros ⊢
    split_ifs with hshort
    · exact ⟨readV4_eq_none (dot_notMem_joinGroups _), readV6_join x⟩
    · rw [List.append_assoc]
      refine ⟨readV4_eq_none ?_, readV6_compressed x (by omega) (append_zeros hzeros)⟩
      simp [dot_notMem_joinGroups]

theorem parse?_text (x : IpAddress) : parse? x.text = some x := by
  cases x with
  | v4 x =>
    have hread := readV4_text x (Text.stops_nil _)
    rw [List.append_nil] at hread
    simp [parse?, text, hread]
  | v6 x => simp [parse?, text, readV6_text]

end DnsFilter.IpAddress
