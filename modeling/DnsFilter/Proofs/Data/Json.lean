import DnsFilter.Data.Json
import DnsFilter.Proofs.Text.Digits
/-!
# Reading JSON that was written

A value whose text is written without white space is read back from it. A text follows its opening
quote up to its closing one, a number ends where no digit, point or exponent follows, and lists and
tables end with their own bracket.
-/
namespace DnsFilter.Json

/-! ## Texts -/

theorem hexDigit_spec :
    ∀ d < 16, Text.isHexDigit (hexDigit d) = true ∧ Text.hexVal (hexDigit d) = d := by
  decide

theorem readHex4_hexDigit {n : Nat} (hn : n < 256) (rest : List Char) :
    readHex4 ('0' :: '0' :: hexDigit (n / 16) :: hexDigit (n % 16) :: rest) = some (n, rest) := by
  obtain ⟨hhigh, hhighVal⟩ := hexDigit_spec (n / 16) (by omega)
  obtain ⟨hlow, hlowVal⟩ := hexDigit_spec (n % 16) (by omega)
  have hzero : Text.isHexDigit '0' = true ∧ Text.hexVal '0' = 0 := by decide
  simp only [readHex4, List.take_succ_cons, List.take_zero, List.length_cons, List.length_nil,
    List.all_cons, List.all_nil, hzero, hhigh, hlow, List.foldl_cons, List.foldl_nil, hhighVal,
    hlowVal, List.drop_succ_cons, List.drop_zero]
  simp
  omega

theorem readUnits_escapeChar (fuel : Nat) (units : List Nat) (c : Char) (rest : List Char) :
    readUnits (fuel + 1) units (escapeChar c ++ rest) = readUnits fuel (c.toNat :: units) rest := by
  unfold escapeChar
  split
  case h_8 _ _ _ _ _ _ _ _ =>
    split_ifs with hcontrol
    · have hunit := readHex4_hexDigit (show c.toNat < 256 by omega) rest
      simp only [List.cons_append, List.nil_append, readUnits, readEscape, hunit]
    · simp only [List.cons_append, List.nil_append, readUnits, if_neg hcontrol]
  all_goals simp [readUnits, readEscape, unescape?]

theorem readUnits_escaped (text : List Char) {fuel : Nat}
    (hfuel : (text.flatMap escapeChar).length < fuel) (units : List Nat) (rest : List Char) :
    readUnits fuel units (text.flatMap escapeChar ++ '"' :: rest) =
      some (text.reverse.map Char.toNat ++ units, rest) := by
  induction text generalizing fuel units with
  | nil =>
    obtain ⟨fuel, rfl⟩ := Nat.exists_eq_add_of_lt hfuel
    simp [readUnits]
  | cons c text ih =>
    have hc : 0 < (escapeChar c).length := by
      unfold escapeChar
      split <;> (try split_ifs) <;> simp
    rw [List.flatMap_cons, List.length_append] at hfuel
    obtain ⟨fuel, rfl⟩ : ∃ n, fuel = n + 1 := ⟨fuel - 1, by omega⟩
    rw [List.flatMap_cons, List.append_assoc, readUnits_escapeChar, ih (by omega)]
    simp

theorem not_isHalf (c : Char) : isHighHalf c.toNat = false ∧ isLowHalf c.toNat = false := by
  have hvalid : c.toNat < 0xD800 ∨ 0xDFFF < c.toNat ∧ c.toNat < 0x110000 := c.valid
  simp only [isHighHalf, isLowHalf, Bool.and_eq_false_iff, decide_eq_false_iff_not]
  omega

theorem joinHalves_chars (text after : List Char) :
    joinHalves (text.map Char.toNat) after = some (text.reverse ++ after) := by
  induction text generalizing after with
  | nil => rfl
  | cons c text ih =>
    obtain ⟨hhigh, hlow⟩ := not_isHalf c
    cases text with
    | nil => simp [joinHalves, hhigh, hlow]
    | cons d text =>
      have hrest := ih (c :: after)
      rw [List.map_cons] at hrest
      simp [joinHalves, hhigh, hlow, hrest]

theorem readText_escaped (s : String) {fuel : Nat}
    (hfuel : (s.toList.flatMap escapeChar).length < fuel) (rest : List Char) :
    readText fuel (s.toList.flatMap escapeChar ++ '"' :: rest) = some (some s, rest) := by
  have hjoin := joinHalves_chars s.toList.reverse []
  rw [List.reverse_reverse, List.append_nil] at hjoin
  rw [readText, readUnits_escaped s.toList hfuel]
  simp only [List.append_nil, Option.map_some, hjoin, String.ofList_toList]

/-! ## Numbers -/

/-- What can follow a value: the end, a comma or a closing bracket. -/
def Ends (rest : List Char) : Prop :=
  rest = [] ∨ ∃ c s, rest = c :: s ∧ (c = ',' ∨ c = ']' ∨ c = '\x7d')

theorem Ends.stops {rest : List Char} (h : Ends rest) : Text.Stops Text.isDigit rest := by
  rcases h with rfl | ⟨c, s, rfl, rfl | rfl | rfl⟩
  · exact Text.stops_nil _
  all_goals exact Text.stops_cons (by decide) s

theorem Ends.readFraction {rest : List Char} (h : Ends rest) :
    readFraction rest = some ([], rest) := by
  rcases h with rfl | ⟨c, s, rfl, rfl | rfl | rfl⟩ <;> rfl

theorem Ends.readExponent {rest : List Char} (h : Ends rest) :
    readExponent rest = some ([], rest) := by
  rcases h with rfl | ⟨c, s, rfl, rfl | rfl | rfl⟩ <;> rfl

theorem takeDigits_toDigits (n : Nat) {rest : List Char} (h : Ends rest) :
    takeDigits (Nat.toDigits 10 n ++ rest) = (Nat.toDigits 10 n, rest) := by
  have hdigits : ∀ c ∈ Nat.toDigits 10 n, Text.isDigit c = true := fun _ hc =>
    Text.isDigit_of_mem_toDigits hc
  rw [takeDigits, Text.takeWhile_run hdigits h.stops, Text.dropWhile_run hdigits h.stops]

/-- Digits of a number are no sign, and have no zero in front that a reader refuses. -/
theorem isPlainRun_toDigits (n : Nat) :
    (Nat.toDigits 10 n = [] || ((Nat.toDigits 10 n).head? = some '0' &&
      Nat.toDigits 10 n ≠ ['0'])) = false := by
  have hne : Nat.toDigits 10 n ≠ [] := Nat.toDigits_ne_nil
  by_cases hzero : (Nat.toDigits 10 n).head? = some '0'
  · simp [Text.toDigits_of_head?_zero hzero]
  · simp [hne, hzero]

theorem readNumber_toDigits (n : Nat) {rest : List Char} (h : Ends rest) :
    readNumber (Nat.toDigits 10 n ++ rest) = some (.integer n, rest) := by
  have hsign : ¬(Nat.toDigits 10 n ++ rest).head? = some '-' := by
    obtain ⟨c, digits, hc, hdigit⟩ := Text.head_toDigits n
    rw [hc]
    intro hminus
    obtain rfl := Option.some.inj hminus
    exact absurd hdigit (by decide)
  simp only [readNumber, hsign, if_false, takeDigits_toDigits n h, isPlainRun_toDigits,
    h.readFraction]
  simp [h.readExponent]

theorem readNumber_minus {n : Nat} (hn : 0 < n) {rest : List Char} (h : Ends rest) :
    readNumber ('-' :: (Nat.toDigits 10 n ++ rest)) = some (.integer (-n), rest) := by
  simp only [readNumber, List.head?_cons, if_true, List.drop_succ_cons, List.drop_zero,
    takeDigits_toDigits n h, isPlainRun_toDigits, h.readFraction]
  have hne : n ≠ 0 := by omega
  simp [h.readExponent, hne]

theorem readNumber_writeInteger (n : Int) {rest : List Char} (h : Ends rest) :
    readNumber (writeInteger n ++ rest) = some (.integer n, rest) := by
  unfold writeInteger
  split_ifs with hneg
  · have hminus := readNumber_minus (n := n.natAbs) (by omega) h
    rwa [show (-(n.natAbs : Int)) = n by omega] at hminus
  · have hplus := readNumber_toDigits n.natAbs h
    rwa [show ((n.natAbs : Int)) = n by omega] at hplus

/-- Digits of a number below the limit are all counted. -/
theorem foldl_addWhole {digits : List Char} {n : Nat}
    (h : digits.foldl (fun n c => 10 * n + Text.digitVal c) n < Text.limit64) :
    digits.foldl Scaled.addWhole ⟨n, 0, false⟩ =
      ⟨digits.foldl (fun n c => 10 * n + Text.digitVal c) n, 0, false⟩ := by
  induction digits generalizing n with
  | nil => rfl
  | cons c digits ih =>
    rw [List.foldl_cons] at h
    have hnext := Text.le_foldl_digits digits (10 * n + Text.digitVal c)
    have hadd : Scaled.addWhole ⟨n, 0, false⟩ c = ⟨10 * n + Text.digitVal c, 0, false⟩ := by
      have hsmall : ¬Text.limit64 ≤ 10 * n + Text.digitVal c := by omega
      simp [Scaled.addWhole, hsmall]
    rw [List.foldl_cons, hadd, ih h, List.foldl_cons]

/-- A number below the limit is no double that is too large. -/
theorem fits_toDigits {n : Nat} (h : n < Text.limit64) : fits (Nat.toDigits 10 n) = true := by
  have hnosign : (Nat.toDigits 10 n).dropWhile (· == '-') = Nat.toDigits 10 n := by
    obtain ⟨c, digits, hc, hdigit⟩ := Text.head_toDigits n
    have hne : c ≠ '-' := by
      rintro rfl
      exact absurd hdigit (by decide)
    rw [hc, List.dropWhile_cons_of_neg (by simpa using hne)]
  have hwhole : takeDigits (Nat.toDigits 10 n) = (Nat.toDigits 10 n, []) := by
    have htake := takeDigits_toDigits n (.inl rfl)
    rwa [List.append_nil] at htake
  have hvalue : (Nat.toDigits 10 n).foldl (fun n c => 10 * n + Text.digitVal c) 0 = n :=
    Text.decimalValue_toDigits n
  have hfold := @foldl_addWhole (Nat.toDigits 10 n) 0 (by rwa [hvalue])
  rw [hvalue] at hfold
  have hnone : takeDigits [] = ([], []) := rfl
  have hsign : takeSign [] = ([], []) := rfl
  simp [fits, hnosign, hwhole, hfold, hnone, hsign, Text.decimalValue,
    DoubleRange.exceedsInSteps]

/-! ## Values -/

mutual

def canWrite : Value → Bool
  | .raw _ => false
  | .unreadable => false
  | .list items => canWriteItems items
  | .table fields => canWriteFields fields
  | _ => true

def canWriteItems : List Value → Bool
  | [] => true
  | v :: vs => canWrite v && canWriteItems vs

def canWriteFields : List (String × Value) → Bool
  | [] => true
  | (_, v) :: fs => canWrite v && canWriteFields fs

end

theorem canWrite_list {items : List Value} :
    canWrite (.list items) = true ↔ ∀ v ∈ items, canWrite v = true := by
  rw [canWrite]
  induction items with
  | nil => simp [canWriteItems]
  | cons v vs ih => simp [canWriteItems, ih]

theorem canWrite_table {fields : List (String × Value)} :
    canWrite (.table fields) = true ↔ ∀ p ∈ fields, canWrite p.2 = true := by
  rw [canWrite]
  induction fields with
  | nil => simp [canWriteFields]
  | cons p fs ih =>
    obtain ⟨k, v⟩ := p
    simp [canWriteFields, ih]

theorem skip_cons {c : Char} (h : isSpace c = false) (s : List Char) : skip (c :: s) = c :: s := by
  simp [skip, h]

theorem isSpace_of_number {c : Char} (hc : c = '-' ∨ Text.isDigit c = true) :
    isSpace c = false := by
  cases hs : isSpace c with
  | false => rfl
  | true =>
    simp only [isSpace, Bool.or_eq_true, beq_iff_eq] at hs
    rcases hs with ((rfl | rfl) | rfl) | rfl <;> exact absurd hc (by decide)

theorem readValue_number {c : Char} (hc : c = '-' ∨ Text.isDigit c = true) (fuel : Nat)
    (s : List Char) : readValue (fuel + 1) (c :: s) = readNumber (c :: s) := by
  rw [readValue, skip_cons (isSpace_of_number hc)]
  split
  case h_7 => rfl
  all_goals
    rename_i heq
    cases heq
    exact absurd hc (by decide)

theorem head_writeInteger (n : Int) : ∃ c s, writeInteger n = c :: s ∧
    (c = '-' ∨ Text.isDigit c = true) := by
  unfold writeInteger
  split_ifs
  · exact ⟨'-', _, rfl, .inl rfl⟩
  · obtain ⟨c, digits, hc, hdigit⟩ := Text.head_toDigits n.natAbs
    exact ⟨c, digits, hc, .inr hdigit⟩

theorem readValue_writeInteger (n : Int) (fuel : Nat) {rest : List Char} (h : Ends rest) :
    readValue (fuel + 1) (writeInteger n ++ rest) = some (.integer n, rest) := by
  have hread := readNumber_writeInteger n h
  obtain ⟨c, digits, hc, hfirst⟩ := head_writeInteger n
  rw [hc] at hread ⊢
  rw [List.cons_append, readValue_number hfirst]
  exact hread

theorem readValue_writeText (s : String) {fuel : Nat} (hfuel : (writeText s).length < fuel + 1)
    (rest : List Char) : readValue (fuel + 1) (writeText s ++ rest) = some (.text s, rest) := by
  have hlen : (s.toList.flatMap escapeChar).length < fuel := by
    simp only [writeText, List.length_append, List.length_cons, List.length_nil] at hfuel
    omega
  have htext := readText_escaped s hlen rest
  simp only [writeText, List.cons_append, List.append_assoc, List.nil_append]
  rw [readValue, skip_cons rfl]
  simp [htext]

theorem ends_writeItems (vs : List Value) (rest : List Char) : Ends (writeItems vs ++ rest) := by
  right
  cases vs with
  | nil => exact ⟨']', rest, rfl, .inr (.inl rfl)⟩
  | cons v vs => exact ⟨',', _, rfl, .inl rfl⟩

theorem ends_writeFields (fs : List (String × Value)) (rest : List Char) :
    Ends (writeFields fs ++ rest) := by
  right
  cases fs with
  | nil => exact ⟨'\x7d', rest, rfl, .inr (.inr rfl)⟩
  | cons f fs => exact ⟨',', _, rfl, .inl rfl⟩

/-- The text of a value begins with no white space and no closing bracket. -/
theorem head_write {v : Value} (h : canWrite v = true) : ∃ c s, write v = c :: s ∧
    isSpace c = false ∧ c ≠ ']' := by
  cases v with
  | null => exact ⟨'n', _, rfl, by decide⟩
  | bool b => cases b <;> exact ⟨_, _, rfl, by decide⟩
  | integer n =>
    obtain ⟨c, s, hc, hfirst⟩ := head_writeInteger n
    refine ⟨c, s, hc, isSpace_of_number hfirst, ?_⟩
    rintro rfl
    exact absurd hfirst (by decide)
  | text s => exact ⟨'"', _, rfl, by decide⟩
  | list items => cases items <;> exact ⟨'[', _, rfl, by decide⟩
  | table fields => cases fields <;> exact ⟨'\x7b', _, rfl, by decide⟩
  | raw s => cases h
  | unreadable => cases h

def ReadsValues (fuel : Nat) : Prop :=
  ∀ v rest, canWrite v = true → (write v).length < fuel → Ends rest →
    readValue fuel (write v ++ rest) = some (v, rest)

def ReadsItems (fuel : Nat) : Prop :=
  ∀ v vs before rest, canWrite v = true → canWriteItems vs = true →
    (write v ++ writeItems vs).length < fuel →
    readItems fuel before (write v ++ (writeItems vs ++ rest)) =
      some (vs.reverse ++ v :: before, rest)

def ReadsFields (fuel : Nat) : Prop :=
  ∀ k v fs before rest, canWrite v = true → canWriteFields fs = true →
    (writeText k ++ ':' :: (write v ++ writeFields fs)).length < fuel →
    readFields fuel before (writeText k ++ ':' :: (write v ++ (writeFields fs ++ rest))) =
      some ((fs.map fun f => (some f.1, f.2)).reverse ++ (some k, v) :: before, rest)

theorem tableOf_texts (fields : List (String × Value)) :
    tableOf (fields.map fun f => (some f.1, f.2)) = .table fields := by
  have hall : (fields.map fun f => (some f.1, f.2)).mapM
      (fun f : Option String × Value => f.1.map (·, f.2)) = some fields := by
    induction fields with
    | nil => rfl
    | cons f fields ih => simp [ih]
  rw [tableOf, hall]

theorem length_writeItems_pos (vs : List Value) : 0 < (writeItems vs).length := by
  cases vs <;> simp [writeItems]

theorem length_writeFields_pos (fs : List (String × Value)) : 0 < (writeFields fs).length := by
  cases fs <;> simp [writeFields]

theorem readsItems_succ {fuel : Nat} (hvalues : ReadsValues fuel) (hitems : ReadsItems fuel) :
    ReadsItems (fuel + 1) := by
  intro v vs before rest hv hvs hfuel
  rw [List.length_append] at hfuel
  have hlen := length_writeItems_pos vs
  have hread : readValue fuel (write v ++ (writeItems vs ++ rest)) =
      some (v, writeItems vs ++ rest) :=
    hvalues v _ hv (by omega) (ends_writeItems vs rest)
  rw [readItems, hread]
  cases vs with
  | nil => rfl
  | cons w ws =>
    simp only [canWriteItems, Bool.and_eq_true] at hvs
    have hrest := hitems w ws (v :: before) rest hvs.1 hvs.2 (by
      simp only [writeItems, List.length_append, List.length_cons] at hfuel ⊢
      omega)
    simp only [writeItems, List.cons_append, List.append_assoc]
    rw [skip_cons rfl]
    simp [hrest]

theorem readsFields_succ {fuel : Nat} (hvalues : ReadsValues fuel) (hfields : ReadsFields fuel) :
    ReadsFields (fuel + 1) := by
  intro k v fs before rest hv hfs hfuel
  simp only [writeText, List.length_append, List.length_cons, List.length_nil] at hfuel
  have hlen := length_writeFields_pos fs
  have hkey := @readText_escaped k fuel (by omega)
    (':' :: (write v ++ (writeFields fs ++ rest)))
  have hread : readValue fuel (write v ++ (writeFields fs ++ rest)) =
      some (v, writeFields fs ++ rest) :=
    hvalues v _ hv (by omega) (ends_writeFields fs rest)
  simp only [writeText, List.cons_append, List.append_assoc, List.nil_append]
  rw [readFields, skip_cons rfl]
  simp only [hkey, skip_cons (show isSpace ':' = false from rfl), hread]
  cases fs with
  | nil => rfl
  | cons f fs =>
    obtain ⟨k', w⟩ := f
    simp only [canWriteFields, Bool.and_eq_true] at hfs
    have hrest := hfields k' w fs ((some k, v) :: before) rest hfs.1 hfs.2 (by
      simp only [writeFields, List.length_append, List.length_cons] at hfuel ⊢
      omega)
    simp only [writeFields, List.cons_append, List.append_assoc]
    rw [skip_cons rfl]
    simp [hrest]

theorem readsValues_succ {fuel : Nat} (hitems : ReadsItems fuel) (hfields : ReadsFields fuel) :
    ReadsValues (fuel + 1) := by
  intro v rest hv hfuel hrest
  cases v with
  | null => rfl
  | bool b => cases b <;> rfl
  | integer n => exact readValue_writeInteger n fuel hrest
  | text s => exact readValue_writeText s hfuel rest
  | list items =>
    cases items with
    | nil => rfl
    | cons v vs =>
      simp only [canWrite, canWriteItems, Bool.and_eq_true] at hv
      obtain ⟨c, s, hc, hspace, hbracket⟩ := head_write hv.1
      have hread := hitems v vs [] rest hv.1 hv.2 (by
        simp only [write, List.length_append, List.length_cons] at hfuel ⊢
        omega)
      simp only [write, List.cons_append, List.append_assoc]
      rw [readValue, skip_cons rfl]
      rw [hc, List.cons_append] at hread ⊢
      simp only [skip_cons hspace]
      -- the first item begins with something else than the bracket of an empty list
      split
      · rename_i heq
        exact absurd (List.cons.inj heq).1 hbracket
      · simp [hread]
  | table fields =>
    cases fields with
    | nil => rfl
    | cons f fs =>
      obtain ⟨k, v⟩ := f
      simp only [canWrite, canWriteFields, Bool.and_eq_true] at hv
      have hread := hfields k v fs [] rest hv.1 hv.2 (by
        simp only [write, List.length_append, List.length_cons] at hfuel ⊢
        omega)
      have htable := tableOf_texts ((k, v) :: fs)
      simp only [write, writeText, List.cons_append, List.append_assoc] at hread ⊢
      rw [readValue, skip_cons rfl]
      simp only [skip_cons (show isSpace '"' = false from rfl), hread]
      simpa using htable
  | raw s => cases hv
  | unreadable => cases hv

theorem reads (fuel : Nat) : ReadsValues fuel ∧ ReadsItems fuel ∧ ReadsFields fuel := by
  induction fuel with
  | zero =>
    refine ⟨?_, ?_, ?_⟩
    · intro v rest _ hfuel
      omega
    · intro v vs before rest _ _ hfuel
      omega
    · intro k v fs before rest _ _ hfuel
      omega
  | succ fuel ih =>
    obtain ⟨hvalues, hitems, hfields⟩ := ih
    exact ⟨readsValues_succ hitems hfields, readsItems_succ hvalues hitems,
      readsFields_succ hvalues hfields⟩

theorem parse?_compact {v : Value} (h : canWrite v = true) : parse? (compact v) = some v := by
  have hread := (reads ((write v).length + 2)).1 v [] h (by omega) (.inl rfl)
  rw [List.append_nil] at hread
  rw [parse?, compact, String.toList_ofList, hread]
  rfl

/-! ## Lines -/

theorem newline_not_mem_toDigits (n : Nat) : '\n' ∉ Nat.toDigits 10 n := by
  intro h
  exact absurd (Text.isDigit_of_mem_toDigits h) (by decide)

theorem newline_not_mem_escapeChar (c : Char) : '\n' ∉ escapeChar c := by
  have hdigit : ∀ d < 16, hexDigit d ≠ '\n' := by decide
  unfold escapeChar
  split
  case h_8 _ _ _ _ _ _ _ _ =>
    split_ifs with hcontrol
    · have hhigh := hdigit (c.toNat / 16) (by omega)
      have hlow := hdigit (c.toNat % 16) (by omega)
      simp [hhigh.symm, hlow.symm]
    · intro h
      obtain rfl := List.mem_singleton.mp h
      exact hcontrol (by decide)
  all_goals decide

theorem newline_not_mem_writeText (s : String) : '\n' ∉ writeText s := by
  have hchars : '\n' ∉ s.toList.flatMap escapeChar := by
    intro h
    obtain ⟨c, -, hc⟩ := List.mem_flatMap.mp h
    exact newline_not_mem_escapeChar c hc
  simp [writeText, hchars]

theorem newline_not_mem_writeInteger (n : Int) : '\n' ∉ writeInteger n := by
  have hdigits := newline_not_mem_toDigits n.natAbs
  unfold writeInteger
  split_ifs <;> simp [hdigits]

mutual

theorem newline_not_mem_write : ∀ v : Value, canWrite v = true → '\n' ∉ write v
  | .null, _ => by decide
  | .bool true, _ => by decide
  | .bool false, _ => by decide
  | .integer n, _ => newline_not_mem_writeInteger n
  | .text s, _ => newline_not_mem_writeText s
  | .list [], _ => by decide
  | .list (v :: vs), h => by
    simp only [canWrite, canWriteItems, Bool.and_eq_true] at h
    have hv := newline_not_mem_write v h.1
    have hvs := newline_not_mem_writeItems vs h.2
    simp [write, hv, hvs]
  | .table [], _ => by decide
  | .table ((k, v) :: fs), h => by
    simp only [canWrite, canWriteFields, Bool.and_eq_true] at h
    have hk := newline_not_mem_writeText k
    have hv := newline_not_mem_write v h.1
    have hfs := newline_not_mem_writeFields fs h.2
    simp [write, hk, hv, hfs]

theorem newline_not_mem_writeItems : ∀ vs : List Value, canWriteItems vs = true →
    '\n' ∉ writeItems vs
  | [], _ => by decide
  | v :: vs, h => by
    simp only [canWriteItems, Bool.and_eq_true] at h
    have hv := newline_not_mem_write v h.1
    have hvs := newline_not_mem_writeItems vs h.2
    simp [writeItems, hv, hvs]

theorem newline_not_mem_writeFields : ∀ fs : List (String × Value), canWriteFields fs = true →
    '\n' ∉ writeFields fs
  | [], _ => by decide
  | (k, v) :: fs, h => by
    simp only [canWriteFields, Bool.and_eq_true] at h
    have hk := newline_not_mem_writeText k
    have hv := newline_not_mem_write v h.1
    have hfs := newline_not_mem_writeFields fs h.2
    simp [writeFields, hk, hv, hfs]

end

theorem newline_not_mem_compact {v : Value} (h : canWrite v = true) :
    '\n' ∉ (compact v).toList := by
  rw [compact, String.toList_ofList]
  exact newline_not_mem_write v h

end DnsFilter.Json
