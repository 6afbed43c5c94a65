import Mathlib.Tactic.SplitIfs
import DnsFilter.Data.Toml
import DnsFilter.Proofs.Text.Digits
/-!
# Reading TOML values that were written

A text is read back from between its quotes, a key from its parts with dots between them, and a value
that stands in one line from what it was written as, if a comma, a bracket or the end of the line
follows.
-/
namespace DnsFilter.Toml

open Text

/-! ## Space -/

/-- A text that begins with a character of one kind is none that begins with another character. -/
theorem cons_ne_cons {p : Char → Bool} {c d : Char} (hc : p c = true) (hd : p d = false)
    (s t : List Char) : c :: s ≠ d :: t := by
  intro heq
  obtain rfl := (List.cons.inj heq).1
  exact Bool.false_ne_true (hd.symm.trans hc)

theorem skipSpace_of_stops {s : List Char} (h : Stops isSpace s) : skipSpace s = s :=
  h.dropWhile_eq

def isVoid (c : Char) : Bool := isSpace c || c == '#' || c == '\n' || c == '\r'

theorem isVoid_eq_false {p : Char → Bool}
    (hvoid : [' ', '\t', '#', '\n', '\r'].all (fun c => !p c) = true) {c : Char}
    (hc : p c = true) : isVoid c = false := by
  cases hmark : isVoid c with
  | false => rfl
  | true =>
    have hmem : c ∈ [' ', '\t', '#', '\n', '\r'] := by
      simpa [isVoid, isSpace, or_assoc] using hmark
    have hnot := List.all_eq_true.mp hvoid c hmem
    rw [hc] at hnot
    cases hnot

theorem isSpace_of_not_isVoid {c : Char} (h : isVoid c = false) : isSpace c = false := by
  simp only [isVoid, Bool.or_eq_false_iff] at h
  exact h.1.1.1

theorem skipVoid_of_stops {s : List Char} (h : Stops isVoid s) (fuel : Nat) :
    skipVoid fuel s = s := by
  cases fuel with
  | zero => rfl
  | succ fuel =>
    cases s with
    | nil => rfl
    | cons c s =>
      have hc := h c rfl
      simp only [isVoid, Bool.or_eq_false_iff, beq_eq_false_iff_ne] at hc
      obtain ⟨⟨⟨hspace, hhash⟩, hline⟩, hreturn⟩ := hc
      have hnewline : newline? (c :: s) = none := by
        unfold newline?
        split <;> simp_all
      have hcomment : skipComment (skipSpace (c :: s)) = c :: s := by
        rw [skipSpace_of_stops (stops_cons hspace s)]
        unfold skipComment
        split <;> simp_all
      simp only [skipVoid, hcomment, hnewline]

/-! ## Texts -/

theorem readCode_hex {c : Char} (hc : c.toNat < 128) (rest : List Char) :
    readCode 4 (List.replicate (4 - (Nat.toDigits 16 c.toNat).length) '0' ++
      Nat.toDigits 16 c.toNat ++ rest) = some (c, rest) := by
  have hall : ∀ n < 128,
      let digits := List.replicate (4 - (Nat.toDigits 16 n).length) '0' ++ Nat.toDigits 16 n
      digits.length = 4 ∧ digits.all isHexDigit = true ∧ codePoint? digits = some (Char.ofNat n) := by
    decide
  obtain ⟨hlen, hhex, hcode⟩ := hall c.toNat hc
  simp only [readCode]
  rw [List.take_left' hlen, List.drop_left' hlen, hlen, hhex, hcode, Char.ofNat_toNat]
  rfl

theorem lt_of_not_isVisible {c : Char} (h : ¬isVisible c = true) : c.toNat < 128 := by
  simp only [isVisible, Bool.or_eq_true, beq_iff_eq, Bool.and_eq_true, decide_eq_true_eq] at h
  omega

theorem readBasic_escapeChar (fuel : Nat) (before : List Char) (c : Char) (rest : List Char) :
    readBasic (fuel + 1) before (escapeChar c ++ rest) = readBasic fuel (c :: before) rest := by
  unfold escapeChar
  split
  · rfl
  · rfl
  · rename_i hquote hslash
    split_ifs with hvisible
    · simp only [List.cons_append, List.nil_append]
      rw [readBasic, if_pos hvisible] <;> assumption
    · have hcode := readCode_hex (lt_of_not_isVisible hvisible) rest
      simp only [List.cons_append, List.nil_append, readBasic, readEscape, hcode]

theorem length_escapeChar_pos (c : Char) : 0 < (escapeChar c).length := by
  unfold escapeChar
  split
  · decide
  · decide
  · split_ifs <;> simp

theorem readBasic_escaped (text : List Char) {fuel : Nat}
    (hfuel : (text.flatMap escapeChar).length < fuel) (before rest : List Char) :
    readBasic fuel before (text.flatMap escapeChar ++ '"' :: rest) =
      some (before.reverse ++ text, rest) := by
  induction text generalizing fuel before with
  | nil =>
    obtain ⟨fuel, rfl⟩ := Nat.exists_eq_add_of_lt hfuel
    simp [readBasic]
  | cons c text ih =>
    have hc := length_escapeChar_pos c
    rw [List.flatMap_cons, List.length_append] at hfuel
    obtain ⟨fuel, rfl⟩ : ∃ n, fuel = n + 1 := ⟨fuel - 1, by omega⟩
    rw [List.flatMap_cons, List.append_assoc, readBasic_escapeChar, ih (by omega)]
    simp

theorem head_escaped (text : List Char) : (text.flatMap escapeChar).head? ≠ some '"' := by
  cases text with
  | nil => simp
  | cons c text =>
    rw [List.flatMap_cons]
    unfold escapeChar
    split
    · simp
    · simp
    · split_ifs <;> simp_all

/-! ## Keys -/

def startsKey (c : Char) : Bool := c == '"' || isBare c

theorem head_writeKey (key : String) : ∃ c s, writeKey key = c :: s ∧ startsKey c = true := by
  unfold writeKey
  split_ifs with hbare
  · obtain ⟨hne, hall⟩ := Bool.and_eq_true_iff.mp hbare
    obtain ⟨c, s, hs⟩ : ∃ c s, key.toList = c :: s := by
      apply List.exists_cons_of_ne_nil
      intro hnil
      rw [String.toList_eq_nil_iff] at hnil
      simp [hnil] at hne
    rw [hs, List.all_cons, Bool.and_eq_true] at hall
    exact ⟨c, s, hs, by simp [startsKey, hall.1]⟩
  · exact ⟨'"', _, rfl, rfl⟩

theorem isVoid_of_startsKey {c : Char} (h : startsKey c = true) : isVoid c = false :=
  isVoid_eq_false (by decide) h

theorem readKey_writeKey (key : String) {fuel : Nat} (hfuel : (writeKey key).length ≤ fuel)
    {rest : List Char} (hrest : Stops isBare rest) :
    readKey fuel (writeKey key ++ rest) = some (key, rest) := by
  obtain ⟨c, s, hs, hc⟩ := head_writeKey key
  unfold writeKey at hfuel hs ⊢
  split_ifs at hfuel hs ⊢ with hbare
  · have hall : ∀ d ∈ key.toList, isBare d = true :=
      List.all_eq_true.mp (Bool.and_eq_true_iff.mp hbare).2
    have hfirst : isBare c = true := hall c (hs ▸ List.mem_cons_self)
    have hrun := takeWhile_run hall hrest
    unfold readKey
    split
    · rename_i heq
      rw [hs] at heq
      exact absurd heq (cons_ne_cons hfirst (by decide) _ _)
    · rename_i heq
      rw [hs] at heq
      exact absurd heq (cons_ne_cons hfirst (by decide) _ _)
    · have hne : key.toList ≠ [] := by
        rw [hs]
        exact List.cons_ne_nil c s
      simp only [hrun, if_neg hne, String.ofList_toList, List.drop_left]
  · simp only [writeText, List.length_append, List.length_cons, List.length_nil] at hfuel
    have htext := readBasic_escaped key.toList (show _ < fuel by omega) [] rest
    simp only [writeText, List.cons_append, List.append_assoc, List.nil_append, readKey, htext]
    simp

/-- The parts of a key are read back, with the space after the last one. -/
theorem readParts_writeKeys {keys : List String} (hne : keys ≠ []) {parts : Nat}
    (hparts : keys.length ≤ parts) {fuel : Nat} (hfuel : (writeKeys keys).length ≤ fuel)
    {rest : List Char} (hbare : Stops isBare rest) (hdot : Stops (· == '.') (skipSpace rest)) :
    readParts fuel parts (writeKeys keys ++ rest) = some (keys, skipSpace rest) := by
  induction keys generalizing parts with
  | nil => exact absurd rfl hne
  | cons key keys ih =>
    obtain ⟨parts, rfl⟩ : ∃ n, parts = n + 1 := ⟨parts - 1, by simp at hparts; omega⟩
    have hkey (s : List Char) : skipSpace (writeKey key ++ s) = writeKey key ++ s := by
      obtain ⟨c, t, ht, hc⟩ := head_writeKey key
      rw [ht]
      exact skipSpace_of_stops (stops_cons (isSpace_of_not_isVoid (isVoid_of_startsKey hc)) _)
    cases keys with
    | nil =>
      have hwrite : writeKeys [key] = writeKey key := by simp [writeKeys]
      rw [hwrite] at hfuel ⊢
      rw [readParts, hkey, readKey_writeKey key hfuel hbare]
      cases hspace : skipSpace rest with
      | nil => simp [hspace]
      | cons c s =>
        rw [hspace] at hdot
        have hc : c ≠ '.' := by simpa using hdot c rfl
        simp [hspace, hc]
    | cons next keys =>
      have hwrite : writeKeys (key :: next :: keys) =
          writeKey key ++ '.' :: writeKeys (next :: keys) := by simp [writeKeys]
      rw [hwrite, List.length_append, List.length_cons] at hfuel
      have hmore := ih (by simp) (Nat.le_of_succ_le_succ hparts) (by omega)
      rw [hwrite, List.append_assoc, List.cons_append, readParts, hkey,
        readKey_writeKey key (by omega) (stops_cons (by decide) _)]
      simp [skipSpace_of_stops (stops_cons (show isSpace '.' = false from rfl) _), hmore]

/-! ## Numbers and truth values -/

/-- What can follow a value: the end, the end of a line, a comma or a closing bracket. -/
def Ends (rest : List Char) : Prop := Stops (fun c => c != '\n' && c != ',' && c != ']') rest

theorem Ends.stops {rest : List Char} (h : Ends rest) {p : Char → Bool}
    (hline : p '\n' = false) (hcomma : p ',' = false) (hbracket : p ']' = false) :
    Stops p rest := by
  intro c hc
  have hend := h c hc
  simp only [Bool.and_eq_false_iff, bne_eq_false_iff_eq] at hend
  rcases hend with (rfl | rfl) | rfl
  · exact hline
  · exact hcomma
  · exact hbracket

theorem scalarText_run {run rest : List Char} (hrun : ∀ c ∈ run, isScalarChar c = true)
    (hrest : Ends rest) : scalarText (run ++ rest) = run := by
  have htake := takeWhile_run hrun (hrest.stops (by decide) (by decide) (by decide))
  simp only [scalarText, htake, List.drop_left]
  split
  · exact absurd (hrest _ rfl) (by decide)
  · rfl

theorem isScalarChar_of_isDigit {c : Char} (h : isDigit c = true) : isScalarChar c = true := by
  simp [isScalarChar, isBare, h]

theorem splitSign_toDigits (n : Nat) :
    splitSign (Nat.toDigits 10 n) = (none, Nat.toDigits 10 n) := by
  obtain ⟨c, digits, hc, hdigit⟩ := head_toDigits n
  rw [hc]
  unfold splitSign
  split
  · rename_i heq
    exact absurd heq (cons_ne_cons hdigit (by decide) _ _)
  · rename_i heq
    exact absurd heq (cons_ne_cons hdigit (by decide) _ _)
  · rfl

theorem plainDigits?_toDigits (n : Nat) :
    plainDigits? (Nat.toDigits 10 n) = some (Nat.toDigits 10 n) := by
  have hall : ∀ c ∈ Nat.toDigits 10 n, isDigit c = true := fun _ hc => isDigit_of_mem_toDigits hc
  have hsplit : (Nat.toDigits 10 n).splitOn '_' = [Nat.toDigits 10 n] := by
    apply List.splitOn_eq_singleton
    intro hmem
    exact absurd (hall _ hmem) (by decide)
  have hdigits : digits? isDigit (Nat.toDigits 10 n) = some (Nat.toDigits 10 n) := by
    simpa [digits?, hsplit, Nat.toDigits_ne_nil] using hall
  rw [plainDigits?, hdigits, Option.filter_some, if_pos]
  by_cases hzero : (Nat.toDigits 10 n).head? = some '0'
  · simp [toDigits_of_head?_zero hzero]
  · simp [hzero]

theorem integer?_toDigits {n : Nat} (h : n < Nat.pow 2 128) :
    integer? (Nat.toDigits 10 n) = some (n : Int) := by
  have hletter {c d : Char} {rest : List Char} (heq : Nat.toDigits 10 n = c :: d :: rest) :
      isDigit d = true :=
    isDigit_of_mem_toDigits (heq ▸ List.mem_cons_of_mem c List.mem_cons_self)
  have hrange : (-(Nat.pow 2 127 : Nat) : Int) ≤ n ∧ (n : Int) < (Nat.pow 2 128 : Nat) := by
    omega
  unfold integer?
  split
  case h_4 =>
    simp only [splitSign_toDigits, plainDigits?_toDigits, Option.map_some, decimalValue_toDigits,
      reduceCtorEq, if_false, Option.filter_some, hrange, decide_true, Bool.and_self, if_true]
  all_goals
    rename_i heq
    exact absurd (hletter heq) (by decide)

theorem scalar?_toDigits {n : Nat} (h : n < Nat.pow 2 128) :
    scalar? (Nat.toDigits 10 n) = some (.ofNat n) := by
  obtain ⟨c, digits, hc, hdigit⟩ := head_toDigits n
  have hword {word : String} (hfirst : Stops isDigit word.toList) :
      Nat.toDigits 10 n ≠ word.toList := by
    intro heq
    rw [← heq, hc] at hfirst
    exact absurd hdigit (by simp [hfirst c rfl])
  rw [scalar?, if_neg (hword (by decide)), if_neg (hword (by decide)), integer?_toDigits h]
  rfl

/-! ## Values in one line -/

inductive IsPlain : Nat → Value → Prop
  | bool {depth : Nat} (b : Bool) : IsPlain depth (.bool b)
  | nat {depth n : Nat} (h : n < Nat.pow 2 128) : IsPlain depth (.ofNat n)
  | text {depth : Nat} (s : String) : IsPlain depth (.text s)
  | list {depth : Nat} {items : List Value} (h : ∀ v ∈ items, IsPlain depth v) :
    IsPlain (depth + 1) (.list items)

theorem writeInline_ofNat (n : Nat) : writeInline (.ofNat n) = Nat.toDigits 10 n := by
  simp [writeInline, Value.ofNat, toString, Int.repr, Nat.repr]

def startsValue (c : Char) : Bool :=
  c == 't' || c == 'f' || c == '"' || c == '[' || isDigit c

theorem head_writeInline {depth : Nat} {v : Value} (h : IsPlain depth v) :
    ∃ c s, writeInline v = c :: s ∧ startsValue c = true := by
  cases h with
  | bool b => cases b <;> exact ⟨_, _, rfl, by decide⟩
  | @nat _ n _ =>
    obtain ⟨c, digits, hc, hdigit⟩ := head_toDigits n
    exact ⟨c, digits, (writeInline_ofNat n).trans hc, by simp [startsValue, hdigit]⟩
  | text s => exact ⟨'"', _, rfl, by decide⟩
  | list _ => exact ⟨'[', _, rfl, by decide⟩

theorem isVoid_of_startsValue {c : Char} (h : startsValue c = true) : isVoid c = false :=
  isVoid_eq_false (by decide) h

def IsReadBack (depth : Nat) (v : Value) : Prop :=
  ∀ (fuel : Nat) (rest : List Char), (writeInline v).length < fuel → Ends rest →
    readValue fuel depth (writeInline v ++ rest) = some (v, rest)

/-- A value without quotes and brackets is its text up to where it ends. -/
theorem readValue_scalar {run : List Char} (hrun : ∀ c ∈ run, isScalarChar c = true)
    {c : Char} {s : List Char} (hs : run = c :: s) {v : Value} (hv : scalar? run = some v)
    (fuel depth : Nat) {rest : List Char} (hrest : Ends rest) :
    readValue (fuel + 1) depth (run ++ rest) = some (v, rest) := by
  have hc : isScalarChar c = true := hrun c (hs ▸ List.mem_cons_self)
  have htext := scalarText_run hrun hrest
  unfold readValue
  split
  case h_7 => simp only [htext, hv, Option.map_some, List.drop_left]
  all_goals
    rename_i heq
    rw [hs] at heq
    exact absurd heq (cons_ne_cons hc (by decide) _ _)

theorem isReadBack_bool (depth : Nat) (b : Bool) : IsReadBack depth (.bool b) := by
  intro fuel rest hfuel hrest
  obtain ⟨fuel, rfl⟩ : ∃ n, fuel = n + 1 := ⟨fuel - 1, by omega⟩
  cases b with
  | false => exact readValue_scalar (List.all_eq_true.mp (by decide)) rfl rfl fuel depth hrest
  | true => exact readValue_scalar (List.all_eq_true.mp (by decide)) rfl rfl fuel depth hrest

theorem isReadBack_ofNat (depth : Nat) {n : Nat} (h : n < Nat.pow 2 128) :
    IsReadBack depth (.ofNat n) := by
  intro fuel rest hfuel hrest
  obtain ⟨fuel, rfl⟩ : ∃ n, fuel = n + 1 := ⟨fuel - 1, by omega⟩
  obtain ⟨c, digits, hc, -⟩ := head_toDigits n
  have hdigits : ∀ c ∈ Nat.toDigits 10 n, isScalarChar c = true := by
    intro c hc
    exact isScalarChar_of_isDigit (isDigit_of_mem_toDigits hc)
  rw [writeInline_ofNat]
  exact readValue_scalar hdigits hc (scalar?_toDigits h) fuel depth hrest

theorem isReadBack_text (depth : Nat) (s : String) : IsReadBack depth (.text s) := by
  intro fuel rest hfuel hrest
  obtain ⟨fuel, rfl⟩ : ∃ n, fuel = n + 1 := ⟨fuel - 1, by omega⟩
  have hlen : (s.toList.flatMap escapeChar).length < fuel := by
    simp only [writeInline, writeText, List.length_append, List.length_cons,
      List.length_nil] at hfuel
    omega
  have htext := readBasic_escaped s.toList hlen [] rest
  have hhead := head_escaped s.toList
  simp only [writeInline, writeText, List.cons_append, List.append_assoc, List.nil_append]
  unfold readValue
  split
  case h_1 more heq =>
    -- a third quote would be one of the text, or follow it
    exfalso
    obtain ⟨-, hquotes⟩ := List.cons.inj heq
    cases hescaped : s.toList.flatMap escapeChar with
    | nil =>
      rw [hescaped] at hquotes
      obtain ⟨-, rfl⟩ := List.cons.inj hquotes
      exact absurd (hrest '"' rfl) (by decide)
    | cons c escaped =>
      rw [hescaped] at hquotes hhead
      obtain ⟨rfl, -⟩ := List.cons.inj hquotes
      exact hhead rfl
  case h_2 heq =>
    obtain ⟨-, rfl⟩ := List.cons.inj heq
    simp [htext, textValue]
  all_goals simp_all

theorem readItems_space (fuel depth : Nat) (before : List Value) (s : List Char) :
    readItems (fuel + 2) depth before (' ' :: s) = readItems (fuel + 2) depth before s := by
  rw [readItems, readItems]
  rfl

/-- An item is read, and then what stands behind it tells whether another one follows. -/
theorem readItems_item {depth : Nat} {v : Value} (hplain : IsPlain depth v)
    (hread : IsReadBack depth v) {fuel : Nat} (hfuel : (writeInline v).length < fuel)
    (before : List Value) {rest : List Char} (hrest : Ends rest) :
    readItems (fuel + 1) depth before (writeInline v ++ rest) =
      match skipVoid fuel rest with
      | ']' :: rest => some (v :: before, rest)
      | ',' :: rest => readItems fuel depth (v :: before) rest
      | _ => none := by
  obtain ⟨c, s, hs, hc⟩ := head_writeInline hplain
  have hvoid : skipVoid fuel (writeInline v ++ rest) = writeInline v ++ rest := by
    rw [hs]
    exact skipVoid_of_stops (stops_cons (isVoid_of_startsValue hc) _) fuel
  rw [readItems, hvoid, hs]
  split
  · rename_i heq
    exact absurd heq (cons_ne_cons hc (by decide) _ _)
  · have hitem := hread fuel rest hfuel hrest
    rw [hs] at hitem
    split
    · rename_i hnone
      rw [hitem] at hnone
      cases hnone
    · rename_i hsome
      rw [hitem] at hsome
      cases hsome
      rfl

theorem readItems_writeInlineItems {depth : Nat} {items : List Value}
    (hplain : ∀ v ∈ items, IsPlain depth v) (hread : ∀ v ∈ items, IsReadBack depth v)
    {fuel : Nat} (hfuel : (writeInlineItems items).length + 1 < fuel) (before : List Value)
    (rest : List Char) :
    readItems fuel depth before (writeInlineItems items ++ ']' :: rest) =
      some (items.reverse ++ before, rest) := by
  have hbracket (fuel : Nat) : skipVoid fuel (']' :: rest) = ']' :: rest :=
    skipVoid_of_stops (stops_cons rfl rest) fuel
  induction items generalizing fuel before with
  | nil =>
    obtain ⟨fuel, rfl⟩ : ∃ n, fuel = n + 1 := ⟨fuel - 1, by omega⟩
    simp only [writeInlineItems, List.nil_append, readItems, hbracket]
    rfl
  | cons v items ih =>
    obtain ⟨hv, hmore⟩ := List.forall_mem_cons.mp hread
    obtain ⟨hvplain, hmoreplain⟩ := List.forall_mem_cons.mp hplain
    cases items with
    | nil =>
      simp only [writeInlineItems] at hfuel ⊢
      obtain ⟨fuel, rfl⟩ : ∃ n, fuel = n + 1 := ⟨fuel - 1, by omega⟩
      rw [readItems_item hvplain hv (by omega) before (stops_cons rfl _), hbracket]
      rfl
    | cons w items =>
      simp only [writeInlineItems, List.length_append, List.length_cons,
        List.length_nil] at hfuel
      obtain ⟨fuel, rfl⟩ : ∃ n, fuel = n + 3 := ⟨fuel - 3, by omega⟩
      have hrest := ih hmoreplain hmore (show _ < fuel + 2 by omega) (v :: before)
      simp only [writeInlineItems, List.append_assoc, List.cons_append, List.nil_append]
      rw [readItems_item hvplain hv (by omega) before (stops_cons rfl _),
        skipVoid_of_stops (stops_cons rfl _)]
      simp only [readItems_space, hrest]
      simp

theorem IsPlain.isReadBack {depth : Nat} {v : Value} (h : IsPlain depth v) :
    IsReadBack depth v := by
  induction h with
  | bool b => exact isReadBack_bool _ b
  | nat h => exact isReadBack_ofNat _ h
  | text s => exact isReadBack_text _ s
  | @list depth items hitems ih =>
    intro fuel rest hfuel hrest
    obtain ⟨fuel, rfl⟩ : ∃ n, fuel = n + 1 := ⟨fuel - 1, by omega⟩
    simp only [writeInline, List.cons_append, List.length_append, List.length_cons,
      List.length_nil] at hfuel
    have hread := readItems_writeInlineItems hitems ih (show _ < fuel by omega) [] rest
    simp only [writeInline, List.cons_append, List.append_assoc, List.nil_append, readValue]
    rw [hread]
    simp

end DnsFilter.Toml
