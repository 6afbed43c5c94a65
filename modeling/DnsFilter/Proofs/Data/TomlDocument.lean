import Mathlib.Data.List.Basic
import DnsFilter.Proofs.Data.Toml
import DnsFilter.Proofs.Text.Blank
/-!
# Reading TOML documents that were written

Each line of a document changes the table that the last header named and nothing around it, so the
lines of a section fill its table in their order. A table whose plain values come before its tables,
on every level, is read back from its document.
-/
namespace DnsFilter.Toml

open Text

/-! ## Tables in their document -/

def keys (items : Items) : List String := items.map (·.1)

theorem fieldsOf_append (a b : Items) : fieldsOf (a ++ b) = fieldsOf a ++ fieldsOf b := by
  induction a with
  | nil => rfl
  | cons e a ih =>
    obtain ⟨key, item⟩ := e
    simp [fieldsOf, ih]

theorem rowsOf_append (a b : List Items) : rowsOf (a ++ b) = rowsOf a ++ rowsOf b := by
  induction a with
  | nil => rfl
  | cons items a ih => simp [rowsOf, ih]

namespace Items

theorem find?_of_notMem {items : Items} {key : String} (h : key ∉ keys items) :
    items.find? key = none := by
  rw [find?, List.lookup_eq_none_iff]
  intro e he
  simp only [bne_iff_ne, ne_eq]
  rintro rfl
  exact h (List.mem_map_of_mem he)

theorem find?_last {before : Items} {key : String} (h : key ∉ keys before) (item : Item) :
    find? (before ++ [(key, item)]) key = some item := by
  have hbefore : List.lookup key before = none := find?_of_notMem h
  simp [find?, List.lookup_append, hbefore]

theorem replace_last {before : Items} {key : String} (h : key ∉ keys before) (item new : Item) :
    replace (before ++ [(key, item)]) key new = before ++ [(key, new)] := by
  have hbefore : before.map (fun e => if e.1 = key then (key, new) else e) = before := by
    refine (List.map_congr_left fun e he => ?_).trans (List.map_id before)
    rw [if_neg]
    · rfl
    · rintro rfl
      exact h (List.mem_map_of_mem he)
  simp [replace, hbefore]

theorem within_append (change : Items → Option Items) (path more : List String) (items : Items) :
    within change (path ++ more) items = within (within change more) path items := by
  induction path generalizing items with
  | nil => rfl
  | cons key path ih => simp only [List.cons_append, within, ih]

end Items

def IsFrame (path : List String) (frame : Items → Items) : Prop :=
  ∀ change inner, Items.within change path (frame inner) = (change inner).map frame

theorem isFrame_nil : IsFrame [] id := by
  intro change inner
  simp [Items.within]

section
variable {path : List String} {frame : Items → Items} (h : IsFrame path frame) {before : Items}
  {key : String} (hkey : key ∉ keys before)
include h hkey

theorem IsFrame.table (definition : Definition) :
    IsFrame (path ++ [key])
      fun inner => frame (before ++ [(key, .table definition inner)]) := by
  intro change inner
  rw [Items.within_append, h]
  simp only [Items.within, Items.find?_last hkey, Items.replace_last hkey]
  cases change inner <;> rfl

/-- The last table of an array at the end of a table. -/
theorem IsFrame.row (done : List Items) :
    IsFrame (path ++ [key]) fun inner => frame (before ++ [(key, .tables done inner)]) := by
  intro change inner
  rw [Items.within_append, h]
  simp only [Items.within, Items.find?_last hkey, Items.replace_last hkey]
  cases change inner <;> rfl

end

/-! ## Lines -/

/-- Reading goes on behind a part of the document with another state. The fuel stays more than what
is left. -/
def Leads (r : Reading) (s : List Char) (r' : Reading) : Prop :=
  ∀ (rest : List Char) (fuel : Nat), (s ++ rest).length < fuel →
    ∃ fuel', rest.length < fuel' ∧ readDocument fuel r (s ++ rest) = readDocument fuel' r' rest

theorem Leads.nil (r : Reading) : Leads r [] r := by
  intro rest fuel hfuel
  exact ⟨fuel, hfuel, rfl⟩

theorem Leads.append {r r' r'' : Reading} {s t : List Char} (h : Leads r s r')
    (h' : Leads r' t r'') : Leads r (s ++ t) r'' := by
  intro rest fuel hfuel
  rw [List.append_assoc] at hfuel ⊢
  obtain ⟨fuel', hfuel', hs⟩ := h (t ++ rest) fuel hfuel
  obtain ⟨fuel'', hfuel'', ht⟩ := h' rest fuel' hfuel'
  exact ⟨fuel'', hfuel'', hs.trans ht⟩

def pairLine (f : String × Value) : List Char :=
  writeKey f.1 ++ ' ' :: '=' :: ' ' :: (writeInline f.2 ++ ['\n'])

theorem readKeys_writeKey (key : String) {fuel : Nat} (hfuel : (writeKey key).length ≤ fuel)
    (rest : List Char) :
    readKeys fuel (writeKey key ++ ' ' :: '=' :: rest) = some ([key], '=' :: rest) := by
  have hwrite : writeKeys [key] = writeKey key := by simp [writeKeys]
  have hread := readParts_writeKeys (List.cons_ne_nil key [])
    (show [key].length ≤ nestingLimit by simp [nestingLimit]) (hwrite ▸ hfuel)
    (stops_cons (show isBare ' ' = false from rfl) ('=' :: rest)) (stops_cons rfl rest)
  rw [hwrite] at hread
  exact hread

theorem readDocument_key {fuel : Nat} {r r' : Reading} {c : Char} (hc : startsKey c = true)
    {s rest : List Char} (h : readPair (fuel + 1) r (c :: s) = some (r', '\n' :: rest)) :
    readDocument (fuel + 1) r (c :: s) = readDocument fuel r' rest := by
  rw [readDocument, skipVoid_of_stops (stops_cons (isVoid_of_startsKey hc) s)]
  split
  · rename_i heq
    cases heq
  · rename_i heq
    exact absurd heq (cons_ne_cons hc (by decide) _ _)
  · rw [h]
    rfl

theorem leads_pair {path : List String} {frame : Items → Items} (hframe : IsFrame path frame)
    {before : Items} {key : String} (hkey : key ∉ keys before) {v : Value}
    (hplain : IsPlain nestingLimit v) :
    Leads ⟨frame before, path⟩ (pairLine (key, v)) ⟨frame (before ++ [(key, .closed v)]), path⟩ := by
  intro rest fuel hfuel
  obtain ⟨fuel, rfl⟩ : ∃ n, fuel = n + 1 := ⟨fuel - 1, by omega⟩
  simp only [pairLine, List.length_append, List.length_cons, List.length_nil] at hfuel
  obtain ⟨c, s, hs, hc⟩ := head_writeKey key
  obtain ⟨d, t, ht, hd⟩ := head_writeInline hplain
  have hkeys := readKeys_writeKey key (show _ ≤ fuel + 1 by omega)
    (' ' :: (writeInline v ++ '\n' :: rest))
  have hspace : skipSpace (' ' :: (writeInline v ++ '\n' :: rest)) =
      writeInline v ++ '\n' :: rest := by
    change skipSpace (writeInline v ++ '\n' :: rest) = _
    rw [ht]
    exact skipSpace_of_stops (stops_cons (isSpace_of_not_isVoid (isVoid_of_startsValue hd)) _)
  have hvalue := hplain.isReadBack (fuel + 1) ('\n' :: rest) (by omega) (stops_cons rfl rest)
  have hwithin := hframe (Items.add v [key]) before
  have hadd : Items.add v [key] before = some (before ++ [(key, .closed v)]) := by
    simp only [Items.add, Items.find?_of_notMem hkey]
  rw [hadd, Option.map_some] at hwithin
  have hpair : readPair (fuel + 1) ⟨frame before, path⟩
      (writeKey key ++ ' ' :: '=' :: ' ' :: (writeInline v ++ '\n' :: rest)) =
      some (⟨frame (before ++ [(key, .closed v)]), path⟩, '\n' :: rest) := by
    simp only [readPair, hkeys, afterPrefix?, Option.bind_eq_bind, Option.bind_some, if_true,
      hspace, hvalue, hwithin]
  refine ⟨fuel, by omega, ?_⟩
  simp only [pairLine, List.append_assoc, List.cons_append, List.nil_append]
  rw [hs] at hpair ⊢
  exact readDocument_key hc hpair

/-! ## Headers -/

def headerLine (name : List String) : List Char := '\n' :: '[' :: writeKeys name ++ [']', '\n']

def rowLine (name : List String) : List Char :=
  '\n' :: '[' :: '[' :: writeKeys name ++ [']', ']', '\n']

theorem head_writeKeys {names : List String} (hne : names ≠ []) :
    ∃ c s, writeKeys names = c :: s ∧ startsKey c = true := by
  cases names with
  | nil => exact absurd rfl hne
  | cons key names =>
    obtain ⟨c, s, hs, hc⟩ := head_writeKey key
    cases names with
    | nil => exact ⟨c, s, by simp [writeKeys, hs], hc⟩
    | cons next names => exact ⟨c, _, by simp [writeKeys, hs]; rfl, hc⟩

theorem readKeys_writeKeys {name : List String} (hne : name ≠ [])
    (hlimit : name.length ≤ nestingLimit) {fuel : Nat} (hfuel : (writeKeys name).length ≤ fuel)
    (rest : List Char) :
    readKeys fuel (writeKeys name ++ ']' :: rest) = some (name, ']' :: rest) :=
  readParts_writeKeys hne hlimit hfuel (stops_cons rfl rest) (stops_cons rfl rest)

theorem readHeader_table {fuel : Nat} {r : Reading} {s rest : List Char}
    (hs : s.head? ≠ some '[') {path : List String} {key : String}
    (hkeys : readKeys fuel s = some (path ++ [key], ']' :: rest)) {items : Items}
    (hwithin : r.items.within (Items.define key) path = some items) :
    readHeader fuel r s = some (⟨items, path ++ [key]⟩, rest) := by
  simp [readHeader, hs, hkeys, afterPrefix?, hwithin]

theorem readHeader_row {fuel : Nat} {r : Reading} {s rest : List Char} {path : List String}
    {key : String} (hkeys : readKeys fuel s = some (path ++ [key], ']' :: ']' :: rest))
    {items : Items} (hwithin : r.items.within (Items.extend key) path = some items) :
    readHeader fuel r ('[' :: s) = some (⟨items, path ++ [key]⟩, rest) := by
  simp [readHeader, hkeys, afterPrefix?, hwithin]

theorem readDocument_header {fuel : Nat} {r r' : Reading} {s rest : List Char}
    (h : readHeader (fuel + 1) r s = some (r', '\n' :: rest)) :
    readDocument (fuel + 2) r ('\n' :: '[' :: s) = readDocument (fuel + 1) r' rest := by
  have hvoid : skipVoid (fuel + 1) ('\n' :: '[' :: s) = '[' :: s :=
    skipVoid_of_stops (stops_cons rfl s) fuel
  rw [readDocument, hvoid]
  simp only [h, Option.bind_eq_bind, Option.bind_some]
  rfl

section
variable {path : List String} {frame : Items → Items} (hframe : IsFrame path frame)
  (hlimit : path.length < nestingLimit) (current : List String) {before after : Items}
  {key : String}
include hframe hlimit

theorem leads_header (h : Items.define key before = some after) :
    Leads ⟨frame before, current⟩ (headerLine (path ++ [key])) ⟨frame after, path ++ [key]⟩ := by
  intro rest fuel hfuel
  simp only [headerLine, List.length_append, List.length_cons, List.length_nil] at hfuel
  obtain ⟨fuel, rfl⟩ : ∃ n, fuel = n + 2 := ⟨fuel - 2, by omega⟩
  have hne : path ++ [key] ≠ [] := by simp
  obtain ⟨c, s, hs, hc⟩ := head_writeKeys hne
  have hkeys := readKeys_writeKeys hne (by simp; omega) (show _ ≤ fuel + 1 by omega)
    ('\n' :: rest)
  have hfirst : (writeKeys (path ++ [key]) ++ ']' :: '\n' :: rest).head? ≠ some '[' := by
    rw [hs]
    intro heq
    obtain rfl := Option.some.inj heq
    exact absurd hc (by decide)
  have hwithin := hframe (Items.define key) before
  rw [h, Option.map_some] at hwithin
  refine ⟨fuel + 1, by omega, ?_⟩
  simp only [headerLine, List.append_assoc, List.cons_append, List.nil_append]
  exact readDocument_header (readHeader_table hfirst hkeys hwithin)

theorem leads_row (h : Items.extend key before = some after) :
    Leads ⟨frame before, current⟩ (rowLine (path ++ [key])) ⟨frame after, path ++ [key]⟩ := by
  intro rest fuel hfuel
  simp only [rowLine, List.length_append, List.length_cons, List.length_nil] at hfuel
  obtain ⟨fuel, rfl⟩ : ∃ n, fuel = n + 2 := ⟨fuel - 2, by omega⟩
  have hne : path ++ [key] ≠ [] := by simp
  have hkeys := readKeys_writeKeys hne (by simp; omega) (show _ ≤ fuel + 1 by omega)
    (']' :: '\n' :: rest)
  have hwithin := hframe (Items.extend key) before
  rw [h, Option.map_some] at hwithin
  refine ⟨fuel + 1, by omega, ?_⟩
  simp only [rowLine, List.append_assoc, List.cons_append, List.nil_append]
  exact readDocument_header (readHeader_row hkeys hwithin)

end

/-! ## Sections -/

def IsSection (isTable : Value.Fields → Prop) (v : Value) : Prop :=
  (∃ inner, v = .table inner ∧ isTable inner) ∨
    ∃ rows, rows ≠ [] ∧ v = .list (rows.map .table) ∧ ∀ inner ∈ rows, isTable inner

/-- A table that is written in the order in which it is read: plain values, and then tables and
arrays of tables down to a depth, with keys that are all different. -/
def InOrder : Nat → Value.Fields → Prop
  | 0, fields => (fields.map (·.1)).Nodup ∧ ∀ f ∈ fields, IsPlain nestingLimit f.2
  | depth + 1, fields => (fields.map (·.1)).Nodup ∧ ∃ pairs tables, fields = pairs ++ tables ∧
      (∀ f ∈ pairs, IsPlain nestingLimit f.2) ∧ ∀ f ∈ tables, IsSection (InOrder depth) f.2

theorem IsPlain.not_fields {depth : Nat} {v : Value} (h : IsPlain depth v) :
    v.fields? = none ∧ rows? v = none := by
  cases h with
  | bool b => exact ⟨rfl, rfl⟩
  | nat _ => exact ⟨rfl, rfl⟩
  | text s => exact ⟨rfl, rfl⟩
  | @list depth items h =>
    refine ⟨rfl, ?_⟩
    cases items with
    | nil => rfl
    | cons v vs =>
      have hv : v.fields? = none := by
        cases h v List.mem_cons_self <;> rfl
      simp [rows?, hv]

theorem rows?_tables {rows : List Value.Fields} (h : rows ≠ []) :
    rows? (.list (rows.map .table)) = some rows := by
  obtain ⟨first, more, rfl⟩ := List.exists_cons_of_ne_nil h
  have hall (rows : List Value.Fields) : (rows.map Value.table).mapM Value.fields? = some rows := by
    induction rows with
    | nil => rfl
    | cons row rows ih => simp [Value.fields?, ih]
  exact hall (first :: more)

/-! ### Plain values -/

def closedItems (pairs : Value.Fields) : Items := pairs.map fun f => (f.1, .closed f.2)

theorem fieldsOf_closedItems (pairs : Value.Fields) : fieldsOf (closedItems pairs) = pairs := by
  induction pairs with
  | nil => rfl
  | cons f pairs ih => simpa [closedItems, fieldsOf, Item.toValue] using ih

theorem keys_closedItems (pairs : Value.Fields) :
    keys (closedItems pairs) = pairs.map (·.1) := by
  rw [keys, closedItems, List.map_map]
  rfl

theorem writePairs_append (a b : Value.Fields) :
    writePairs (a ++ b) = writePairs a ++ writePairs b := List.flatMap_append

theorem writePairs_plain {pairs : Value.Fields} (h : ∀ f ∈ pairs, IsPlain nestingLimit f.2) :
    writePairs pairs = pairs.flatMap pairLine := by
  apply List.flatMap_congr
  intro f hf
  obtain ⟨hfields, hrows⟩ := (h f hf).not_fields
  simp [hfields, hrows, pairLine]

theorem leads_pairs {path : List String} {frame : Items → Items} (hframe : IsFrame path frame)
    {pairs : Value.Fields} (hplain : ∀ f ∈ pairs, IsPlain nestingLimit f.2) {before : Items}
    (hkeys : (keys before ++ pairs.map (·.1)).Nodup) :
    Leads ⟨frame before, path⟩ (pairs.flatMap pairLine)
      ⟨frame (before ++ closedItems pairs), path⟩ := by
  induction pairs generalizing before with
  | nil => simpa [closedItems] using Leads.nil _
  | cons f pairs ih =>
    obtain ⟨key, v⟩ := f
    obtain ⟨hv, hmore⟩ := List.forall_mem_cons.mp hplain
    have hkey : key ∉ keys before := by
      intro hmem
      exact (List.nodup_append.mp hkeys).2.2 key hmem key (by simp) rfl
    have hafter : (keys (before ++ [(key, .closed v)]) ++ pairs.map (·.1)).Nodup := by
      simpa [keys] using hkeys
    have hrest := ih hmore hafter
    have hboth := (leads_pair hframe hkey hv).append hrest
    simpa [closedItems] using hboth

theorem writeTables_plain {pairs : Value.Fields} (h : ∀ f ∈ pairs, IsPlain nestingLimit f.2)
    (depth : Nat) (path : List String) : writeTables depth path pairs = [] := by
  cases depth with
  | zero => rfl
  | succ depth =>
    rw [writeTables, List.flatMap_eq_nil_iff]
    intro f hf
    obtain ⟨hfields, hrows⟩ := (h f hf).not_fields
    simp [hfields, hrows]

/-! ### Tables -/

def IsFilled (depth : Nat) (fields : Value.Fields) : Prop :=
  ∀ {path : List String} {frame : Items → Items}, IsFrame path frame →
    path.length + depth ≤ nestingLimit → ∃ items current, fieldsOf items = fields ∧
      Leads ⟨frame [], path⟩ (writePairs fields ++ writeTables depth path fields)
        ⟨frame items, current⟩

def IsAdded (depth : Nat) (f : String × Value) : Prop :=
  ∀ {path : List String} {frame : Items → Items} {before : Items} (current : List String),
    IsFrame path frame → path.length + depth ≤ nestingLimit → f.1 ∉ keys before →
      ∃ item current', item.toValue = f.2 ∧
        Leads ⟨frame before, current⟩ (writeTables depth path [f])
          ⟨frame (before ++ [(f.1, item)]), current'⟩

theorem writeTables_table (depth : Nat) (path : List String) (key : String)
    (inner : Value.Fields) :
    writeTables (depth + 1) path [(key, .table inner)] =
      headerLine (path ++ [key]) ++
        (writePairs inner ++ writeTables depth (path ++ [key]) inner) := by
  simp [writeTables, Value.fields?, headerLine]

theorem isAdded_table {depth : Nat} {inner : Value.Fields} (h : IsFilled depth inner)
    (key : String) : IsAdded (depth + 1) (key, .table inner) := by
  intro path frame before current hframe hlimit hkey
  have hdefine : Items.define key before = some (before ++ [(key, .table .header [])]) := by
    simp only [Items.define, Items.find?_of_notMem hkey]
  obtain ⟨items, current', hitems, hfill⟩ := h (hframe.table hkey .header) (by
    simp only [List.length_append, List.length_singleton]
    omega)
  refine ⟨.table .header items, current', by rw [Item.toValue, hitems], ?_⟩
  rw [writeTables_table]
  exact (leads_header hframe (by omega) current hdefine).append hfill

def rowLines (depth : Nat) (name : List String) (inner : Value.Fields) : List Char :=
  rowLine name ++ (writePairs inner ++ writeTables depth name inner)

theorem writeTables_rows {rows : List Value.Fields} (hne : rows ≠ []) (depth : Nat)
    (path : List String) (key : String) :
    writeTables (depth + 1) path [(key, .list (rows.map .table))] =
      rows.flatMap (rowLines depth (path ++ [key])) := by
  have hfields : (Value.list (rows.map .table)).fields? = none := rfl
  simp only [writeTables, List.flatMap_cons, List.flatMap_nil, List.append_nil, hfields,
    rows?_tables hne]
  apply List.flatMap_congr
  intro inner _
  simp [rowLines, rowLine]

section
variable {depth : Nat} {path : List String} {frame : Items → Items} (hframe : IsFrame path frame)
  (hlimit : path.length + (depth + 1) ≤ nestingLimit) {before : Items} {key : String}
  (hkey : key ∉ keys before)
include hframe hlimit hkey

theorem leads_rowLines {inner : Value.Fields} (h : IsFilled depth inner) (current : List String)
    {there : Items} {done : List Items}
    (hextend : Items.extend key there = some (before ++ [(key, .tables done [])])) :
    ∃ items current', fieldsOf items = inner ∧
      Leads ⟨frame there, current⟩ (rowLines depth (path ++ [key]) inner)
        ⟨frame (before ++ [(key, .tables done items)]), current'⟩ := by
  have hdeeper : (path ++ [key]).length + depth ≤ nestingLimit := by
    rw [List.length_append, List.length_singleton]
    omega
  obtain ⟨items, current', hitems, hfill⟩ := h (hframe.row hkey done) hdeeper
  exact ⟨items, current', hitems, (leads_row hframe (by omega) current hextend).append hfill⟩

theorem leads_rows {rows : List Value.Fields} (h : ∀ inner ∈ rows, IsFilled depth inner)
    (current : List String) (done : List Items) (last : Items) :
    ∃ item current', item.toValue =
        .list (rowsOf done ++ .table (fieldsOf last) :: rows.map .table) ∧
      Leads ⟨frame (before ++ [(key, .tables done last)]), current⟩
        (rows.flatMap (rowLines depth (path ++ [key])))
        ⟨frame (before ++ [(key, item)]), current'⟩ := by
  induction rows generalizing current done last with
  | nil => exact ⟨.tables done last, current, by simp [Item.toValue], Leads.nil _⟩
  | cons inner rows ih =>
    obtain ⟨hinner, hmore⟩ := List.forall_mem_cons.mp h
    have hextend : Items.extend key (before ++ [(key, .tables done last)]) =
        some (before ++ [(key, .tables (done ++ [last]) [])]) := by
      simp only [Items.extend, Items.find?_last hkey, Items.replace_last hkey]
    obtain ⟨items, middle, hitems, hrow⟩ :=
      leads_rowLines hframe hlimit hkey hinner current hextend
    obtain ⟨item, current', hitem, hrest⟩ := ih hmore middle (done ++ [last]) items
    refine ⟨item, current', ?_, hrow.append hrest⟩
    rw [hitem, rowsOf_append, hitems]
    simp [rowsOf]

end

theorem isAdded_rows {depth : Nat} {rows : List Value.Fields} (hne : rows ≠ [])
    (h : ∀ inner ∈ rows, IsFilled depth inner) (key : String) :
    IsAdded (depth + 1) (key, .list (rows.map .table)) := by
  intro path frame before current hframe hlimit hkey
  rw [writeTables_rows hne]
  obtain ⟨first, more, rfl⟩ := List.exists_cons_of_ne_nil hne
  obtain ⟨hfirst, hmore⟩ := List.forall_mem_cons.mp h
  have hextend : Items.extend key before = some (before ++ [(key, .tables [] [])]) := by
    simp only [Items.extend, Items.find?_of_notMem hkey]
  obtain ⟨items, middle, hitems, hrow⟩ := leads_rowLines hframe hlimit hkey hfirst current hextend
  obtain ⟨item, current', hitem, hrest⟩ := leads_rows hframe hlimit hkey hmore middle [] items
  refine ⟨item, current', ?_, hrow.append hrest⟩
  rw [hitem, hitems]
  rfl

theorem writeTables_append (depth : Nat) (path : List String) (a b : Value.Fields) :
    writeTables depth path (a ++ b) = writeTables depth path a ++ writeTables depth path b := by
  cases depth with
  | zero => rfl
  | succ depth => simp only [writeTables, List.flatMap_append]

theorem leads_tables {depth : Nat} {tables : Value.Fields} (h : ∀ f ∈ tables, IsAdded depth f)
    {path : List String} {frame : Items → Items} (hframe : IsFrame path frame)
    (hlimit : path.length + depth ≤ nestingLimit) {before : Items}
    (hkeys : (keys before ++ tables.map (·.1)).Nodup) (current : List String) :
    ∃ items current', fieldsOf items = tables ∧
      Leads ⟨frame before, current⟩ (writeTables depth path tables)
        ⟨frame (before ++ items), current'⟩ := by
  induction tables generalizing before current with
  | nil =>
    have hnothing : writeTables depth path [] = [] := by cases depth <;> rfl
    rw [hnothing]
    exact ⟨[], current, rfl, by simpa using Leads.nil _⟩
  | cons f tables ih =>
    obtain ⟨hf, hmore⟩ := List.forall_mem_cons.mp h
    have hkey : f.1 ∉ keys before := by
      intro hmem
      exact (List.nodup_append.mp hkeys).2.2 f.1 hmem f.1 (by simp) rfl
    obtain ⟨item, middle, hitem, hadd⟩ := hf current hframe hlimit hkey
    have hafter : (keys (before ++ [(f.1, item)]) ++ tables.map (·.1)).Nodup := by
      simpa [keys] using hkeys
    obtain ⟨items, current', hitems, hrest⟩ := ih hmore hafter middle
    refine ⟨(f.1, item) :: items, current', by rw [fieldsOf, hitem, hitems], ?_⟩
    rw [← List.singleton_append (l := tables), writeTables_append]
    simpa using hadd.append hrest

theorem writePairs_sections {isTable : Value.Fields → Prop} {tables : Value.Fields}
    (h : ∀ f ∈ tables, IsSection isTable f.2) : writePairs tables = [] := by
  rw [writePairs, List.flatMap_eq_nil_iff]
  intro f hf
  obtain ⟨inner, hinner, -⟩ | ⟨rows, hne, hrows, -⟩ := h f hf
  · simp [hinner, Value.fields?]
  · simp [hrows, rows?_tables hne]

theorem InOrder.isFilled {depth : Nat} {fields : Value.Fields} (h : InOrder depth fields) :
    IsFilled depth fields := by
  induction depth generalizing fields with
  | zero =>
    obtain ⟨hkeys, hplain⟩ := h
    intro path frame hframe hlimit
    have hpairs := @leads_pairs path frame hframe fields hplain [] hkeys
    refine ⟨closedItems fields, path, fieldsOf_closedItems fields, ?_⟩
    rw [writePairs_plain hplain, writeTables, List.append_nil]
    exact hpairs
  | succ depth ih =>
    obtain ⟨hkeys, pairs, tables, rfl, hplain, htables⟩ := h
    intro path frame hframe hlimit
    have hadded : ∀ f ∈ tables, IsAdded (depth + 1) f := by
      rintro ⟨key, v⟩ hf
      obtain ⟨inner, rfl, hinner⟩ | ⟨rows, hne, rfl, hrows⟩ := htables _ hf
      · exact isAdded_table (ih hinner) key
      · exact isAdded_rows hne (fun inner hinner => ih (hrows inner hinner)) key
    rw [List.map_append] at hkeys
    have hpairs := @leads_pairs path frame hframe pairs hplain [] (List.nodup_append.mp hkeys).1
    rw [← keys_closedItems pairs] at hkeys
    obtain ⟨items, current, hitems, hrest⟩ := leads_tables hadded hframe hlimit hkeys path
    refine ⟨closedItems pairs ++ items, current, ?_, ?_⟩
    · rw [fieldsOf_append, fieldsOf_closedItems, hitems]
    · have hlines : writePairs (pairs ++ tables) ++ writeTables (depth + 1) path (pairs ++ tables) =
          pairs.flatMap pairLine ++ writeTables (depth + 1) path tables := by
        rw [writePairs_append, writePairs_plain hplain, writePairs_sections htables,
          writeTables_append, writeTables_plain hplain]
        simp
      rw [hlines]
      exact hpairs.append hrest

/-! ## Whole documents -/

theorem readDocument_nil {fuel : Nat} (h : 0 < fuel) (r : Reading) :
    readDocument fuel r [] = some r := by
  obtain ⟨fuel, rfl⟩ := Nat.exists_eq_add_of_lt h
  rw [readDocument, skipVoid_of_stops (stops_nil _)]

/-- A document begins with a key or the end of a line, and not with a mark. -/
theorem stops_document {p : Char → Bool} (hline : p '\n' = false)
    (hkey : ∀ c, startsKey c = true → p c = false) (depth : Nat) (path : List String)
    (fields : Value.Fields) : Stops p (writePairs fields ++ writeTables depth path fields) := by
  apply Stops.append
  · apply stops_flatMap
    intro f _
    split_ifs
    · exact stops_nil p
    · obtain ⟨c, s, hs, hc⟩ := head_writeKey f.1
      rw [hs]
      exact stops_cons (hkey c hc) _
  · cases depth with
    | zero => exact stops_nil p
    | succ depth =>
      apply stops_flatMap
      intro f _
      split
      · exact stops_cons hline _
      · apply stops_flatMap
        intro inner _
        exact stops_cons hline _
      · exact stops_nil p

theorem afterPrefix?_of_stops {c : Char} {s : List Char} (h : Stops (· == c) s) :
    afterPrefix? [c] s = none := by
  cases s with
  | nil => rfl
  | cons d s =>
    have hd : d ≠ c := by simpa using h d rfl
    simp [afterPrefix?, Ne.symm hd]

def IsOrdered (depth : Nat) (v : Value) : Prop :=
  ∃ fields, v = .table fields ∧ InOrder depth fields

theorem isOrdered_of_plain {fields : Value.Fields} (hkeys : (fields.map (·.1)).Nodup)
    (hplain : ∀ f ∈ fields, IsPlain nestingLimit f.2) (depth : Nat) :
    IsOrdered depth (.table fields) := by
  refine ⟨fields, rfl, ?_⟩
  cases depth with
  | zero => exact ⟨hkeys, hplain⟩
  | succ depth => exact ⟨hkeys, fields, [], (List.append_nil fields).symm, hplain, by simp⟩

theorem IsOrdered.isSection {depth : Nat} {v : Value} (h : IsOrdered depth v) :
    IsSection (InOrder depth) v :=
  .inl h

theorem isSection_list {depth : Nat} {vs : List Value} (hne : vs ≠ [])
    (h : ∀ v ∈ vs, IsOrdered depth v) : IsSection (InOrder depth) (.list vs) := by
  refine .inr ⟨vs.map (fun v => v.fields?.getD []), by simpa using hne, ?_, ?_⟩
  · have hsame : (vs.map (fun v => v.fields?.getD [])).map Value.table = vs := by
      rw [List.map_map]
      refine (List.map_congr_left fun v hv => ?_).trans (List.map_id vs)
      obtain ⟨fields, rfl, -⟩ := h v hv
      rfl
    rw [hsame]
  · intro inner hinner
    obtain ⟨v, hv, rfl⟩ := List.mem_map.mp hinner
    obtain ⟨fields, rfl, hfields⟩ := h v hv
    exact hfields

/-- A list of tables may follow plain values: it is an array of tables, or an empty plain list. -/
theorem isOrdered_of_list {depth : Nat} {pairs : Value.Fields} {key : String} {vs : List Value}
    (hkeys : ((pairs ++ [(key, Value.list vs)]).map (·.1)).Nodup)
    (hplain : ∀ f ∈ pairs, IsPlain nestingLimit f.2) (h : ∀ v ∈ vs, IsOrdered depth v) :
    IsOrdered (depth + 1) (.table (pairs ++ [(key, .list vs)])) := by
  by_cases hnone : vs = []
  · subst hnone
    apply isOrdered_of_plain hkeys
    have hempty : IsPlain nestingLimit (.list []) := .list (List.forall_mem_nil _)
    rw [List.forall_mem_append, List.forall_mem_singleton]
    exact ⟨hplain, hempty⟩
  · have hlast : ∀ f ∈ [(key, Value.list vs)], IsSection (InOrder depth) f.2 :=
      List.forall_mem_singleton.mpr (isSection_list hnone h)
    exact ⟨_, rfl, hkeys, pairs, _, rfl, hplain, hlast⟩

theorem document_plain_first {isTable : Value.Fields → Prop} {tables rest : Value.Fields}
    (htables : ∀ f ∈ tables, IsSection isTable f.2) {f : String × Value}
    (hf : IsPlain nestingLimit f.2) :
    document (.table (tables ++ f :: rest)) = document (.table (f :: (tables ++ rest))) := by
  have hplain : ∀ g ∈ [f], IsPlain nestingLimit g.2 := by simpa using hf
  have hpairs : writePairs (tables ++ f :: rest) = writePairs (f :: (tables ++ rest)) := by
    rw [← List.singleton_append (l := rest), ← List.singleton_append (l := tables ++ rest)]
    simp only [writePairs_append, writePairs_sections htables, List.nil_append]
  have hlines : writeTables 8 [] (tables ++ f :: rest) =
      writeTables 8 [] (f :: (tables ++ rest)) := by
    rw [← List.singleton_append (l := rest), ← List.singleton_append (l := tables ++ rest)]
    simp only [writeTables_append, writeTables_plain hplain, List.nil_append]
  simp only [document, Value.fields?, Option.getD_some, hpairs, hlines]

theorem parse?_document {v : Value} (h : IsOrdered 8 v) : parse? (document v) = some v := by
  obtain ⟨fields, rfl, h⟩ := h
  obtain ⟨items, current, hitems, hlines⟩ := h.isFilled isFrame_nil (by decide)
  have hmark : Stops (· == Char.ofNat 0xFEFF) (writePairs fields ++ writeTables 8 [] fields) := by
    refine stops_document (by decide) ?_ 8 [] fields
    intro c hc
    rw [beq_eq_false_iff_ne]
    rintro rfl
    exact absurd hc (by decide)
  obtain ⟨fuel, hfuel, hread⟩ := hlines []
    ((writePairs fields ++ writeTables 8 [] fields).length + 2) (by simp)
  rw [List.append_nil, readDocument_nil hfuel, id_eq, id_eq] at hread
  simp only [parse?, document, Value.fields?, Option.getD_some, String.toList_ofList,
    afterPrefix?_of_stops hmark, Option.getD_none, hread, Option.map_some, hitems]

end DnsFilter.Toml
