import DnsFilter.Data.Value
/-!
# Reading fields

Values read as plain data. A table gives a field once: a field that stands twice, under one of its
names or under two of them, cannot be read, and neither can a missing one that has no default. A
list may stand for a table: its items are the fields in order, as far as there are any.
-/
namespace DnsFilter.Value

def bool? : Value → Option Bool
  | bool b => some b
  | _ => none

def text? : Value → Option String
  | text s => some s
  | _ => none

/-- A whole number from 0 up to but without `limit`. -/
def nat? (limit : Nat) : Value → Option Nat
  | integer n => if 0 ≤ n && n.toNat < limit then some n.toNat else none
  | _ => none

def list? {α : Type} (read : Value → Option α) : Value → Option (List α)
  | list items => items.mapM read
  | _ => none

def nullable? {α : Type} (read : Value → Option α) : Value → Option (Option α)
  | null => some none
  | v => (read v).map some

def isNull : Value → Bool
  | null => true
  | _ => false

def isEmptyTable : Value → Bool
  | table [] => true
  | _ => false

def isEmptyList : Value → Bool
  | list [] => true
  | _ => false

/-- A name stands alone, or as the only key of a table with something under it that means nothing.
-/
def name? (isVoid : Value → Bool) : Value → Option String
  | text s => some s
  | table [(s, v)] => if isVoid v then some s else none
  | _ => none

abbrev Fields := List (String × Value)

def fields? : Value → Option Fields
  | table fields => some fields
  | _ => none

/-- The fields of a table, or of a list that gives them in the order of `names`. Items beyond them
are left out. -/
def record? (names : List String) : Value → Option Fields
  | table fields => some fields
  | list items => some (names.zip items)
  | _ => none

/-- The same, but a list must not have more items than there are names. -/
def strictRecord? (names : List String) (v : Value) : Option Fields :=
  match v with
  | list items => if items.length ≤ names.length then v.record? names else none
  | _ => v.record? names

namespace Fields

def under (fields : Fields) (names : List String) : List Value :=
  (fields.filter (fun f => names.contains f.1)).map (·.2)

def required {α : Type} (fields : Fields) (names : List String) (read : Value → Option α) :
    Option α :=
  match fields.under names with
  | [v] => read v
  | _ => none

def optional {α : Type} (fields : Fields) (names : List String) (default : α)
    (read : Value → Option α) : Option α :=
  match fields.under names with
  | [] => some default
  | [v] => read v
  | _ => none

end Fields
end DnsFilter.Value
