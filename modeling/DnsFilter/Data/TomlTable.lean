import DnsFilter.Data.Value
/-!
# Tables of a TOML document

The tables that headers and dotted keys build up. A table is defined once: by a header, by dotted
keys, or implicitly as part of a header's name.
-/
namespace DnsFilter.Toml

inductive Definition
  /-- Only named as a part of a header. -/
  | implicit
  | dotted
  | header
  deriving DecidableEq, Repr

inductive Item
  /-- A value that no header and no key can add to. -/
  | closed (v : Value)
  | table (definition : Definition) (items : List (String × Item))
  /-- An array of tables; headers and keys go to the last one. -/
  | tables (done : List (List (String × Item))) (last : List (String × Item))
  deriving Repr

abbrev Items := List (String × Item)

namespace Items

def find? (items : Items) (key : String) : Option Item := List.lookup key items

def replace (items : Items) (key : String) (item : Item) : Items :=
  items.map (fun e => if e.1 = key then (key, item) else e)

/-- Changes the table under a header's name. Tables on the way are made if they are missing. -/
def within (change : Items → Option Items) : List String → Items → Option Items
  | [], items => change items
  | key :: keys, items =>
    match items.find? key with
    | none => do return items ++ [(key, .table .implicit (← within change keys []))]
    | some (.closed _) => none
    | some (.table definition inner) => do
      return items.replace key (.table definition (← within change keys inner))
    | some (.tables done last) => do
      return items.replace key (.tables done (← within change keys last))

def define (key : String) (items : Items) : Option Items :=
  match items.find? key with
  | none => some (items ++ [(key, .table .header [])])
  | some (.table .implicit inner) => some (items.replace key (.table .header inner))
  | _ => none

def extend (key : String) (items : Items) : Option Items :=
  match items.find? key with
  | none => some (items ++ [(key, .tables [] [])])
  | some (.tables done last) => some (items.replace key (.tables (done ++ [last]) []))
  | _ => none

def add (v : Value) : List String → Items → Option Items
  | [], _ => none
  | [key], items =>
    match items.find? key with
    | none => some (items ++ [(key, .closed v)])
    | some _ => none
  | key :: next :: keys, items =>
    match items.find? key with
    | none => do return items ++ [(key, .table .dotted (← add v (next :: keys) []))]
    | some (.table definition inner) =>
      if definition = .header || (keys = [] && definition ≠ .dotted) then none
      else do return items.replace key (.table definition (← add v (next :: keys) inner))
    | some _ => none

end Items

mutual

def Item.toValue : Item → Value
  | .closed v => v
  | .table _ items => .table (fieldsOf items)
  | .tables done last => .list (rowsOf done ++ [.table (fieldsOf last)])

def fieldsOf : List (String × Item) → List (String × Value)
  | [] => []
  | (key, item) :: items => (key, item.toValue) :: fieldsOf items

def rowsOf : List (List (String × Item)) → List Value
  | [] => []
  | items :: rows => .table (fieldsOf items) :: rowsOf rows

end

end DnsFilter.Toml
