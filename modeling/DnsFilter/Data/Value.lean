/-!
# Data values

The values that settings files, log lines and answers are made of. A table keeps its fields in
order, also repeated ones.
-/
namespace DnsFilter

inductive Value
  | null
  | bool (b : Bool)
  | integer (n : Int)
  | text (s : String)
  | list (items : List Value)
  | table (fields : List (String × Value))
  /-- A number that no field takes, as it was spelled: with a fraction or an exponent, or minus
  zero. -/
  | raw (spelling : String)
  /-- A text with half of a surrogate pair, or a table with such a key. -/
  | unreadable
  deriving Inhabited, Repr

namespace Value

def ofNat (n : Nat) : Value := integer n

def texts (ss : List String) : Value := list (ss.map text)

end Value
end DnsFilter
