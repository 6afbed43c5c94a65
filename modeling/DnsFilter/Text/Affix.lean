/-!
# Parts of texts

Prefixes, suffixes and infixes of lists, and cutting a list at an element.
-/
namespace DnsFilter.Text

variable {α : Type} [DecidableEq α]

def afterPrefix? (start : List α) (s : List α) : Option (List α) :=
  match start, s with
  | [], s => some s
  | _ :: _, [] => none
  | a :: start, b :: s => if a = b then afterPrefix? start s else none

def beforeSuffix? (tail : List α) (s : List α) : Option (List α) :=
  (afterPrefix? tail.reverse s.reverse).map List.reverse

def cutAt? (a : α) : List α → Option (List α × List α)
  | [] => none
  | b :: s => if b = a then some ([], s) else (cutAt? a s).map (fun p => (b :: p.1, p.2))

def cutAtLast? (a : α) (s : List α) : Option (List α × List α) :=
  (cutAt? a s.reverse).map (fun p => (p.2.reverse, p.1.reverse))

/-- Whether `part` stands somewhere in a list without a gap. -/
def isInfix (part : List α) : List α → Bool
  | [] => part.isEmpty
  | a :: s => part.isPrefixOf (a :: s) || isInfix part s

end DnsFilter.Text
