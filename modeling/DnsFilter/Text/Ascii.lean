/-!
# ASCII letters and digits

Lower-casing and comparison that touch the letters `A` to `Z` only.
-/
namespace DnsFilter.Text

def isUpper (c : Char) : Bool := 'A' ≤ c && c ≤ 'Z'
def isLower (c : Char) : Bool := 'a' ≤ c && c ≤ 'z'
def isDigit (c : Char) : Bool := '0' ≤ c && c ≤ '9'

def isHexDigit (c : Char) : Bool :=
  isDigit c || ('a' ≤ c && c ≤ 'f') || ('A' ≤ c && c ≤ 'F')

/-- The lower-case form of an upper-case ASCII letter; any other character is kept. -/
def lowerChar (c : Char) : Char := if isUpper c then Char.ofNat (c.toNat + 32) else c

def lower (s : List Char) : List Char := s.map lowerChar
def lowered (s : String) : String := String.ofList (lower s.toList)

def sameIgnoringCase (s t : String) : Bool := lower s.toList == lower t.toList

def digitVal (c : Char) : Nat := c.toNat - '0'.toNat

def hexVal (c : Char) : Nat :=
  if isDigit c then c.toNat - '0'.toNat
  else if 'a' ≤ c && c ≤ 'f' then c.toNat - 'a'.toNat + 10
  else c.toNat - 'A'.toNat + 10

end DnsFilter.Text
