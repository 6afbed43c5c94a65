import DnsFilter.Text.Ascii
import DnsFilter.Text.Blank
/-!
# Host names

The normal form under which names are compared, the labels of a name, and well-formed host names.
-/
namespace DnsFilter.HostName

/-- The normal form. White space is trimmed before the trailing dots are, so that it stays in front of
them, and ASCII letters are put into lower case. -/
def normalForm (name : List Char) : List Char :=
  Text.lower (Text.dropEndWhile (· == '.') (Text.trim name))

def normalize (name : String) : String := String.ofList (normalForm name.toList)

def labels (name : List Char) : List (List Char) := name.splitOn '.'

def isLabelChar (c : Char) : Bool :=
  Text.isDigit c || Text.isLower c || Text.isUpper c || c == '-' || c == '_'

def isLabel (label : List Char) : Bool :=
  1 ≤ label.length && label.length ≤ 63 && label.all isLabelChar

/-- A name of two or more labels, each of 1 to 63 letters, digits, hyphens and underscores, with at
most 253 characters in all. -/
def isWellFormed (name : List Char) : Bool :=
  name.length ≤ 253 && name.contains '.' && (labels name).all isLabel

end DnsFilter.HostName
