import DnsFilter.Unicode.Age
import DnsFilter.Unicode.Category
import DnsFilter.Unicode.Property
/-!
# Quoted text

Text between double quotes in which everything that does not show is escaped: quotes, backslashes,
control characters, marks that attach to their neighbour, and characters without a glyph.
-/
namespace DnsFilter.Text

/-- A character that shows by itself: the space, or anything that is neither a control, a format,
private, unassigned, nor a separator. -/
def isPrintable (c : Char) : Bool :=
  c = ' ' || Unicode.isNew c.toNat ||
    match Unicode.categoryOf c.toNat with
    | .cc | .cf | .cs | .co | .cn | .zl | .zp | .zs => false
    | _ => true

def isSoundMark (c : Char) : Bool := c = '\uff9e' || c = '\uff9f'

def isAttached (c : Char) : Bool :=
  !isSoundMark c &&
    (Unicode.rangesGraphemeExtend.contains c.toNat || Unicode.newMarks.contains c.toNat)

/-- A character that need not be shown at all. -/
def isIgnorable (c : Char) : Bool := Unicode.rangesDefaultIgnorableCodePoint.contains c.toNat

def hexText (n : Nat) : List Char := Nat.toDigits 16 n

def codeEscape (c : Char) : List Char := "\\u\x7b".toList ++ hexText c.toNat ++ "\x7d".toList

def quotedChar (c : Char) : List Char :=
  if c = '\x00' then "\\0".toList
  else if c = '\t' then "\\t".toList
  else if c = '\r' then "\\r".toList
  else if c = '\n' then "\\n".toList
  else if c = '"' then "\\\"".toList
  else if c = '\\' then "\\\\".toList
  else if isPrintable c && !isAttached c && !isIgnorable c then [c]
  else codeEscape c

def quoted (s : String) : String :=
  String.ofList ('"' :: s.toList.flatMap quotedChar ++ ['"'])

end DnsFilter.Text
