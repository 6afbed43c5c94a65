import DnsFilter.Regex.CharSet
import DnsFilter.Text.Ascii
import DnsFilter.Unicode.Age
import DnsFilter.Unicode.Category
import DnsFilter.Unicode.Property
import DnsFilter.Unicode.Script
import DnsFilter.Unicode.Segment
/-!
# Named character sets

The sets that a pattern can name: classes of a letter, ASCII sets, and the properties of Unicode.
-/
namespace DnsFilter.Regex.CharSet

open Unicode

def ofTable (table : Ranges) : CharSet := ofRanges table.toList

def category (members : List Category) : CharSet := ofTable (rangesOfCategories members)

def decimalDigit : CharSet := category [.nd]

def space : CharSet := ofTable rangesWhiteSpace

def word : CharSet :=
  ofList [ofTable rangesAlphabetic, category [.mn, .mc, .me, .nd, .pc], ofTable rangesJoinControl]

def hexDigit : CharSet := ofList [between '0' '9', between 'A' 'F', between 'a' 'f']

def lineFeed : CharSet := single '\n'

def notLineFeed : CharSet := complement lineFeed

def asciiNamed? (name : String) : Option CharSet :=
  let upper := between 'A' 'Z'
  let lower := between 'a' 'z'
  let digit := between '0' '9'
  match name with
  | "alnum" => some (ofList [digit, upper, lower])
  | "alpha" => some (ofList [upper, lower])
  | "ascii" => some (range 0 0x7F)
  | "blank" => some (ofList [single '\t', single ' '])
  | "cntrl" => some (ofList [range 0 0x1F, range 0x7F 0x7F])
  | "digit" => some digit
  | "graph" => some (between '!' '~')
  | "lower" => some lower
  | "print" => some (between ' ' '~')
  | "punct" =>
    some (ofList [between '!' '/', between ':' '@', between '[' '\x60', between '\x7b' '~'])
  | "space" => some (ofList [range 9 13, single ' '])
  | "upper" => some upper
  | "word" => some (ofList [digit, upper, single '_', lower])
  | "xdigit" => some hexDigit
  | _ => none

/-- A property name without case, spaces, hyphens, underscores and an `is` in front. -/
def looseName (name : List Char) : List Char :=
  let body := if Text.lower (name.take 2) = ['i', 's'] then name.drop 2 else name
  let loose := Text.lower (body.filter (fun c => c.toNat < 0x80 && !" _-".toList.contains c))
  if body.length < name.length && loose = ['c'] then ['i', 's', 'c'] else loose

def categoryNamed? (name : String) : Option CharSet :=
  match name with
  | "any" => some any
  | "assigned" => some (complement (category [.cn]))
  | "ascii" => some (range 0 0x7F)
  | _ => (categoriesNamed? name).map category

def script (number : Nat) : CharSet := ofTable (rangesOfScript number)

def scriptUse (number : Nat) : CharSet :=
  union (ofTable (rangesShared number)) (inter (script number) (ofTable rangesUnshared))

def named? (name : List Char) : Option CharSet :=
  let name := String.ofList (looseName name)
  let isProperty := !(["cf", "sc", "lc"].contains name)
  ((if isProperty then (propertyNamed? name).map ofTable else none).or (categoryNamed? name)).or
    ((scriptNamed? name).map script)

def withValue? (property value : List Char) : Option CharSet :=
  let value := String.ofList (looseName value)
  match String.ofList (looseName property) with
  | "generalcategory" | "gc" => categoryNamed? value
  | "script" | "sc" => (scriptNamed? value).map script
  | "scriptextensions" | "scx" => (scriptNamed? value).map scriptUse
  | "age" => (versionNamed? value).map (fun version => ofTable (rangesUpTo version))
  | "graphemeclusterbreak" | "gcb" => (graphemePartition.named? value).map ofTable
  | "wordbreak" | "wb" => (wordPartition.named? value).map ofTable
  | "sentencebreak" | "sb" => (sentencePartition.named? value).map ofTable
  | _ => none

end DnsFilter.Regex.CharSet
