import DnsFilter.Data.DoubleRange
import DnsFilter.Data.Value
import DnsFilter.Text.Decimal
/-!
# JSON

Values as JSON text: a strict reader, a compact printer, and a printer that puts each member on a
line of its own.
-/
namespace DnsFilter.Json

def isSpace (c : Char) : Bool := c == ' ' || c == '\n' || c == '\t' || c == '\r'

def skip (s : List Char) : List Char := s.dropWhile isSpace

/-! ## Texts -/

def unescape? (c : Char) : Option Char :=
  match c with
  | '"' => some '"'
  | '\\' => some '\\'
  | '/' => some '/'
  | 'b' => some '\x08'
  | 'f' => some '\x0c'
  | 'n' => some '\n'
  | 'r' => some '\r'
  | 't' => some '\t'
  | _ => none

def readHex4 (s : List Char) : Option (Nat × List Char) :=
  let digits := s.take 4
  if digits.length = 4 && digits.all Text.isHexDigit then
    some (digits.foldl (fun n c => 16 * n + Text.hexVal c) 0, s.drop 4)
  else none

def readEscape (s : List Char) : Option (Nat × List Char) :=
  match s with
  | 'u' :: rest => readHex4 rest
  | c :: rest => (unescape? c).map (fun d => (d.toNat, rest))
  | [] => none

/-- Reads a text after its opening quote, up to and with its closing quote, into code points behind
those so far, the last of which comes first. The halves of a surrogate pair stay apart. -/
def readUnits : Nat → List Nat → List Char → Option (List Nat × List Char)
  | 0, _, _ => none
  | fuel + 1, units, s =>
    match s with
    | [] => none
    | '"' :: rest => some (units, rest)
    | '\\' :: rest =>
      match readEscape rest with
      | some (unit, rest) => readUnits fuel (unit :: units) rest
      | none => none
    | c :: rest => if c.toNat < 0x20 then none else readUnits fuel (c.toNat :: units) rest

def isHighHalf (n : Nat) : Bool := 0xD800 ≤ n && n < 0xDC00
def isLowHalf (n : Nat) : Bool := 0xDC00 ≤ n && n < 0xE000

/-- Joins the halves of surrogate pairs in code points, the last of which comes first, in front of a
text. A half without its partner has no character. -/
def joinHalves : List Nat → List Char → Option (List Char)
  | [], text => some text
  | [n], text => if isHighHalf n || isLowHalf n then none else some (Char.ofNat n :: text)
  | n :: m :: rest, text =>
    if isLowHalf n then
      if isHighHalf m then
        joinHalves rest (Char.ofNat (0x10000 + (m - 0xD800) * 0x400 + (n - 0xDC00)) :: text)
      else none
    else if isHighHalf n then none
    else joinHalves (m :: rest) (Char.ofNat n :: text)

def readText (fuel : Nat) (s : List Char) : Option (Option String × List Char) :=
  (readUnits fuel [] s).map (fun (units, rest) => ((joinHalves units []).map String.ofList, rest))

/-! ## Numbers -/

def takeDigits (s : List Char) : List Char × List Char :=
  (s.takeWhile Text.isDigit, s.dropWhile Text.isDigit)

def readFraction (s : List Char) : Option (List Char × List Char) :=
  match s with
  | '.' :: rest =>
    let (digits, rest) := takeDigits rest
    if digits = [] then none else some ('.' :: digits, rest)
  | _ => some ([], s)

def takeSign (s : List Char) : List Char × List Char :=
  match s with
  | '+' :: rest => (['+'], rest)
  | '-' :: rest => (['-'], rest)
  | _ => ([], s)

def readExponent (s : List Char) : Option (List Char × List Char) :=
  match s with
  | c :: rest =>
    if c = 'e' || c = 'E' then
      let (sign, rest) := takeSign rest
      let (digits, rest) := takeDigits rest
      if digits = [] then none else some (c :: (sign ++ digits), rest)
    else some ([], s)
  | [] => some ([], s)

/-- Reads a number without leading zeros. Minus zero is no integer. -/
def readNumber (s : List Char) : Option (Value × List Char) := do
  let negative := s.head? = some '-'
  let (digits, rest) := takeDigits (if negative then s.drop 1 else s)
  if digits = [] || (digits.head? = some '0' && digits ≠ ['0']) then none
  else
    let (fraction, rest) ← readFraction rest
    let (exponent, rest) ← readExponent rest
    let n := Text.decimalValue digits
    if fraction = [] && exponent = [] && !(negative && n = 0) then
      some (.integer (if negative then -(n : Int) else n), rest)
    else
      let sign := if negative then ['-'] else []
      some (.raw (String.ofList (sign ++ digits ++ fraction ++ exponent)), rest)

/-! ## Values -/

/-- A table, unless one of its keys has no text. -/
def tableOf (fields : List (Option String × Value)) : Value :=
  match fields.mapM (fun f => f.1.map (·, f.2)) with
  | some fields => .table fields
  | none => .unreadable

mutual

def readValue : Nat → List Char → Option (Value × List Char)
  | 0, _ => none
  | fuel + 1, s =>
    match skip s with
    | 'n' :: 'u' :: 'l' :: 'l' :: rest => some (.null, rest)
    | 't' :: 'r' :: 'u' :: 'e' :: rest => some (.bool true, rest)
    | 'f' :: 'a' :: 'l' :: 's' :: 'e' :: rest => some (.bool false, rest)
    | '"' :: rest => do
      let (text, after) ← readText fuel rest
      some ((text.map Value.text).getD .unreadable, after)
    | '[' :: rest =>
      match skip rest with
      | ']' :: after => some (.list [], after)
      | _ => do
        let (items, after) ← readItems fuel [] rest
        some (.list items.reverse, after)
    | '\x7b' :: rest =>
      match skip rest with
      | '\x7d' :: after => some (.table [], after)
      | _ => do
        let (fields, after) ← readFields fuel [] rest
        some (tableOf fields.reverse, after)
    | s => readNumber s

/-- Reads the items of a list that has some, up to and with its closing bracket, behind those so
far, the last of which comes first. -/
def readItems : Nat → List Value → List Char → Option (List Value × List Char)
  | 0, _, _ => none
  | fuel + 1, items, s =>
    match readValue fuel s with
    | none => none
    | some (v, s) =>
      match skip s with
      | ']' :: s => some (v :: items, s)
      | ',' :: s => readItems fuel (v :: items) s
      | _ => none

/-- Reads the fields of a table that has some, up to and with its closing brace, behind those so
far, the last of which comes first. -/
def readFields : Nat → List (Option String × Value) → List Char →
    Option (List (Option String × Value) × List Char)
  | 0, _, _ => none
  | fuel + 1, fields, s =>
    match skip s with
    | '"' :: s =>
      match readText fuel s with
      | none => none
      | some (key, s) =>
        match skip s with
        | ':' :: s =>
          match readValue fuel s with
          | none => none
          | some (v, s) =>
            match skip s with
            | '\x7d' :: s => some ((key, v) :: fields, s)
            | ',' :: s => readFields fuel ((key, v) :: fields) s
            | _ => none
        | _ => none
    | _ => none

end

/-- The value that a whole text spells. White space may stand around it. -/
def parse? (s : String) : Option Value :=
  match readValue (s.toList.length + 2) s.toList with
  | some (v, rest) => if skip rest = [] then some v else none
  | none => none

/-! ## Values that are kept before they are used -/

/-- The first digits of a number, as many as 64 bits hold, and a power of ten for the others. Of the
digits behind the point those that are left over do not count. -/
structure Scaled where
  digits : Nat := 0
  exponent : Int := 0
  isFull : Bool := false

namespace Scaled

def addWhole (n : Scaled) (c : Char) : Scaled :=
  let digits := 10 * n.digits + Text.digitVal c
  if n.isFull || Text.limit64 ≤ digits then { n with exponent := n.exponent + 1, isFull := true }
  else { n with digits }

def addFraction (n : Scaled) (c : Char) : Scaled :=
  let digits := 10 * n.digits + Text.digitVal c
  if n.isFull || Text.limit64 ≤ digits then { n with isFull := true }
  else { n with digits, exponent := n.exponent - 1 }

end Scaled

def fits (spelling : List Char) : Bool :=
  let (whole, rest) := takeDigits (spelling.dropWhile (· == '-'))
  let (fraction, rest) := takeDigits (rest.dropWhile (· == '.'))
  let (sign, digits) := takeSign (rest.drop 1)
  let power : Int := Text.decimalValue digits
  let n := fraction.foldl Scaled.addFraction { whole.foldl Scaled.addWhole {} with isFull := false }
  !DoubleRange.exceedsInSteps n.digits (n.exponent + (if sign = ['-'] then -power else power))

mutual

/-- Whether a value can be kept as it is: all texts and numbers in it are readable, and it is not
nested deeper than `levels`. -/
def canKeep (levels : Nat) : Value → Bool
  | .integer n => fits (Nat.toDigits 10 n.natAbs)
  | .raw spelling => fits spelling.toList
  | .unreadable => false
  | .list items => 0 < levels && canKeepItems (levels - 1) items
  | .table fields => 0 < levels && canKeepFields (levels - 1) fields
  | _ => true

def canKeepItems (levels : Nat) : List Value → Bool
  | [] => true
  | v :: vs => canKeep levels v && canKeepItems levels vs

def canKeepFields (levels : Nat) : List (String × Value) → Bool
  | [] => true
  | (_, v) :: fs => canKeep levels v && canKeepFields levels fs

end

/-! ## Printing -/

def hexDigit (n : Nat) : Char := (Nat.toDigits 16 n).getLastD '0'

def escapeChar (c : Char) : List Char :=
  match c with
  | '"' => ['\\', '"']
  | '\\' => ['\\', '\\']
  | '\x08' => ['\\', 'b']
  | '\x0c' => ['\\', 'f']
  | '\n' => ['\\', 'n']
  | '\r' => ['\\', 'r']
  | '\t' => ['\\', 't']
  | c =>
    if c.toNat < 0x20 then ['\\', 'u', '0', '0', hexDigit (c.toNat / 16), hexDigit (c.toNat % 16)]
    else [c]

def writeText (s : String) : List Char := '"' :: s.toList.flatMap escapeChar ++ ['"']

def writeInteger (n : Int) : List Char :=
  if n < 0 then '-' :: Nat.toDigits 10 n.natAbs else Nat.toDigits 10 n.natAbs

mutual

/-- The text of a value without white space. -/
def write : Value → List Char
  | .null => "null".toList
  | .bool true => "true".toList
  | .bool false => "false".toList
  | .integer n => writeInteger n
  | .text s => writeText s
  | .list [] => ['[', ']']
  | .list (v :: vs) => '[' :: write v ++ writeItems vs
  | .table [] => ['\x7b', '\x7d']
  | .table ((k, v) :: fs) => '\x7b' :: writeText k ++ ':' :: write v ++ writeFields fs
  | .raw s => s.toList
  | .unreadable => []

def writeItems : List Value → List Char
  | [] => [']']
  | v :: vs => ',' :: write v ++ writeItems vs

def writeFields : List (String × Value) → List Char
  | [] => ['\x7d']
  | (k, v) :: fs => ',' :: writeText k ++ ':' :: write v ++ writeFields fs

end

def compact (v : Value) : String := String.ofList (write v)

def newLine (depth : Nat) : List Char := '\n' :: List.replicate (2 * depth) ' '

mutual

def writeTall (depth : Nat) : Value → List Char
  | .list (v :: vs) =>
    '[' :: newLine (depth + 1) ++ writeTall (depth + 1) v ++ writeTallItems depth vs
  | .table ((k, v) :: fs) =>
    '\x7b' :: newLine (depth + 1) ++ writeText k ++ [':', ' '] ++ writeTall (depth + 1) v ++
      writeTallFields depth fs
  | v => write v

def writeTallItems (depth : Nat) : List Value → List Char
  | [] => newLine depth ++ [']']
  | v :: vs => ',' :: newLine (depth + 1) ++ writeTall (depth + 1) v ++ writeTallItems depth vs

def writeTallFields (depth : Nat) : List (String × Value) → List Char
  | [] => newLine depth ++ ['\x7d']
  | (k, v) :: fs =>
    ',' :: newLine (depth + 1) ++ writeText k ++ [':', ' '] ++ writeTall (depth + 1) v ++
      writeTallFields depth fs

end

def tall (v : Value) : String := String.ofList (writeTall 0 v)

end DnsFilter.Json
