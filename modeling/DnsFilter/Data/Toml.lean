import DnsFilter.Data.DoubleRange
import DnsFilter.Data.TomlTable
import DnsFilter.Data.Fields
import DnsFilter.Text.Affix
import DnsFilter.Text.Decimal
import DnsFilter.Time.Date
/-!
# TOML

Values as TOML documents: a reader, and a printer that writes one key a line, lists in one line and
strings in plain quotes.
-/
namespace DnsFilter.Toml

open Text

/-! ## Space and comments -/

def isSpace (c : Char) : Bool := c == ' ' || c == '\t'

def skipSpace (s : List Char) : List Char := s.dropWhile isSpace

def isVisible (c : Char) : Bool := c == '\t' || (0x20 ≤ c.toNat && c.toNat ≠ 0x7F)

def newline? (s : List Char) : Option (List Char) :=
  match s with
  | '\n' :: rest => some rest
  | '\r' :: '\n' :: rest => some rest
  | _ => none

def skipComment (s : List Char) : List Char :=
  match s with
  | '#' :: rest => rest.dropWhile isVisible
  | _ => s

def endLine? (s : List Char) : Option (List Char) :=
  match skipComment (skipSpace s) with
  | [] => some []
  | s => newline? s

def skipVoid : Nat → List Char → List Char
  | 0, s => s
  | fuel + 1, s =>
    let s := skipComment (skipSpace s)
    match newline? s with
    | some rest => skipVoid fuel rest
    | none => s

/-! ## Strings -/

def codePoint? (digits : List Char) : Option Char :=
  let n := digits.foldl (fun n c => 16 * n + hexVal c) 0
  if n < 0x110000 && !(0xD800 ≤ n && n < 0xE000) then some (Char.ofNat n) else none

def readCode (count : Nat) (s : List Char) : Option (Char × List Char) :=
  let digits := s.take count
  if digits.length = count && digits.all isHexDigit then
    (codePoint? digits).map (·, s.drop count)
  else none

def readEscape (s : List Char) : Option (Char × List Char) :=
  match s with
  | 'b' :: rest => some ('\x08', rest)
  | 't' :: rest => some ('\t', rest)
  | 'n' :: rest => some ('\n', rest)
  | 'f' :: rest => some ('\x0c', rest)
  | 'r' :: rest => some ('\r', rest)
  | 'e' :: rest => some ('\x1b', rest)
  | '"' :: rest => some ('"', rest)
  | '\\' :: rest => some ('\\', rest)
  | 'x' :: rest => readCode 2 rest
  | 'u' :: rest => readCode 4 rest
  | 'U' :: rest => readCode 8 rest
  | _ => none

/-- Reads a string of one line after its opening quote, behind the text so far, whose last character
comes first. -/
def readBasic : Nat → List Char → List Char → Option (List Char × List Char)
  | 0, _, _ => none
  | fuel + 1, text, s =>
    match s with
    | [] => none
    | '"' :: rest => some (text.reverse, rest)
    | '\\' :: rest =>
      match readEscape rest with
      | some (c, rest) => readBasic fuel (c :: text) rest
      | none => none
    | c :: rest => if isVisible c then readBasic fuel (c :: text) rest else none

def readLiteral (s : List Char) : Option (List Char × List Char) :=
  let text := s.takeWhile (fun c => c ≠ '\'' && isVisible c)
  match s.drop text.length with
  | '\'' :: rest => some (text, rest)
  | _ => none

/-- The quotes at the end of a string of several lines: three, after up to two that belong to it. -/
def closing? (quote : Char) (s : List Char) : Option (List Char × List Char) :=
  let quotes := (s.takeWhile (· == quote)).length
  if 3 ≤ quotes then
    let own := min quotes 5 - 3
    some (List.replicate own quote, s.drop (own + 3))
  else none

def afterLineBreak? (s : List Char) : Option (List Char) :=
  match newline? (skipSpace s) with
  | some rest => some (rest.dropWhile (fun c => isSpace c || c == '\n' || c == '\r'))
  | none => none

/-- Reads a string of several lines after its opening quotes, behind the text so far, whose last
character comes first. -/
def readLines (quote : Char) : Nat → List Char → List Char → Option (List Char × List Char)
  | 0, _, _ => none
  | fuel + 1, text, s =>
    match closing? quote s with
    | some (own, rest) => some (text.reverseAux own, rest)
    | none =>
      match s with
      | [] => none
      | '\\' :: rest =>
        if quote = '"' then
          match afterLineBreak? rest with
          | some rest => readLines quote fuel text rest
          | none =>
            match readEscape rest with
            | some (c, rest) => readLines quote fuel (c :: text) rest
            | none => none
        else readLines quote fuel ('\\' :: text) rest
      | c :: rest =>
        match newline? s with
        | some rest => readLines quote fuel ('\n' :: text) rest
        | none => if isVisible c then readLines quote fuel (c :: text) rest else none

def readLongText (quote : Char) (fuel : Nat) (s : List Char) : Option (List Char × List Char) :=
  readLines quote fuel [] ((newline? s).getD s)

/-! ## Keys -/

def isBare (c : Char) : Bool := isDigit c || isLower c || isUpper c || c == '-' || c == '_'

def nestingLimit : Nat := 80

def readKey (fuel : Nat) (s : List Char) : Option (String × List Char) :=
  match s with
  | '"' :: rest => (readBasic fuel [] rest).map (fun p => (String.ofList p.1, p.2))
  | '\'' :: rest => (readLiteral rest).map (fun p => (String.ofList p.1, p.2))
  | _ =>
    let name := s.takeWhile isBare
    if name = [] then none else some (String.ofList name, s.drop name.length)

/-- Reads the parts of a key between dots, at most so many, and the space after it. -/
def readParts (fuel : Nat) : Nat → List Char → Option (List String × List Char)
  | 0, _ => none
  | parts + 1, s => do
    let (key, s) ← readKey fuel (skipSpace s)
    match skipSpace s with
    | '.' :: rest =>
      let (keys, s) ← readParts fuel parts rest
      some (key :: keys, s)
    | s => some ([key], s)

def readKeys (fuel : Nat) (s : List Char) : Option (List String × List Char) :=
  readParts fuel nestingLimit s

/-! ## Numbers, dates and times -/

def digits? (isDigit : Char → Bool) (s : List Char) : Option (List Char) :=
  let parts := s.splitOn '_'
  if parts.all (fun p => p ≠ [] && p.all isDigit) then some parts.flatten else none

def isOctal (c : Char) : Bool := '0' ≤ c && c ≤ '7'
def isBinary (c : Char) : Bool := c == '0' || c == '1'

def valueIn (base : Nat) (digits : List Char) : Nat :=
  digits.foldl (fun n c => base * n + hexVal c) 0

def splitSign (s : List Char) : Option Char × List Char :=
  match s with
  | '+' :: rest => (some '+', rest)
  | '-' :: rest => (some '-', rest)
  | _ => (none, s)

def plainDigits? (s : List Char) : Option (List Char) :=
  (digits? isDigit s).filter (fun ds => ds.head? ≠ some '0' || ds.length = 1)

def integer? (s : List Char) : Option Int :=
  let n : Option Int :=
    match s with
    | '0' :: 'x' :: rest => (digits? isHexDigit rest).map (fun ds => (valueIn 16 ds : Int))
    | '0' :: 'o' :: rest => (digits? isOctal rest).map (fun ds => (valueIn 8 ds : Int))
    | '0' :: 'b' :: rest => (digits? isBinary rest).map (fun ds => (valueIn 2 ds : Int))
    | _ =>
      let (sign, body) := splitSign s
      (plainDigits? body).map (fun ds =>
        if sign = some '-' then -(decimalValue ds : Int) else decimalValue ds)
  n.filter (fun n => -(Nat.pow 2 127 : Int) ≤ n && n < (Nat.pow 2 128 : Int))

/-- Whether a number with a fraction or an exponent stands here. One that is too large is none, but
infinity is. -/
def isReal (s : List Char) : Bool :=
  let body := (splitSign s).2
  if body = "inf".toList || body = "nan".toList then true
  else
    let whole := body.takeWhile (fun c => isDigit c || c == '_')
    let rest := body.drop whole.length
    let fraction :=
      match rest with
      | '.' :: more => some (more.takeWhile (fun c => isDigit c || c == '_'))
      | _ => none
    let rest := rest.drop ((fraction.map (·.length + 1)).getD 0)
    let exponent : Option (Option Char × List Char) :=
      match rest with
      | [] => if fraction.isSome then some (none, ['0']) else none
      | mark :: more => if mark = 'e' || mark = 'E' then some (splitSign more) else none
    match plainDigits? whole, digits? isDigit (fraction.getD ['0']), exponent with
    | some whole, some fraction, some (sign, power) =>
      match digits? isDigit power with
      | some power =>
        let power : Int := decimalValue power
        !DoubleRange.exceeds (decimalValue (whole ++ fraction))
          ((if sign = some '-' then -power else power) - fraction.length)
      | none => false
    | _, _, _ => false

def twoDigits? (s : List Char) : Option Nat := if s.length = 2 then decimal? s else none

def isDate (s : List Char) : Bool :=
  match s.splitOn '-' with
  | [y, m, d] =>
    y.length = 4 &&
      match decimal? y, twoDigits? m, twoDigits? d with
      | some y, some m, some d => Date.isValid ⟨y, m, d⟩
      | _, _, _ => false
  | _ => false

def isSeconds (s : List Char) : Bool :=
  let whole := s.take 2
  (twoDigits? whole).any (· ≤ 60) &&
    match s.drop 2 with
    | [] => true
    | '.' :: fraction => (decimal? fraction).isSome
    | _ => false

def isTime (s : List Char) : Bool :=
  match s.splitOn ':' with
  | [h, m] => (twoDigits? h).any (· ≤ 23) && (twoDigits? m).any (· ≤ 59)
  | [h, m, sec] => (twoDigits? h).any (· ≤ 23) && (twoDigits? m).any (· ≤ 59) && isSeconds sec
  | _ => false

def isOffset (s : List Char) : Bool :=
  match s with
  | ['Z'] => true
  | ['z'] => true
  | sign :: rest =>
    (sign == '+' || sign == '-') &&
      match rest.splitOn ':' with
      | [h, m] => (twoDigits? h).any (· ≤ 23) && (twoDigits? m).any (· ≤ 59)
      | _ => false
  | [] => false

/-- A time of day with an offset, if there is one. -/
def isClock (s : List Char) : Bool :=
  let time := s.takeWhile (fun c => isDigit c || c == ':' || c == '.')
  let offset := s.drop time.length
  isTime time && (offset = [] || isOffset offset)

def isMoment (s : List Char) : Bool :=
  isTime s ||
    (isDate (s.take 10) &&
      match s.drop 10 with
      | [] => true
      | c :: clock => (c == 'T' || c == 't' || c == ' ') && isClock clock)

def isScalarChar (c : Char) : Bool := isBare c || c == '+' || c == '.' || c == ':'

/-- The text of a value without quotes. A date and a time may have a space between them. -/
def scalarText (s : List Char) : List Char :=
  let first := s.takeWhile isScalarChar
  match s.drop first.length with
  | ' ' :: rest =>
    if isDate first && (rest.head?.any isDigit) then first ++ ' ' :: rest.takeWhile isScalarChar
    else first
  | _ => first

/-- A date or a time is a table with this one key, which is that of no setting. -/
def momentKey : String := "(moment)"

def scalar? (text : List Char) : Option Value :=
  if text = "true".toList then some (.bool true)
  else if text = "false".toList then some (.bool false)
  else
    match integer? text with
    | some n => some (.integer n)
    | none =>
      if isMoment text then some (.table [(momentKey, .text (String.ofList text))])
      else if isReal text then some (.raw (String.ofList text))
      else none

/-! ## Values -/

def textValue (p : List Char × List Char) : Value × List Char := (.text (String.ofList p.1), p.2)

mutual

/-- Reads a value, which may hold values down to a depth. The fuel is more than the length of the
text. -/
def readValue : Nat → Nat → List Char → Option (Value × List Char)
  | 0, _, _ => none
  | fuel + 1, depth, s =>
    match s with
    | '"' :: '"' :: '"' :: rest => (readLongText '"' fuel rest).map textValue
    | '"' :: rest => (readBasic fuel [] rest).map textValue
    | '\'' :: '\'' :: '\'' :: rest => (readLongText '\'' fuel rest).map textValue
    | '\'' :: rest => (readLiteral rest).map textValue
    | '[' :: rest =>
      match depth with
      | 0 => none
      | depth + 1 => (readItems fuel depth [] rest).map (fun p => (.list p.1.reverse, p.2))
    | '\x7b' :: rest =>
      match depth with
      | 0 => none
      | depth + 1 => (readPairs fuel depth [] rest).map (fun p => (.table (fieldsOf p.1), p.2))
    | _ =>
      let text := scalarText s
      (scalar? text).map (·, s.drop text.length)

/-- Reads the items of an array up to and with its closing bracket, behind those so far, the last of
which comes first. -/
def readItems : Nat → Nat → List Value → List Char → Option (List Value × List Char)
  | 0, _, _, _ => none
  | fuel + 1, depth, items, s =>
    match skipVoid fuel s with
    | ']' :: rest => some (items, rest)
    | s =>
      match readValue fuel depth s with
      | none => none
      | some (v, s) =>
        match skipVoid fuel s with
        | ']' :: rest => some (v :: items, rest)
        | ',' :: rest => readItems fuel depth (v :: items) rest
        | _ => none

def readPairs : Nat → Nat → Items → List Char → Option (Items × List Char)
  | 0, _, _, _ => none
  | fuel + 1, depth, items, s =>
    match skipVoid fuel s with
    | '\x7d' :: rest => some (items, rest)
    | s => do
      let (keys, s) ← readKeys fuel s
      match s with
      | '=' :: rest =>
        let (v, s) ← readValue fuel depth (skipSpace rest)
        let items ← items.add v keys
        match skipVoid fuel s with
        | '\x7d' :: rest => some (items, rest)
        | ',' :: rest => readPairs fuel depth items rest
        | _ => none
      | _ => none

end

/-! ## Documents -/

structure Reading where
  items : Items
  current : List String

def readHeader (fuel : Nat) (r : Reading) (s : List Char) : Option (Reading × List Char) := do
  let isArray := s.head? = some '['
  let (keys, s) ← readKeys fuel (if isArray then s.drop 1 else s)
  let rest ← afterPrefix? (if isArray then [']', ']'] else [']']) s
  let last ← keys.getLast?
  let change := if isArray then Items.extend last else Items.define last
  let items ← r.items.within change keys.dropLast
  some (⟨items, keys⟩, rest)

def readPair (fuel : Nat) (r : Reading) (s : List Char) : Option (Reading × List Char) := do
  let (keys, s) ← readKeys fuel s
  let s ← afterPrefix? ['='] s
  let (v, s) ← readValue fuel nestingLimit (skipSpace s)
  let items ← r.items.within (Items.add v keys) r.current
  some ({ r with items }, s)

/-- Reads lines to the end of the text. The fuel is more than the length of the text. -/
def readDocument : Nat → Reading → List Char → Option Reading
  | 0, r, s => if s = [] then some r else none
  | fuel + 1, r, s =>
    match skipVoid fuel s with
    | [] => some r
    | '[' :: rest => do
      let (r, rest) ← readHeader fuel r rest
      readDocument fuel r (← endLine? rest)
    | s => do
      let (r, rest) ← readPair (fuel + 1) r s
      readDocument fuel r (← endLine? rest)

/-- The table that a document spells. A byte order mark may stand in front. -/
def parse? (text : String) : Option Value :=
  let s := text.toList
  let s := (afterPrefix? [Char.ofNat 0xFEFF] s).getD s
  (readDocument (s.length + 2) ⟨[], []⟩ s).map (fun r => .table (fieldsOf r.items))

/-! ## Printing -/

def escapeChar (c : Char) : List Char :=
  match c with
  | '"' => ['\\', '"']
  | '\\' => ['\\', '\\']
  | c =>
    if isVisible c then [c]
    else
      let digits := Nat.toDigits 16 c.toNat
      ['\\', 'u'] ++ List.replicate (4 - digits.length) '0' ++ digits

def writeText (s : String) : List Char := '"' :: s.toList.flatMap escapeChar ++ ['"']

def writeKey (key : String) : List Char :=
  if key ≠ "" && key.toList.all isBare then key.toList else writeText key

def writeKeys (keys : List String) : List Char := ((keys.map writeKey).intersperse ['.']).flatten

mutual

def writeInline : Value → List Char
  | .null => []
  | .bool true => "true".toList
  | .bool false => "false".toList
  | .integer n => (toString n).toList
  | .text s => writeText s
  | .list items => '[' :: writeInlineItems items ++ [']']
  | .table fields => '\x7b' :: writeInlineFields fields ++ ['\x7d']
  | .raw s => s.toList
  | .unreadable => []

def writeInlineItems : List Value → List Char
  | [] => []
  | [v] => writeInline v
  | v :: vs => writeInline v ++ [',', ' '] ++ writeInlineItems vs

def writeInlineFields : List (String × Value) → List Char
  | [] => []
  | [(k, v)] => writeKey k ++ " = ".toList ++ writeInline v
  | (k, v) :: fs =>
    writeKey k ++ " = ".toList ++ writeInline v ++ [',', ' '] ++ writeInlineFields fs

end

def rows? : Value → Option (List Value.Fields)
  | .list (v :: vs) => (v :: vs).mapM Value.fields?
  | _ => none

def writePairs (fields : Value.Fields) : List Char :=
  fields.flatMap (fun f =>
    if f.2.fields?.isSome || (rows? f.2).isSome then []
    else writeKey f.1 ++ " = ".toList ++ writeInline f.2 ++ ['\n'])

def writeTables : Nat → List String → Value.Fields → List Char
  | 0, _, _ => []
  | depth + 1, path, fields =>
    fields.flatMap (fun f =>
      let name := path ++ [f.1]
      match f.2.fields?, rows? f.2 with
      | some inner, _ =>
        '\n' :: '[' :: writeKeys name ++ [']', '\n'] ++ writePairs inner ++
          writeTables depth name inner
      | none, some rows =>
        rows.flatMap (fun inner =>
          "\n[[".toList ++ writeKeys name ++ "]]\n".toList ++ writePairs inner ++
            writeTables depth name inner)
      | none, none => [])

/-- The document of a table. Tables nest to a depth of eight at most. -/
def document (v : Value) : String :=
  let fields := v.fields?.getD []
  String.ofList (writePairs fields ++ writeTables 8 [] fields)

end DnsFilter.Toml
