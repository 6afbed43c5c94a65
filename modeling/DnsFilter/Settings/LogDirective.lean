import DnsFilter.Regex.Plain
import DnsFilter.Text.Affix
import DnsFilter.Text.Blank
import DnsFilter.Text.Decimal
import DnsFilter.Text.Utf8
/-!
# Log directives

What selects log messages: directives between commas. A directive is a level, or a target, a span in
brackets with fields in braces, or both, with a level after an equals sign.
-/
namespace DnsFilter

inductive LogLevel
  | off | error | warn | info | debug | trace
  deriving DecidableEq, Repr

namespace LogLevel

def all : List LogLevel := [off, error, warn, info, debug, trace]

def name : LogLevel → String
  | off => "off"
  | error => "error"
  | warn => "warn"
  | info => "info"
  | debug => "debug"
  | trace => "trace"

/-- A level by its place in `all` or by its name. Nothing stands for errors. -/
def parse? (s : List Char) : Option LogLevel :=
  if s = [] then some error
  else
    match Text.unsigned? Text.limit64 s with
    | some n => all[n]?
    | none => all.find? (fun l => Text.sameIgnoringCase l.name (String.ofList s))

end LogLevel

structure LogField where
  name : List Char
  pattern : Option (List Char)
  deriving DecidableEq, Repr

structure LogDirective where
  level : LogLevel := .trace
  target : Option (List Char) := none
  span : Option (List Char) := none
  fields : List LogField := []
  deriving DecidableEq, Repr

inductive LogDirectiveError
  | shape
  | level
  | field
  deriving DecidableEq, Repr

def LogDirectiveError.message : LogDirectiveError → String
  | shape => "invalid filter directive"
  | level =>
    "error parsing level filter: expected one of " ++
      String.join (LogLevel.all.map (fun l => "\"" ++ l.name ++ "\", ")) ++ "or a number 0-5"
  | field => "invalid field filter: error building NFA"

namespace LogField

def dropSign (s : List Char) : List Char :=
  match s with
  | '+' :: rest => rest
  | '-' :: rest => rest
  | _ => s

/-- The text of a number: digits with a point and an exponent, or the name of a number that has
none. -/
def isNumber (s : List Char) : Bool :=
  let s := dropSign s
  let whole := s.takeWhile Text.isDigit
  let rest := s.dropWhile Text.isDigit
  let (places, rest) :=
    match rest with
    | '.' :: rest => (rest.takeWhile Text.isDigit, rest.dropWhile Text.isDigit)
    | _ => ([], rest)
  let isScaled :=
    match rest with
    | [] => true
    | e :: exponent => (e = 'e' || e = 'E') && (Text.decimal? (dropSign exponent)).isSome
  ((whole ≠ [] || places ≠ []) && isScaled) ||
    ["inf", "infinity", "nan"].any (fun n => Text.sameIgnoringCase n (String.ofList s))

/-- A name, with the pattern of its values after an equals sign. -/
def parse (s : List Char) : Except LogDirectiveError LogField :=
  if s = [] then .error .shape
  else
    match Text.cutAt? '=' s with
    | none => .ok ⟨s, none⟩
    | some (name, rest) =>
      let pattern := rest.takeWhile (· ≠ '=')
      if isNumber pattern || (Regex.Form.parse? pattern).isSome then .ok ⟨name, some pattern⟩
      else .error .field

end LogField

namespace LogDirective

/-- What is being read. Parts that are not over yet begin at a byte of the text. -/
inductive Stage
  | start
  | levelOrTarget (first : Nat)
  | span (first : Nat)
  | field (first : Nat)
  /-- After the fields. -/
  | fields
  /-- After the span. -/
  | selected
  | level (first : Nat)
  deriving DecidableEq, Repr

structure Reading where
  stage : Stage := .start
  found : LogDirective := {}
  /-- The bytes that were read. -/
  count : Nat := 0
  deriving Repr

def isTargetStart (c : Char) : Bool :=
  c ∈ ['-', ':', '_'] || Unicode.rangesAlphabetic.contains c.toNat ||
    match Unicode.categoryOf c.toNat with
    | .nd | .nl | .no => true
    | _ => false

def cut (text : Bytes) (first last : Nat) : List Char :=
  Utf8.decodeLossy ((text.drop first).take (last - first))

def withField (d : LogDirective) (s : List Char) : Except LogDirectiveError LogDirective := do
  let field ← LogField.parse s
  return { d with fields := d.fields ++ [field] }

/-- The stage and the directive after one more character, which `text` is cut before. -/
def step (text : Bytes) (r : Reading) (c : Char) :
    Except LogDirectiveError (Stage × LogDirective) := do
  let here := r.count
  let d := r.found
  match r.stage, c with
  | .start, '[' => return (.span (here + 1), d)
  | .start, _ => if isTargetStart c then return (.levelOrTarget here, d) else throw .shape
  | .levelOrTarget first, '=' =>
    return (.level (here + 1), { d with target := some (cut text first here) })
  | .levelOrTarget first, '[' =>
    return (.span (here + 1), { d with target := some (cut text first here) })
  | .span first, ']' => return (.selected, { d with span := some (cut text first here) })
  | .span first, '\x7b' =>
    let span := cut text first here
    return (.field (here + 1), { d with span := if span = [] then none else some span })
  | .field first, '\x7d' => return (.fields, ← withField d (cut text first here))
  | .fields, ']' => return (.selected, d)
  | .fields, _ => throw .shape
  | .selected, '=' => return (.level (here + 1), d)
  | .selected, _ => throw .shape
  | stage, _ => return (stage, d)

def take (text : Bytes) (r : Reading) (c : Char) : Except LogDirectiveError Reading := do
  let (stage, found) ← step text r c
  return ⟨stage, found, r.count + c.utf8Size⟩

def ofWord (d : LogDirective) (word : List Char) : LogDirective :=
  match LogLevel.parse? word with
  | some level => { d with level }
  | none => { d with target := some word }

/-- The directive when its text is over. After an equals sign nothing stands for every level. -/
def finish (text : Bytes) (r : Reading) : Except LogDirectiveError LogDirective :=
  match r.stage with
  | .levelOrTarget first => .ok (ofWord r.found (cut text first text.length))
  | .level first =>
    let word := cut text first text.length
    if word = [] then .ok r.found
    else
      match LogLevel.parse? word with
      | some level => .ok { r.found with level }
      | none => .error .level
  | .selected => .ok r.found
  | _ => .error .shape

/-- Reads one directive. White space around it is passed over, but the parts are cut out of the text
as if what is before it did not count. -/
def parse (s : List Char) : Except LogDirectiveError LogDirective := do
  let text := Utf8.encode s
  finish text (← (Text.trim s).foldlM (take text) {})

/-- Reads directives between commas. Nothing between commas is no directive. -/
def parseAll (text : String) : Except LogDirectiveError (List LogDirective) :=
  ((text.toList.splitOn ',').filter (· ≠ [])).mapM parse

end LogDirective
end DnsFilter
