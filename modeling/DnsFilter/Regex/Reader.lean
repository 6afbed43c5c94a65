import DnsFilter.Regex.Expr
import DnsFilter.Regex.Bracket
import DnsFilter.Text.Affix
import DnsFilter.Text.Decimal
/-!
# Reading regular expressions

The syntax of patterns. A text that is no pattern has no expression. Sets are not read here but kept
as the plain pattern that spells them, with escapes in the form that plain patterns have.
-/
namespace DnsFilter.Regex

structure Flags where
  fold : Bool := false
  multiLine : Bool := false
  dotAll : Bool := false
  swapGreed : Bool := false
  verbose : Bool := false
  deriving Repr

structure Scan where
  rest : List Char
  flags : Flags := {}
  groups : Nat := 0
  /-- The groups that have a name, the last one first. -/
  names : List (List Char × Nat) := []
  /-- The widths of the groups that are closed, the last one first. -/
  widths : List (Nat × Width) := []
  /-- Whether a group was referred to by its number. -/
  numbered : Bool := false
  /-- Numbers of groups lie below this bound. -/
  bound : Nat

abbrev Reading (α : Type) := StateT Scan Option α

/-! ## Characters, space and comments -/

def peek? : Reading (Option Char) := do return (← get).rest.head?

def leave (rest : List Char) : Reading Unit := modify ({ · with rest })

def accept (c : Char) : Reading Bool := do
  match (← get).rest with
  | d :: rest => if d = c then leave rest; return true else return false
  | [] => return false

def acceptText (start : String) : Reading Bool := do
  match Text.afterPrefix? start.toList (← get).rest with
  | some rest => leave rest; return true
  | none => return false

def expect (c : Char) : Reading Unit := do
  if ← accept c then return () else failure

def isFoldOn : Reading Bool := do return (← get).flags.fold

inductive Blank
  | space | line | comment
  deriving DecidableEq, Repr

def isVerboseSpace (c : Char) : Bool := c == ' ' || c == '\r' || c == '\n' || c == '\t'

/-- The text after comments, and in verbose patterns after space and the rest of lines behind `#`. A
comment in parentheses has to be closed. -/
def afterBlank? (verbose : Bool) : Blank → List Char → Option (List Char)
  | .space, [] => some []
  | .line, [] => some []
  | .comment, [] => none
  | .line, c :: rest => afterBlank? verbose (if c = '\n' then .space else .line) rest
  | .comment, ')' :: rest => afterBlank? verbose .space rest
  | .comment, '\\' :: _ :: rest => afterBlank? verbose .comment rest
  | .comment, _ :: rest => afterBlank? verbose .comment rest
  | .space, '(' :: '?' :: '#' :: rest => afterBlank? verbose .comment rest
  | .space, c :: rest =>
    if verbose && c == '#' then afterBlank? verbose .line rest
    else if verbose && isVerboseSpace c then afterBlank? verbose .space rest
    else some (c :: rest)

def skipBlank : Reading Unit := do
  let s ← get
  match afterBlank? s.flags.verbose .space s.rest with
  | some rest => leave rest
  | none => failure

def readNumber? : Reading (Option Nat) := do
  let s := (← get).rest
  let digits := s.takeWhile Text.isDigit
  let n := Text.decimalValue digits
  if digits.isEmpty || Text.limit64 ≤ n then return none
  else
    leave (s.drop digits.length)
    return some n

/-! ## Repetition -/

/-- Reads the counts after an opening brace. The largest number of 64 bits is no bound. -/
def readCounts : Reading (Nat × Option Nat) := do
  skipBlank
  let low ← do
    if (← peek?) = some ',' then pure 0
    else
      match ← readNumber? with
      | some n => pure n
      | none => failure
  skipBlank
  let high ← do
    if ← accept ',' then
      skipBlank
      readNumber?
    else pure (some low)
  skipBlank
  expect '\x7d'
  return (low, high.filter (· + 1 < Text.limit64))

/-- Reads the counts of a repetition, if one stands here. A brace that begins no counts is none. -/
def readRepetition? : Reading (Option (Nat × Option Nat)) := do
  if ← accept '?' then return some (0, some 1)
  else if ← accept '*' then return some (0, none)
  else if ← accept '+' then return some (1, none)
  else
    let s ← get
    if ← accept '\x7b' then
      match (readCounts.run (← get) : Option ((Nat × Option Nat) × Scan)) with
      | some (counts, after) =>
        set after
        return some counts
      | none =>
        set s
        return none
    else return none

/-! ## Names of groups -/

def isNameChar (c : Char) : Bool :=
  c == '_' || Unicode.rangesAlphabetic.contains c.toNat ||
    [Unicode.Category.nd, .nl, .no].contains (Unicode.categoryOf c.toNat)

def readName (closing : Char) : Reading (List Char) := do
  let s := (← get).rest
  let name := s.takeWhile isNameChar
  if name.isEmpty then failure
  leave (s.drop name.length)
  expect closing
  return name

/-- Reads a distance from the groups that were opened so far. The last of them has the distance -1.
-/
def readDistance : Reading Nat := do
  let back ← accept '-'
  unless back do expect '+'
  match ← readNumber? with
  | none => failure
  | some 0 => failure
  | some n =>
    let groups := (← get).groups
    if back then
      if groups + 1 < n then failure else return groups + 1 - n
    else return groups + n

def reference (number : Nat) : Reading Expr := do
  let s ← get
  let width := ((s.widths.find? (·.1 == number)).map (·.2)).getD ⟨0, false⟩
  return .backref number s.flags.fold width

def readReference (closing : Char) (distances : Bool) : Reading Expr := do
  let s ← get
  let start := s.rest.head?
  if distances && (start = some '-' || start = some '+') then
    let number ← readDistance
    expect closing
    reference number
  else
    let name ← readName closing
    match s.names.find? (·.1 == name) with
    | some (_, n) => reference n
    | none =>
      match (Text.decimal? name).filter (· < Text.limit64) with
      | some n => reference n
      | none => failure

def readNumberedReference : Reading Expr := do
  match ← readNumber? with
  | some n =>
    if (← get).bound ≤ n then failure
    modify ({ · with numbered := true })
    reference n
  | none => failure

/-! ## Escapes -/

def withoutBlank (verbose : Bool) (s : List Char) : List Char :=
  if verbose then (afterBlank? true .space s).getD s else s

/-- Takes hexadecimal digits, at most so many, and blanks before each of them in verbose patterns.
-/
def takeHexDigits (verbose : Bool) : Nat → List Char → List Char × List Char
  | 0, s => ([], s)
  | count + 1, s =>
    match withoutBlank verbose s with
    | c :: rest =>
      if Text.isHexDigit c then
        let (digits, rest) := takeHexDigits verbose count rest
        (c :: digits, rest)
      else ([], c :: rest)
    | [] => ([], [])

def readCodePoint (count : Nat) : Reading Char := do
  let s ← get
  let verbose := s.flags.verbose
  let (plain, rest) := takeHexDigits verbose count s.rest
  let digits ← do
    if plain.length = count then
      leave rest
      pure plain
    else
      leave (withoutBlank verbose s.rest)
      expect '\x7b'
      let (digits, rest) := takeHexDigits verbose 8 (← get).rest
      if digits.isEmpty then failure
      leave (withoutBlank verbose rest)
      expect '\x7d'
      pure digits
  let n := digits.foldl (fun n c => 16 * n + Text.hexVal c) 0
  if n < 0x110000 && !(0xD800 ≤ n && n < 0xE000) then return Char.ofNat n else failure

def readPropertyText (letter : Char) : Reading (List Char) := do
  match (← get).rest with
  | '\x7b' :: rest =>
    let name := rest.takeWhile (· ≠ '\x7d')
    leave (rest.drop name.length)
    expect '\x7d'
    return '\\' :: letter :: '\x7b' :: (name ++ ['\x7d'])
  | c :: rest =>
    leave rest
    return ['\\', letter, c]
  | [] => failure

def controlOf? (c : Char) : Option Char :=
  match c with
  | 'a' => some '\x07'
  | 'f' => some '\x0c'
  | 'n' => some '\n'
  | 'r' => some '\r'
  | 't' => some '\t'
  | 'v' => some '\x0b'
  | 'e' => some '\x1b'
  | _ => none

/-- The anchor that an escaped letter stands for outside of sets. -/
def anchorOf? (c : Char) : Option Anchor :=
  match c with
  | 'A' => some (.edge .textStart)
  | 'z' => some (.edge .textEnd)
  | 'Z' => some .lastLineEnd
  | 'b' => some .wordBoundary
  | 'B' => some .notWordBoundary
  | '<' => some .wordStart
  | '>' => some .wordEnd
  | _ => none

def readBoundary : Reading Anchor := do
  let isWordChar (c : Char) := Text.isLower c || Text.isUpper c || c == '-'
  match (← get).rest with
  | '\x7b' :: rest =>
    let word := rest.takeWhile isWordChar
    if word.isEmpty && !rest.isEmpty then return .wordBoundary
    leave (rest.drop word.length)
    expect '\x7d'
    match String.ofList word with
    | "start" => return .wordStart
    | "end" => return .wordEnd
    | "start-half" => return .wordStartHalf
    | "end-half" => return .wordEndHalf
    | _ => failure
  | _ => return .wordBoundary

def classText? (c : Char) : Option (List Char) :=
  if "dDsSwW".toList.contains c then some ['\\', c]
  else if c = 'h' then some "[0-9A-Fa-f]".toList
  else if c = 'H' then some "[^0-9A-Fa-f]".toList
  else none

/-- Reads what follows a backslash and means the same in sets and outside of them. -/
def readCommonEscape (c : Char) : Reading Expr := do
  let fold ← isFoldOn
  match classText? c with
  | some text => return .charSet text fold
  | none =>
    match c with
    | 'x' => return .literal (← readCodePoint 2) fold
    | 'u' => return .literal (← readCodePoint 4) fold
    | 'U' => return .literal (← readCodePoint 8) fold
    | 'p' => return .charSet (← readPropertyText 'p') fold
    | 'P' => return .charSet (← readPropertyText 'P') fold
    | _ =>
      match controlOf? c with
      | some d => return .literal d false
      | none =>
        if Text.isLower c || Text.isUpper c then failure else return .literal c false

def readEscape : Reading Expr := do
  match (← get).rest with
  | [] => failure
  | c :: rest =>
    if Text.isDigit c then readNumberedReference
    else
      leave rest
      match anchorOf? c with
      | some .wordBoundary => return .anchor (← readBoundary)
      | some place =>
        if c = 'B' && rest.head? = some '\x7b' then failure
        return .anchor place
      | none =>
        match c with
        | 'k' =>
          if ← accept '\'' then readReference '\'' true
          else
            expect '<'
            readReference '>' true
        | 'K' => return .keepOut
        | 'G' => return .searchStart
        | 'O' => return .any true
        | _ => readCommonEscape c

def readSetEscape : Reading (List Char) := do
  match (← get).rest with
  | [] => failure
  | c :: rest =>
    if Text.isDigit c then failure
    leave rest
    let literal (c : Char) : List Char := if isMeta c then ['\\', c] else [c]
    if c = 'b' then return ['\x08']
    else if "kAzB<>KG".toList.contains c then return literal c
    else
      match ← readCommonEscape c with
      | .literal d _ => return literal d
      | .charSet text _ => return text
      | _ => failure

/-! ## Sets -/

/-- Reads the text of a set up to and with the bracket that closes it, behind the text so far, whose
last character comes first. Brackets in it stand in pairs. -/
def readSetText : Nat → Nat → List Char → Scan → Option (List Char × Scan)
  | 0, _, _, _ => none
  | fuel + 1, depth, done, s =>
    match s.rest with
    | [] => none
    | '\\' :: rest =>
      match readSetEscape.run { s with rest } with
      | some (text, s) => readSetText fuel depth (text.reverseAux done) s
      | none => none
    | '[' :: rest => readSetText fuel (depth + 1) ('[' :: done) { s with rest }
    | ']' :: rest =>
      match depth with
      | 0 => some (']' :: done, { s with rest })
      | depth + 1 => readSetText fuel depth (']' :: done) { s with rest }
    | c :: rest => readSetText fuel depth (c :: done) { s with rest }

/-- Reads a set after its opening bracket. A closing bracket that comes first is a member. The fuel
has to be more than the length of the text. -/
def readSet (fuel : Nat) : Reading Expr := do
  let start := if ← accept '^' then ['^', '['] else ['[']
  let start := if ← accept ']' then ']' :: start else start
  let s ← get
  match readSetText fuel 0 start s with
  | some (text, after) =>
    set after
    return .charSet text.reverse (← isFoldOn)
  | none => failure

/-! ## Expressions -/

def depthLimit : Nat := 64

def closeGroup : Reading Unit := do
  skipBlank
  expect ')'

def readFlags : Nat → Bool → Bool → Reading Bool
  | 0, _, _ => failure
  | fuel + 1, first, negated => do
    skipBlank
    match (← get).rest with
    | [] => failure
    | c :: rest =>
      leave rest
      let on := !negated
      match c with
      | 'i' => modify (fun s => { s with flags.fold := on })
      | 'm' => modify (fun s => { s with flags.multiLine := on })
      | 's' => modify (fun s => { s with flags.dotAll := on })
      | 'U' => modify (fun s => { s with flags.swapGreed := on })
      | 'x' => modify (fun s => { s with flags.verbose := on })
      | 'u' => if negated then failure
      | '-' => if negated then failure
      | ')' => if first then failure else return false
      | ':' => return true
      | _ => failure
      if c = '-' then
        let next := (← get).rest.head?
        if first && (next = some ')' || next = some ':') then failure
        readFlags fuel false true
      else readFlags fuel false negated

mutual

/-- Reads alternatives, behind those so far, the last of which comes first. -/
def readBranches : Nat → Nat → List Expr → Scan → Option (List Expr × Scan)
  | 0, _, _, _ => none
  | fuel + 1, depth, done, s =>
    match readPieces fuel depth [] s with
    | none => none
    | some (e, s) =>
      match s.rest with
      | '|' :: rest => readBranches fuel depth (e :: done) { s with rest }
      | _ =>
        -- A name and a number do not go together in references.
        if done.isEmpty && s.numbered && !s.names.isEmpty then none else some (e :: done, s)

/-- Reads pieces up to the end of the branch, behind those so far, the last of which comes first. -/
def readPieces : Nat → Nat → List Expr → Scan → Option (Expr × Scan)
  | 0, _, _, _ => none
  | fuel + 1, depth, done, s =>
    match skipBlank.run s with
    | none => none
    | some (_, s) =>
      match s.rest with
      | [] => some (.sequence done.reverse, s)
      | '|' :: _ => some (.sequence done.reverse, s)
      | ')' :: _ => some (.sequence done.reverse, s)
      | c :: _ =>
        if c = '+' || c = '*' || c = '?' then none
        else
          match readPiece fuel depth s with
          | none => none
          | some (e, s) => readPieces fuel depth (if e.isEmpty then done else e :: done) s

def readPiece : Nat → Nat → Reading Expr
  | 0, _ => failure
  | fuel + 1, depth => do
    let e ← readAtom fuel depth
    skipBlank
    match ← readRepetition? with
    | none => return e
    | some (low, high) =>
      unless e.isRepeatable do failure
      skipBlank
      let reluctant ← accept '?'
      let greedy := reluctant == (← get).flags.swapGreed
      let r := Expr.repeated e low high greedy
      if ← accept '+' then return .atomic r else return r

def readAtom : Nat → Nat → Reading Expr
  | 0, _ => failure
  | fuel + 1, depth => do
    let s ← get
    match s.rest with
    | [] => return .empty
    | c :: rest =>
      leave rest
      match c with
      | '.' => return .any s.flags.dotAll
      | '^' => return .anchor (.edge (if s.flags.multiLine then .lineStart else .textStart))
      | '$' => return .anchor (.edge (if s.flags.multiLine then .lineEnd else .textEnd))
      | '(' => readGroup fuel (depth + 1)
      | '[' => readSet fuel
      | '\\' => readEscape
      | c => return .literal c s.flags.fold

def readGroup : Nat → Nat → Reading Expr
  | 0, _ => failure
  | fuel + 1, depth => do
    if depthLimit ≤ depth then failure
    skipBlank
    if ← acceptText "?=" then return .ahead false (← readBody fuel depth)
    if ← acceptText "?!" then return .ahead true (← readBody fuel depth)
    if ← acceptText "?<=" then return .behind false (← readBody fuel depth)
    if ← acceptText "?<!" then return .behind true (← readBody fuel depth)
    if ← acceptText "?<" then return ← readNamedGroup fuel depth '>'
    if ← acceptText "?'" then return ← readNamedGroup fuel depth '\''
    if ← acceptText "?P<" then return ← readNamedGroup fuel depth '>'
    if ← acceptText "?P=" then return ← readReference ')' false
    if ← acceptText "?>" then return .atomic (← readBody fuel depth)
    if ← acceptText "?(" then return ← readConditional fuel depth
    if ← acceptText "?" then
      let flags := (← get).flags
      if ← readFlags fuel true false then
        let e ← readBody fuel depth
        modify ({ · with flags })
        return e
      return .empty
    readCapture fuel depth none

def readAlternatives : Nat → Nat → Reading Expr
  | 0, _ => failure
  | fuel + 1, depth => do
    match readBranches fuel depth [] (← get) with
    | none => failure
    | some (branches, s) =>
      set s
      return .alternatives branches.reverse

def readBody : Nat → Nat → Reading Expr
  | 0, _ => failure
  | fuel + 1, depth => do
    let e ← readAlternatives fuel depth
    closeGroup
    return e

def readCapture : Nat → Nat → Option (List Char) → Reading Expr
  | 0, _, _ => failure
  | fuel + 1, depth, name => do
    let number := (← get).groups + 1
    modify (fun s =>
      { s with
        groups := number
        names := (name.map (fun name => (name, number) :: s.names)).getD s.names })
    let e ← readBody fuel depth
    modify (fun s => { s with widths := (number, e.width) :: s.widths })
    return .group number e

def readNamedGroup : Nat → Nat → Char → Reading Expr
  | 0, _, _ => failure
  | fuel + 1, depth, closing => do readCapture fuel depth (some (← readName closing))

/-- Reads a conditional after its second parenthesis. A test that is a reference asks whether the
group has begun to capture. -/
def readConditional : Nat → Nat → Reading Expr
  | 0, _ => failure
  | fuel + 1, depth => do
    let test ← do
      match (← get).rest with
      | [] => failure
      | '\'' :: rest =>
        leave rest
        readReference '\'' true
      | '<' :: rest =>
        leave rest
        readReference '>' true
      | c :: _ =>
        if c = '+' || c = '-' then reference (← readDistance)
        else if Text.isDigit c then
          match ← readNumber? with
          | some n => reference n
          | none => failure
        else readAlternatives fuel depth
    closeGroup
    let isBare := (← get).rest.head? = some ')'
    let body ← readAlternatives fuel depth
    closeGroup
    let asked := match test with
      | .backref n _ _ => some n
      | _ => none
    let test := (asked.map Expr.captured).getD test
    if isBare then
      if asked.isSome then return test else failure
    match body with
    | .alt (yes :: nos) =>
      let no := Expr.alternatives nos
      if yes.isEmpty && no.isEmpty then return test else return .conditional test yes no
    | e => if e.isEmpty then return test else return .conditional test e .empty

end

/-- The expression that a text spells, without regard to case, and the number of its groups. -/
def Expr.parse? (text : List Char) : Option (Expr × Nat) :=
  let source := "(?i)".toList ++ text
  let scan : Scan :=
    { rest := source, bound := source.foldl (fun n c => n + c.utf8Size) 0 / 2 }
  match (readAlternatives (10 * source.length + 20) 0).run scan with
  | some (e, s) => if s.rest.isEmpty then some (e, s.groups) else none
  | none => none

end DnsFilter.Regex
