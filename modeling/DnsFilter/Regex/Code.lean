import DnsFilter.Regex.Footprint
import DnsFilter.Regex.Plain
import DnsFilter.Regex.Spelling
/-!
# Search programs

The instructions for a search that can step back, and the program of an expression. Parts of an
expression that need no steps back are plain patterns, each one instruction.

A repetition of something that may take no characters keeps the place where its last round began,
and stops at a round that takes none. Look-behind goes back by the width of its body. A body without
one width is a choice of such bodies, or plain.
-/
namespace DnsFilter.Regex

inductive Instruction
  | finish
  | anyChar (lineFeeds : Bool)
  | text (cs : List Char)
  | anchor (place : Anchor)
  /-- Goes on at `first`, and at `second` after a step back. -/
  | split (first second : Nat)
  | jump (target : Nat)
  /-- Keeps the position in a slot. -/
  | save (slot : Nat)
  /-- Sets a slot to 0. -/
  | reset (slot : Nat)
  /-- Goes to the position in a slot. -/
  | restore (slot : Nat)
  /-- Begins one more round, or goes on at `next`. The slot counts rounds. -/
  | round (low : Nat) (high : Option Nat) (next : Nat) (slot : Nat) (greedy : Bool)
  /-- The same without a bound. The slot `start` keeps where the round begins. -/
  | openRound (low : Nat) (next : Nat) (slot start : Nat) (greedy : Bool)
  | back (count : Nat)
  /-- Fails, and drops the ways up to that which goes on behind this instruction. -/
  | refuse
  /-- What lies between the positions in a slot and the next one. -/
  | backref (slot : Nat) (fold : Bool)
  /-- Fails if the slot is empty. -/
  | isSaved (slot : Nat)
  | openAtomic
  | closeAtomic
  /-- The preferred match of a plain pattern. -/
  | plain (number : Nat)
  /-- A match of a plain pattern that ends here. -/
  | plainBehind (number : Nat)
  | searchStart
  deriving Repr, Inhabited

structure Code where
  instructions : Array Instruction := #[]
  /-- The plain patterns. -/
  forms : Array Form := #[]
  slots : Nat := 0

abbrev Coding (α : Type) := StateT Code Option α

namespace Coding

def here : Coding Nat := do return (← get).instructions.size

def emit (i : Instruction) : Coding Unit :=
  modify (fun c => { c with instructions := c.instructions.push i })

def newSlot : Coding Nat := do
  let slot := (← get).slots
  modify (fun c => { c with slots := c.slots + 1 })
  return slot

def put (place : Nat) (i : Instruction) : Coding Unit :=
  modify (fun c => { c with instructions := c.instructions.setIfInBounds place i })

def newForm (spelled : List Char) : Coding Nat := do
  match (Form.parse? spelled).filter (·.fits) with
  | none => failure
  | some f =>
    let number := (← get).forms.size
    modify (fun c => { c with forms := c.forms.push f })
    return number

/-- Expressions that follow one another and need no steps back. -/
def plain (es : List Expr) : Coding Unit := do
  if es.isEmpty then return ()
  match Expr.textOfAll? [] es with
  | some cs => emit (.text cs)
  | none => emit (.plain (← newForm (Expr.spelledAll es)))

def ways (greedy : Bool) (on out : Nat) : Instruction :=
  if greedy then .split on out else .split out on

def optional (greedy : Bool) (body : Coding Unit) : Coding Unit := do
  let start ← here
  emit (.split 0 0)
  body
  put start (ways greedy (start + 1) (← here))

def rounds (low : Nat) (high : Option Nat) (greedy mayBeEmpty : Bool) (body : Coding Unit) :
    Coding Unit := do
  match high with
  | none =>
    if mayBeEmpty then
      let count ← newSlot
      let last ← newSlot
      emit (.reset count)
      let start ← here
      emit (.openRound low 0 count last greedy)
      body
      emit (.jump start)
      put start (.openRound low (← here) count last greedy)
    else if low = 0 then
      let start ← here
      emit (.split 0 0)
      body
      emit (.jump start)
      put start (ways greedy (start + 1) (← here))
    else if low = 1 then
      let start ← here
      body
      emit (ways greedy start ((← here) + 1))
    else
      let count ← newSlot
      emit (.reset count)
      let start ← here
      emit (.round low none 0 count greedy)
      body
      emit (.jump start)
      put start (.round low none (← here) count greedy)
  | some high =>
    let count ← newSlot
    emit (.reset count)
    let start ← here
    emit (.round low (some high) 0 count greedy)
    body
    emit (.jump start)
    put start (.round low (some high) (← here) count greedy)

/-- A body that leaves the position as it is, or must not match. -/
def look (negated : Bool) (body : Coding Unit) : Coding Unit := do
  if negated then
    let start ← here
    emit (.split 0 0)
    body
    emit .refuse
    put start (.split (start + 1) (← here))
  else
    let slot ← newSlot
    emit (.save slot)
    body
    emit (.restore slot)

def lookedBehind (referred : List Nat) (e : Expr) (body : Coding Unit) : Coding Unit := do
  if e.width.isConstant then
    emit (.back e.width.least)
    body
  else if e.isHard referred then failure
  else emit (.plainBehind (← newForm (Expr.spelledAll [e])))

end Coding

open Coding

/-- How many expressions at the start of a list are easy and, if `constant`, of one width. -/
def easyLength (referred : List Nat) (constant : Bool) (es : List Expr) : Nat :=
  (es.takeWhile (fun e => (!constant || e.width.isConstant) && !e.isHard referred)).length

mutual

/-- The instructions of an expression. Unless it is `inHard`, an easy expression is plain as a
whole. -/
def Expr.code (referred : List Nat) (inHard : Bool) (e : Expr) : Coding Unit :=
  if !inHard && !e.isHard referred then Coding.plain [e]
  else
    match e with
    | .empty => return ()
    | .any lineFeeds => emit (.anyChar lineFeeds)
    | .literal c fold => if fold then Coding.plain [.literal c fold] else emit (.text [c])
    | .charSet spelled fold => Coding.plain [.charSet spelled fold]
    | .anchor place => emit (.anchor place)
    | .seq parts => do
      let start := easyLength referred true parts
      let rest := parts.drop start
      let last := easyLength referred inHard rest.reverse
      let middle := rest.length - last
      Coding.plain (parts.take start)
      Expr.codeOfSome referred start middle parts
      Coding.plain (rest.drop middle)
    | .alt branches => Expr.codeOfAny referred inHard [] branches
    | .group n body => do
      emit (.save (2 * n))
      body.code referred inHard
      emit (.save (2 * n + 1))
    | .repeated body low high greedy =>
      if low = 0 && high = some 1 then optional greedy (body.code referred inHard)
      else rounds low high greedy (body.width.least = 0) (body.code referred true)
    | .atomic body => do
      emit .openAtomic
      body.code referred false
      emit .closeAtomic
    | .ahead negated body => look negated (body.code referred false)
    | .behind negated (.alt branches) =>
      let e := Expr.alt branches
      if e.width.isConstant then
        look negated (lookedBehind referred e
          (if e.isHard referred then Expr.codeOfAny referred false [] branches
            else Coding.plain [e]))
      else if negated then Expr.codeOfNone referred branches
      else Expr.codeOfBehind referred [] branches
    | .behind negated body => look negated (lookedBehind referred body (body.code referred false))
    | .backref n fold _ => emit (.backref (2 * n) fold)
    | .keepOut => emit (.save 0)
    | .searchStart => emit .searchStart
    | .captured n => emit (.isSaved (2 * n))
    | .conditional test yes no => do
      let start ← here
      emit .openAtomic
      emit (.split 0 0)
      test.code referred inHard
      emit .closeAtomic
      yes.code referred inHard
      let last ← here
      emit (.jump 0)
      put (start + 1) (.split (start + 2) (← here))
      no.code referred inHard
      put last (.jump (← here))

def Expr.codeOfSome (referred : List Nat) (skipped count : Nat) : List Expr → Coding Unit
  | [] => return ()
  | e :: es =>
    match skipped, count with
    | n + 1, _ => Expr.codeOfSome referred n count es
    | 0, n + 1 => do
      e.code referred true
      Expr.codeOfSome referred 0 n es
    | 0, 0 => return ()

/-- Alternatives. The jumps at the ends of earlier ones lead behind the last. -/
def Expr.codeOfAny (referred : List Nat) (inHard : Bool) (jumps : List Nat) :
    List Expr → Coding Unit
  | [] => return ()
  | [e] => do
    e.code referred inHard
    let last ← here
    jumps.forM (fun place => put place (.jump last))
  | e :: es => do
    let start ← here
    emit (.split 0 0)
    e.code referred inHard
    let last ← here
    emit (.jump 0)
    put start (.split (start + 1) (← here))
    Expr.codeOfAny referred inHard (last :: jumps) es

def Expr.codeOfBehind (referred : List Nat) (jumps : List Nat) : List Expr → Coding Unit
  | [] => return ()
  | [e] => do
    look false (lookedBehind referred e (e.code referred false))
    let last ← here
    jumps.forM (fun place => put place (.jump last))
  | e :: es => do
    let start ← here
    emit (.split 0 0)
    look false (lookedBehind referred e (e.code referred false))
    let last ← here
    emit (.jump 0)
    put start (.split (start + 1) (← here))
    Expr.codeOfBehind referred (last :: jumps) es

def Expr.codeOfNone (referred : List Nat) : List Expr → Coding Unit
  | [] => return ()
  | e :: es => do
    look true (lookedBehind referred e (e.code referred false))
    Expr.codeOfNone referred es

end

/-- The program of an expression: it tries each position in turn, unless the expression is bound to
the start of the text. -/
def Expr.program? (referred : List Nat) (groups : Nat) (e : Expr) : Option Code :=
  let coding : Coding Unit := do
    unless e.startsAtTextStart do
      emit (.split 3 1)
      emit (.anyChar true)
      emit (.jump 0)
    emit (.save 0)
    e.code referred false
    emit (.save 1)
    emit .finish
  (coding.run { slots := 2 * (groups + 1) }).map (·.2)

end DnsFilter.Regex
