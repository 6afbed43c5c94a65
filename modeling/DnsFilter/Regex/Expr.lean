import DnsFilter.Regex.Form
/-!
# Regular expressions

Expressions with captures, look-around, back references, atomic groups and conditionals, and the
measures by which they are searched for: how many characters they take, and which of them need a
search that can step back.
-/
namespace DnsFilter.Regex

inductive Anchor
  | edge (place : Edge)
  /-- The end of the text, or before the line feeds that end it. -/
  | lastLineEnd
  | wordBoundary
  | notWordBoundary
  | wordStart
  | wordEnd
  /-- No word before. -/
  | wordStartHalf
  /-- No word behind. -/
  | wordEndHalf
  deriving DecidableEq, Repr

/-- How many characters an expression takes: no fewer than `least`, and always as many if constant.
-/
structure Width where
  least : Nat
  isConstant : Bool
  deriving DecidableEq, Repr

inductive Expr
  | empty
  | any (lineFeeds : Bool)
  | literal (c : Char) (fold : Bool)
  /-- A set as a plain pattern spells it. -/
  | charSet (spelled : List Char) (fold : Bool)
  | anchor (place : Anchor)
  | seq (parts : List Expr)
  | alt (branches : List Expr)
  | group (number : Nat) (body : Expr)
  | repeated (body : Expr) (low : Nat) (high : Option Nat) (greedy : Bool)
  | atomic (body : Expr)
  | ahead (negated : Bool) (body : Expr)
  | behind (negated : Bool) (body : Expr)
  /-- What a group captured, and the width of that group if it was closed before. -/
  | backref (number : Nat) (fold : Bool) (width : Width)
  /-- The match begins here. -/
  | keepOut
  /-- The place where the search began. -/
  | searchStart
  /-- Nothing, if the group has begun to capture. -/
  | captured (number : Nat)
  | conditional (test yes no : Expr)
  deriving Repr

namespace Expr

def isEmpty : Expr → Bool
  | empty => true
  | _ => false

def isRepeatable : Expr → Bool
  | empty => false
  | ahead _ _ => false
  | behind _ _ => false
  | _ => true

def sequence : List Expr → Expr
  | [] => empty
  | [e] => e
  | es => seq es

def alternatives : List Expr → Expr
  | [] => empty
  | [e] => e
  | es => alt es

mutual

def references (found : List Nat) : Expr → List Nat
  | seq parts => referencesOfAll found parts
  | alt branches => referencesOfAll found branches
  | group _ a => references found a
  | repeated a _ _ _ => references found a
  | atomic a => references found a
  | ahead _ a => references found a
  | behind _ a => references found a
  | backref n _ _ => n :: found
  | captured n => n :: found
  | conditional a b c => references (references (references found a) b) c
  | _ => found

def referencesOfAll (found : List Nat) : List Expr → List Nat
  | [] => found
  | e :: es => referencesOfAll (references found e) es

end

mutual

def width : Expr → Width
  | any _ => ⟨1, true⟩
  | literal _ _ => ⟨1, true⟩
  | charSet _ _ => ⟨1, true⟩
  | seq parts => widthOfAll ⟨0, true⟩ parts
  | alt branches => widthOfAny none branches
  | group _ a => a.width
  | repeated a low high _ =>
    let w := a.width
    ⟨w.least * low, w.isConstant && high == some low⟩
  | atomic a => a.width
  | backref _ _ w => w
  | conditional a b c =>
    let test := a.width
    let yes := b.width
    let no := c.width
    ⟨test.least + min yes.least no.least,
      test.isConstant && yes.isConstant && no.isConstant && test.least + yes.least == no.least⟩
  | _ => ⟨0, true⟩

def widthOfAll (sum : Width) : List Expr → Width
  | [] => sum
  | e :: es =>
    let w := e.width
    widthOfAll ⟨sum.least + w.least, sum.isConstant && w.isConstant⟩ es

def widthOfAny (common : Option Width) : List Expr → Width
  | [] => common.getD ⟨0, true⟩
  | e :: es =>
    let w := e.width
    match common with
    | none => widthOfAny (some w) es
    | some v =>
      widthOfAny (some ⟨min v.least w.least, v.isConstant && w.isConstant && v.least == w.least⟩) es

end

def needsContext : Anchor → Bool
  | .edge _ => false
  | _ => true

mutual

def isHard (referred : List Nat) : Expr → Bool
  | empty => false
  | any _ => false
  | literal _ _ => false
  | charSet _ _ => false
  | anchor place => needsContext place
  | seq parts => areHard referred parts
  | alt branches => areHard referred branches
  | group n a => referred.contains n || a.isHard referred
  | repeated a _ _ _ => a.isHard referred
  | _ => true

def areHard (referred : List Nat) : List Expr → Bool
  | [] => false
  | e :: es => e.isHard referred || areHard referred es

end

mutual

/-- The text of an expression that spells itself only. -/
def text? : Expr → Option (List Char)
  | literal c false => some [c]
  | seq parts => textOfAll? [] parts
  | _ => none

def textOfAll? (before : List Char) : List Expr → Option (List Char)
  | [] => some before.reverse
  | e :: es =>
    match e.text? with
    | some text => textOfAll? (text.reverseAux before) es
    | none => none

end

/-- An expression that ends in look-ahead. What is looked at is matched behind the rest, which is
then a group of its own, so that no look-around is left. -/
def withoutLastAhead : Expr → Expr
  | seq parts =>
    match parts.reverse with
    | ahead false body :: before => seq [group 0 (seq before.reverse), body]
    | _ => seq parts
  | e => e

def startsAtTextStart : Expr → Bool
  | anchor (.edge .textStart) => true
  | seq (anchor (.edge .textStart) :: _) => true
  | _ => false

end Expr
end DnsFilter.Regex
