import DnsFilter.Regex.Expr
/-!
# Spelling plain expressions

The text of an expression as a plain pattern. Expressions that need a search of their own have none.
-/
namespace DnsFilter.Regex

/-- The characters that have a meaning of their own outside of sets. -/
def isSpecial (c : Char) : Bool := "\\.+*?()|[]\x7b\x7d^$#".toList.contains c

/-- How tightly the place binds where an expression is written. -/
inductive Binding
  | branch | part | sequenced | repeated
  deriving DecidableEq, Repr

namespace Binding

def level : Binding → Nat
  | branch => 0
  | part => 1
  | sequenced => 2
  | repeated => 3

end Binding

namespace Expr

/-- A text written behind another one, whose last character comes first. -/
def write (text : String) (done : List Char) : List Char := text.toList.reverseAux done

def spellChar (c : Char) (done : List Char) : List Char :=
  if isSpecial c then c :: '\\' :: done else c :: done

def spellFolded (fold : Bool) (body : List Char → List Char) (done : List Char) : List Char :=
  if fold then ')' :: body (write "(?i:" done) else body done

/-- Puts a group around a body, if it has to be one. -/
def enclosed (needed : Bool) (body : List Char → List Char) (done : List Char) : List Char :=
  if needed then ')' :: body (write "(?:" done) else body done

def spellCounts (low : Nat) (high : Option Nat) (done : List Char) : List Char :=
  let number (n : Nat) (done : List Char) := (Nat.toDigits 10 n).reverseAux done
  match low, high with
  | 0, some 1 => '?' :: done
  | 0, none => '*' :: done
  | 1, none => '+' :: done
  | low, none => '\x7d' :: ',' :: number low ('\x7b' :: done)
  | low, some high =>
    if low = high then '\x7d' :: number low ('\x7b' :: done)
    else '\x7d' :: number high (',' :: number low ('\x7b' :: done))

mutual

/-- Writes an expression behind a text, whose last character comes first. -/
def spell (binding : Binding) (done : List Char) : Expr → List Char
  | any true => write "(?s:.)" done
  | any false => '.' :: done
  | literal c fold => spellFolded fold (spellChar c) done
  | charSet spelled fold => spellFolded fold (spelled.reverseAux ·) done
  | anchor (.edge .textStart) => '^' :: done
  | anchor (.edge .textEnd) => '$' :: done
  | anchor (.edge .lineStart) => write "(?m:^)" done
  | anchor (.edge .lineEnd) => write "(?m:$)" done
  | seq parts => enclosed (1 < binding.level) (fun done => spellParts done parts) done
  | alt branches => enclosed (0 < binding.level) (fun done => spellBranches true done branches) done
  | group _ body => ')' :: spell .branch ('(' :: done) body
  | repeated body low high greedy =>
    enclosed (2 < binding.level) (fun done =>
      let counted := spellCounts low high (spell .repeated done body)
      if greedy then counted else '?' :: counted) done
  | _ => done

def spellParts (done : List Char) : List Expr → List Char
  | [] => done
  | e :: es => spellParts (spell .sequenced done e) es

def spellBranches (first : Bool) (done : List Char) : List Expr → List Char
  | [] => done
  | e :: es => spellBranches false (spell .part (if first then done else '|' :: done) e) es

end

def spelled (e : Expr) : List Char := (spell .branch [] e).reverse

def spelledAll (es : List Expr) : List Char := (es.foldl (spell .part) []).reverse

end Expr
end DnsFilter.Regex
