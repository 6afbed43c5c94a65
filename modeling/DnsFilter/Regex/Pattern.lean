import DnsFilter.Regex.Reader
import DnsFilter.Regex.Search
/-!
# Patterns

A pattern is searched for as a plain pattern if it is one, and else by a program.
-/
namespace DnsFilter.Regex

/-- A pattern that can be searched for. -/
inductive Pattern
  | plain (form : Form)
  | program (code : Code)

namespace Pattern

def ofExpr? (e : Expr) (groups : Nat) : Option Pattern :=
  let referred := (e.references []).eraseDups
  if referred.all (fun n => 0 < n && n ≤ groups) then
    let e := e.withoutLastAhead
    if e.isHard referred then (e.program? referred groups).map program
    else ((Form.parse? e.spelled).filter (·.fits)).map plain
  else none

/-- The pattern that a text spells, without regard to case. -/
def parse? (text : List Char) : Option Pattern :=
  (Expr.parse? text).bind (fun p => ofExpr? p.1 p.2)

def accepts (p : Pattern) (text : List Char) : Bool :=
  match p with
  | plain form =>
    let text := text.toArray
    (form.on text).before (allPositions text) != 0
  | program code => code.finds text

end Pattern
end DnsFilter.Regex
