import DnsFilter.Text.Decimal
/-!
# Fixed places

Numbers that are finite and not negative, written with a fixed count of decimal places.
-/
namespace DnsFilter.Text

/-- The whole number next to a quotient. A half goes to the even neighbour. -/
def roundedQuotient (num den : Nat) : Nat :=
  let q := num / den
  let twice := 2 * (num % den)
  if den < twice ∨ (twice = den ∧ q % 2 = 1) then q + 1 else q

def exactRatio (x : Float) : Nat × Nat :=
  let bits := x.toBits.toNat
  let hidden := Nat.pow 2 52
  let exponent := bits / hidden % 2048
  let fraction := bits % hidden
  if exponent = 0 then (fraction, Nat.pow 2 1074)
  else if exponent < 1075 then (hidden + fraction, Nat.pow 2 (1075 - exponent))
  else ((hidden + fraction) * Nat.pow 2 (exponent - 1075), 1)

def fixedText (places : Nat) (x : Float) : String :=
  let (num, den) := exactRatio x
  let unit := Nat.pow 10 places
  let scaled := roundedQuotient (num * unit) den
  decimalText (scaled / unit) ++ "." ++ padded places (scaled % unit)

end DnsFilter.Text
