/-!
# The range of doubles

When a decimal number is too large for a binary floating-point number of 64 bits, with a precision
of 53 bits and rounding to nearest, ties to even.
-/
namespace DnsFilter.DoubleRange

/-- Numbers from here on round to infinity: the largest finite double and half of its last place. -/
def overflow : Nat := Nat.pow 2 1024 - Nat.pow 2 970

/-- The multiple of a power of two with at most 53 bits that is nearest. -/
def nearest (n : Nat) : Nat :=
  if n < Nat.pow 2 53 then n
  else
    let shift := n.log2 - 52
    let kept := n >>> shift
    let cut := n - (kept <<< shift)
    let half := Nat.pow 2 (shift - 1)
    (if half < cut || (cut = half && kept % 2 = 1) then kept + 1 else kept) <<< shift

/-- Whether `digits` times a power of ten is too large. Exponents far off are told by size. -/
def exceeds (digits : Nat) (exponent : Int) : Bool :=
  let places := (Nat.toDigits 10 digits).length + exponent
  if digits = 0 || places < 300 then false
  else if 320 < places then true
  else if 0 ≤ exponent then overflow ≤ digits * Nat.pow 10 exponent.toNat
  else overflow * Nat.pow 10 (-exponent).toNat ≤ digits

/-- The same if the digits and the power are rounded first, and their product afterwards. -/
def exceedsInSteps (digits : Nat) (exponent : Int) : Bool :=
  if digits = 0 || exponent ≤ 0 then false
  else 308 < exponent || overflow ≤ nearest digits * nearest (Nat.pow 10 exponent.toNat)

end DnsFilter.DoubleRange
