import DnsFilter.Text.Ascii
/-!
# Decimal numbers

Unsigned numbers in decimal digits, bounded or not.
-/
namespace DnsFilter.Text

def decimalValue (digits : List Char) : Nat :=
  digits.foldl (fun n c => 10 * n + digitVal c) 0

/-- A non-empty run of decimal digits and nothing else. -/
def decimal? (s : List Char) : Option Nat :=
  if s ≠ [] ∧ s.all isDigit then some (decimalValue s) else none

/-- Digits after an optional plus sign, with a value below `limit`. -/
def unsigned? (limit : Nat) (s : List Char) : Option Nat :=
  let digits :=
    match s with
    | '+' :: rest => rest
    | _ => s
  (decimal? digits).filter (· < limit)

def limit16 : Nat := 65536
def limit32 : Nat := 4294967296
def limit64 : Nat := 18446744073709551616

def decimalText (n : Nat) : String := String.ofList (Nat.toDigits 10 n)

def padded (width n : Nat) : String :=
  let digits := Nat.toDigits 10 n
  String.ofList (List.replicate (width - digits.length) '0' ++ digits)

end DnsFilter.Text
