import DnsFilter.Text.Utf8
/-!
# Form encoding

Pairs of keys and values in the query part of an address: a plus sign stands for a space, and a
percent sign with two hexadecimal digits for a byte.
-/
namespace DnsFilter.Form

def hexVal? (b : UInt8) : Option UInt8 :=
  if 0x30 ≤ b && b ≤ 0x39 then some (b - 0x30)
  else if 0x41 ≤ b && b ≤ 0x46 then some (b - 0x37)
  else if 0x61 ≤ b && b ≤ 0x66 then some (b - 0x57)
  else none

/-- A percent sign without two digits after it stands for itself. -/
def decodeBytes : Bytes → Bytes
  | 0x25 :: a :: b :: rest =>
    match hexVal? a, hexVal? b with
    | some x, some y => (16 * x + y) :: decodeBytes rest
    | _, _ => 0x25 :: decodeBytes (a :: b :: rest)
  | 0x2B :: rest => 0x20 :: decodeBytes rest
  | b :: rest => b :: decodeBytes rest
  | [] => []

def decode (s : List Char) : List Char := Utf8.decodeLossy (decodeBytes (Utf8.encode s))

/-- A piece without an equals sign is a key with an empty value. -/
def pair (piece : List Char) : List Char × List Char :=
  (decode (piece.takeWhile (· ≠ '=')), decode ((piece.dropWhile (· ≠ '=')).drop 1))

def pairs (s : List Char) : List (List Char × List Char) :=
  ((s.splitOn '&').filter (· ≠ [])).map pair

end DnsFilter.Form
