/-!
# Ranges of characters as ranges of bytes

The UTF-8 encodings of a range of characters, as sequences of byte ranges: a text is the encoding of
a member when each of its bytes lies in the range at its place in one of the sequences.
-/
namespace DnsFilter.Regex

def utf8Bytes (n : Nat) : List Nat :=
  if n < 0x80 then [n]
  else if n < 0x800 then [0xC0 + n / 64, 0x80 + n % 64]
  else if n < 0x10000 then [0xE0 + n / 4096, 0x80 + n / 64 % 64, 0x80 + n % 64]
  else [0xF0 + n / 262144, 0x80 + n / 4096 % 64, 0x80 + n / 64 % 64, 0x80 + n % 64]

/-- Where a range has to be cut in two: around surrogates, where the length of the encoding changes,
and where the bytes after a place would not run through all their values. -/
def cut? (low high : Nat) : Option (Nat × Nat) :=
  if low < 0xE000 && 0xD7FF < high then some (0xD7FF, 0xE000)
  else
    let size := [0x7F, 0x7FF, 0xFFFF].find? (fun last => low ≤ last && last < high)
    match size with
    | some last => some (last, last + 1)
    | none =>
      if high < 0x80 then none
      else
        [64, 4096, 262144].findSome? (fun m =>
          if low / m = high / m then none
          else if low % m ≠ 0 then some (low / m * m + m - 1, low / m * m + m)
          else if high % m ≠ m - 1 then some (high / m * m - 1, high / m * m)
          else none)

def byteRanges : Nat → Nat → Nat → List (List (Nat × Nat))
  | 0, _, _ => []
  | fuel + 1, low, high =>
    if high < low then []
    else
      match cut? low high with
      | some (last, next) => byteRanges fuel low last ++ byteRanges fuel next high
      | none => [(utf8Bytes low).zip (utf8Bytes high)]

def cutLimit : Nat := 64

end DnsFilter.Regex
