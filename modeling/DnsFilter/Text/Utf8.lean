/-!
# UTF-8

Encoding, strict decoding, and decoding that puts U+FFFD in the place of each maximal ill-formed
piece.
-/
namespace DnsFilter

abbrev Bytes := List UInt8

namespace Utf8

def encode (s : List Char) : Bytes := s.flatMap String.utf8EncodeChar

/-- What a first byte above 127 announces: how many bytes follow, and the bounds of the next one. -/
def announced (b : UInt8) : Option (Nat × UInt8 × UInt8) :=
  if 0xC2 ≤ b && b ≤ 0xDF then some (1, 0x80, 0xBF)
  else if b = 0xE0 then some (2, 0xA0, 0xBF)
  else if b = 0xED then some (2, 0x80, 0x9F)
  else if 0xE1 ≤ b && b ≤ 0xEF then some (2, 0x80, 0xBF)
  else if b = 0xF0 then some (3, 0x90, 0xBF)
  else if 0xF1 ≤ b && b ≤ 0xF3 then some (3, 0x80, 0xBF)
  else if b = 0xF4 then some (3, 0x80, 0x8F)
  else none

def isTail (b : UInt8) : Bool := 0x80 ≤ b && b ≤ 0xBF

/-- The bytes at the front of `rest` that continue a character with `count` bytes to come. -/
def tailBytes (count : Nat) (low high : UInt8) (rest : Bytes) : Bytes :=
  match rest with
  | b :: more => if low ≤ b && b ≤ high then b :: (more.take (count - 1)).takeWhile isTail else []
  | [] => []

def joined (lead : Nat) (tail : Bytes) : Char :=
  Char.ofNat (tail.foldl (fun n b => n * 64 + (b.toNat - 0x80)) lead)

/-- The character that starts with `b`, if it is well formed, and how many bytes of `rest` belong to
it or to the ill-formed piece in its place. -/
def next (b : UInt8) (rest : Bytes) : Option Char × Nat :=
  if b < 0x80 then (some (Char.ofNat b.toNat), 0)
  else
    match announced b with
    | none => (none, 0)
    | some (count, low, high) =>
      let tail := tailBytes count low high rest
      if tail.length = count then
        (some (joined (b.toNat % Nat.pow 2 (6 - count)) tail), count)
      else (none, tail.length)

def scan (bytes : Bytes) (acc : List (Option Char)) : List (Option Char) :=
  match bytes with
  | [] => acc.reverse
  | b :: rest => scan (rest.drop (next b rest).2) ((next b rest).1 :: acc)
termination_by bytes.length
decreasing_by simp only [List.length_drop, List.length_cons]; omega

def decodeLossy (bytes : Bytes) : List Char :=
  (scan bytes []).map (·.getD (Char.ofNat 0xFFFD))

def decode? (bytes : Bytes) : Option (List Char) :=
  let scalars := scan bytes []
  if scalars.all Option.isSome then some (scalars.filterMap id) else none

end Utf8
end DnsFilter
