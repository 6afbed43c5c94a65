import DnsFilter.Text.Decimal
/-!
# IP addresses

Addresses of both families, their textual forms, and the reading of those forms. A part of a dotted
address has no leading zero; the longest run of two or more zero groups is compressed, the first one
of equally long runs; an address that maps an IPv4 address is written with that address at its end.
-/
namespace DnsFilter

structure Ipv4 where
  a : UInt8
  b : UInt8
  c : UInt8
  d : UInt8
  deriving DecidableEq, Repr, Hashable

structure Ipv6 where
  groups : Vector UInt16 8
  deriving DecidableEq, Repr

instance : Hashable Ipv6 := ⟨fun a => hash a.groups.toList⟩

inductive IpAddress
  | v4 (address : Ipv4)
  | v6 (address : Ipv6)
  deriving DecidableEq, Repr, Hashable

namespace IpAddress

def Ipv4.text (x : Ipv4) : List Char :=
  Nat.toDigits 10 x.a.toNat ++ '.' :: Nat.toDigits 10 x.b.toNat ++
    '.' :: Nat.toDigits 10 x.c.toNat ++ '.' :: Nat.toDigits 10 x.d.toNat

def groupText (g : UInt16) : List Char := Nat.toDigits 16 g.toNat

def joinGroups (gs : List UInt16) : List Char :=
  (gs.map groupText).intersperse [':'] |>.flatten

def zerosAt (gs : List UInt16) : Nat := (gs.takeWhile (· == 0)).length

def longestZeros (gs : List UInt16) : Nat × Nat :=
  (List.range gs.length).foldl (fun best i =>
    let n := zerosAt (gs.drop i)
    if best.2 < n then (i, n) else best) (0, 0)

def Ipv6.mapped? (x : Ipv6) : Option Ipv4 :=
  match x.groups.toList with
  | [0, 0, 0, 0, 0, 0xffff, h, l] =>
    some ⟨(h / 256).toUInt8, h.toUInt8, (l / 256).toUInt8, l.toUInt8⟩
  | _ => none

def Ipv6.text (x : Ipv6) : List Char :=
  match Ipv6.mapped? x with
  | some y => "::ffff:".toList ++ Ipv4.text y
  | none =>
    let gs := x.groups.toList
    let (start, count) := longestZeros gs
    if count < 2 then joinGroups gs
    else joinGroups (gs.take start) ++ [':', ':'] ++ joinGroups (gs.drop (start + count))

def text : IpAddress → String
  | v4 x => String.ofList (Ipv4.text x)
  | v6 x => String.ofList (Ipv6.text x)

/-- Reads one decimal part of a dotted address: one to three digits without a leading zero. -/
def readPart (s : List Char) : Option (UInt8 × List Char) :=
  let digits := s.takeWhile Text.isDigit
  let n := Text.decimalValue digits
  if digits = [] || 3 < digits.length || (digits.head? = some '0' && 1 < digits.length) || 255 < n
  then none
  else some (UInt8.ofNat n, s.drop digits.length)

def readChar (c : Char) (s : List Char) : Option (List Char) :=
  match s with
  | d :: rest => if d = c then some rest else none
  | [] => none

def readV4 (s : List Char) : Option (Ipv4 × List Char) := do
  let (a, s) ← readPart s
  let s ← readChar '.' s
  let (b, s) ← readPart s
  let s ← readChar '.' s
  let (c, s) ← readPart s
  let s ← readChar '.' s
  let (d, s) ← readPart s
  some (⟨a, b, c, d⟩, s)

def readGroup (s : List Char) : Option (UInt16 × List Char) :=
  let digits := s.takeWhile Text.isHexDigit
  if digits = [] || 4 < digits.length then none
  else
    some (UInt16.ofNat (digits.foldl (fun n c => 16 * n + Text.hexVal c) 0), s.drop digits.length)

structure Groups where
  groups : List UInt16
  /-- Whether the last two groups were written as a dotted address. -/
  dotted : Bool
  rest : List Char

/-- Reads at most `limit` groups with colons between them. A dotted address may stand in the place
of the last two. -/
def readGroups (first : Bool) : Nat → List Char → Groups
  | 0, s => ⟨[], false, s⟩
  | limit + 1, s =>
    match if first then some s else readChar ':' s with
    | none => ⟨[], false, s⟩
    | some body =>
      match if 0 < limit then readV4 body else none with
      | some (x, rest) =>
        ⟨[UInt16.ofNat (x.a.toNat * 256 + x.b.toNat), UInt16.ofNat (x.c.toNat * 256 + x.d.toNat)],
          true, rest⟩
      | none =>
        match readGroup body with
        | none => ⟨[], false, s⟩
        | some (g, rest) =>
          let more := readGroups false limit rest
          { more with groups := g :: more.groups }

def ofGroups? (gs : List UInt16) : Option Ipv6 :=
  if h : gs.length = 8 then some ⟨⟨gs.toArray, by simpa using h⟩⟩ else none

def readV6 (s : List Char) : Option (Ipv6 × List Char) := do
  let head := readGroups true 8 s
  if head.groups.length = 8 then
    return (← ofGroups? head.groups, head.rest)
  if head.dotted then none
  let s ← readChar ':' head.rest
  let s ← readChar ':' s
  let tail := readGroups true (7 - head.groups.length) s
  let zeros := List.replicate (8 - head.groups.length - tail.groups.length) 0
  return (← ofGroups? (head.groups ++ zeros ++ tail.groups), tail.rest)

/-- Reads a whole text as an address. -/
def parse? (s : String) : Option IpAddress :=
  match readV4 s.toList with
  | some (x, rest) => if rest = [] then some (v4 x) else none
  | none =>
    match readV6 s.toList with
    | some (x, rest) => if rest = [] then some (v6 x) else none
    | none => none

end IpAddress
end DnsFilter
