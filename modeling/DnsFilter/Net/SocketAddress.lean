import DnsFilter.Net.Address
/-!
# Socket addresses

An address with a port: `a.b.c.d:port`, or `[address]:port` with an optional numeric zone.
-/
namespace DnsFilter

structure SocketAddress where
  address : IpAddress
  zone : Nat
  port : Nat
  deriving DecidableEq, Repr

namespace SocketAddress

def readNumber (limit : Nat) (s : List Char) : Option (Nat × List Char) :=
  let digits := s.takeWhile Text.isDigit
  let n := Text.decimalValue digits
  if digits = [] || limit ≤ n then none else some (n, s.drop digits.length)

def readPort (s : List Char) : Option (Nat × List Char) := do
  readNumber Text.limit16 (← IpAddress.readChar ':' s)

def readZone (s : List Char) : Option (Nat × List Char) := do
  readNumber Text.limit32 (← IpAddress.readChar '%' s)

def readV4 (s : List Char) : Option (SocketAddress × List Char) := do
  let (x, s) ← IpAddress.readV4 s
  let (port, s) ← readPort s
  some (⟨.v4 x, 0, port⟩, s)

def readV6 (s : List Char) : Option (SocketAddress × List Char) := do
  let s ← IpAddress.readChar '[' s
  let (x, s) ← IpAddress.readV6 s
  let (zone, s) := (readZone s).getD (0, s)
  let s ← IpAddress.readChar ']' s
  let (port, s) ← readPort s
  some (⟨.v6 x, zone, port⟩, s)

def parse? (s : String) : Option SocketAddress :=
  match (readV4 s.toList).or (readV6 s.toList) with
  | some (x, []) => some x
  | _ => none

end SocketAddress
end DnsFilter
