import DnsFilter.Text.Upper
/-!
# Record types and classes

The DNS record types and classes that rules, queries and log entries name, with their codes.
-/
namespace DnsFilter

inductive RecordType
  | a | aaaa | cname | mx | txt | ptr | srv | soa | ns | naptr | ds | dnskey | svcb | https | caa
  | dname | any
  deriving DecidableEq, Repr, Inhabited

namespace RecordType

def all : List RecordType :=
  [a, aaaa, cname, mx, txt, ptr, srv, soa, ns, naptr, ds, dnskey, svcb, https, caa, dname, any]

def name : RecordType → String
  | a => "A"
  | aaaa => "AAAA"
  | cname => "CNAME"
  | mx => "MX"
  | txt => "TXT"
  | ptr => "PTR"
  | srv => "SRV"
  | soa => "SOA"
  | ns => "NS"
  | naptr => "NAPTR"
  | ds => "DS"
  | dnskey => "DNSKEY"
  | svcb => "SVCB"
  | https => "HTTPS"
  | caa => "CAA"
  | dname => "DNAME"
  | any => "ANY"

def code : RecordType → Nat
  | a => 1
  | ns => 2
  | cname => 5
  | soa => 6
  | ptr => 12
  | mx => 15
  | txt => 16
  | aaaa => 28
  | srv => 33
  | naptr => 35
  | dname => 39
  | ds => 43
  | dnskey => 48
  | svcb => 64
  | https => 65
  | any => 255
  | caa => 257

def ofCode? (n : Nat) : Option RecordType := all.find? (·.code == n)

def named? (s : String) : Option RecordType := all.find? (·.name == s)

/-- The type with this name in any case. -/
def parse? (s : String) : Option RecordType := named? (String.ofList (Text.upper s.toList))

def isAddress (t : RecordType) : Bool := t == a || t == aaaa

def unknownMessage (s : String) : String := "Unknown record type: " ++ s

end RecordType

inductive RecordClass
  | internet | chaos | hesiod | none | any
  deriving DecidableEq, Repr, Inhabited

namespace RecordClass

def all : List RecordClass := [internet, chaos, hesiod, none, any]

def name : RecordClass → String
  | internet => "IN"
  | chaos => "CH"
  | hesiod => "HS"
  | none => "NONE"
  | any => "ANY"

def code : RecordClass → Nat
  | internet => 1
  | chaos => 3
  | hesiod => 4
  | none => 254
  | any => 255

def ofCode? (n : Nat) : Option RecordClass := all.find? (·.code == n)
def named? (s : String) : Option RecordClass := all.find? (·.name == s)
def parse? (s : String) : Option RecordClass := named? (String.ofList (Text.upper s.toList))
def unknownMessage (s : String) : String := "Unknown DNS class: " ++ s

end RecordClass
end DnsFilter
