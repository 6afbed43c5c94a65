import DnsFilter.Failure
/-!
# Client transports

How a client reached the resolver, and the short name of each way.
-/
namespace DnsFilter

inductive Transport
  | https | quic | tls | dnscrypt | plain
  deriving DecidableEq, Repr, Inhabited

namespace Transport

def all : List Transport := [https, quic, tls, dnscrypt, plain]

/-- Plain DNS has the empty name. -/
def name : Transport → String
  | https => "doh"
  | quic => "doq"
  | tls => "dot"
  | dnscrypt => "dnscrypt"
  | plain => ""

def named? (s : String) : Option Transport := all.find? (·.name == s)

def parse (s : String) : Except Failure Transport :=
  match named? s with
  | some t => .ok t
  | none => .error (.invalidTransport s)

end Transport
end DnsFilter
