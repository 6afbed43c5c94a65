import DnsFilter.Dns.RecordType
import DnsFilter.Net.Address
import DnsFilter.Verdict
/-!
# Filter rules

What one rule of a list says: block or allow, for which names or answer addresses, and for which
record types.
-/
namespace DnsFilter

inductive Target
  /-- One host. -/
  | exact (host : List Char)
  /-- A domain and everything below it. -/
  | subtree (domain : List Char)
  /-- Everything below a domain. -/
  | wildcard (domain : List Char)
  /-- All hosts with a text in their name. -/
  | part (text : List Char)
  | regex (pattern : List Char)
  /-- An address in an answer. -/
  | address (ip : IpAddress)
  deriving DecidableEq, Repr

structure Rule where
  action : Action
  target : Target
  /-- The record types that the rule is limited to. -/
  types : Option (List RecordType)
  deriving DecidableEq, Repr

inductive RuleLine
  | empty
  | invalid
  | rule (r : Rule)
  deriving DecidableEq, Repr

end DnsFilter
