import DnsFilter.Data.Fields
import DnsFilter.Dns.RecordType
import DnsFilter.Text.Decimal
/-!
# Questions and answer records
-/
namespace DnsFilter

def RecordType.ofValue? (v : Value) : Option RecordType :=
  (v.name? Value.isNull).bind RecordType.named?
def RecordClass.ofValue? (v : Value) : Option RecordClass :=
  (v.name? Value.isNull).bind RecordClass.named?

structure Question where
  name : String
  type : RecordType
  recordClass : RecordClass
  deriving DecidableEq, Repr, Inhabited

structure AnswerRecord where
  name : String
  type : RecordType
  ttl : Nat
  value : String
  deriving DecidableEq, Repr, Inhabited

namespace AnswerRecord

def toValue (r : AnswerRecord) : Value :=
  .table [("name", .text r.name), ("type", .text r.type.name), ("ttl", .ofNat r.ttl),
    ("value", .text r.value)]

def ofValue? (v : Value) : Option AnswerRecord := do
  let fields ← v.strictRecord? ["name", "type", "ttl", "value"]
  let name ← fields.required ["name"] Value.text?
  let type ← fields.required ["type"] RecordType.ofValue?
  let ttl ← fields.required ["ttl"] (Value.nat? Text.limit32)
  let value ← fields.required ["value"] Value.text?
  some ⟨name, type, ttl, value⟩

end AnswerRecord
end DnsFilter
