import DnsFilter.Data.Fields
import DnsFilter.Text.Affix
import DnsFilter.Text.Blank
import DnsFilter.Text.Decimal
import DnsFilter.Time.Timestamp
/-!
# Filters

Named sources of rules: where a source lies, and what is known of the rules that are in service.
-/
namespace DnsFilter

inductive Locator
  | file (path : String)
  | http (url : String)
  deriving DecidableEq, Repr

namespace Locator

def urlLimit : Nat := 2048

def parse (text : String) : Except String Locator :=
  let s := Text.trim text.toList
  let trimmed := String.ofList s
  if s = [] then .error "Filter locator cannot be empty"
  else if trimmed.startsWith "http://" || trimmed.startsWith "https://" then
    if urlLimit < trimmed.utf8ByteSize then .error "URL cannot exceed 2048 characters"
    else .ok (.http trimmed)
  else
    match (Text.afterPrefix? "file://".toList s).getD s with
    | [] => .error "File locator has no path"
    | path => .ok (.file (String.ofList path))

def isRemote : Locator → Bool
  | file _ => false
  | http _ => true

def text : Locator → String
  | file path => path
  | http url => url

end Locator

/-- A filter as it is configured, with what is known of the rules that are in service for it. -/
structure Filter where
  id : Nat
  name : String
  locator : Locator
  enabled : Bool
  /-- When the rules in service were last fetched from their source. -/
  lastUpdated : Option Timestamp := none
  /-- The size in bytes of the text that the rules in service were made from. -/
  sizeBytes : Nat := 0
  rulesCount : Nat := 0
  /-- The digest of that text. -/
  checksum : Option String := none
  deriving DecidableEq, Repr

namespace Filter

def nameLimit : Nat := 200

def checkName (name : String) : Except String Unit :=
  if Text.trim name.toList = [] then .error "Filter name cannot be empty"
  else if nameLimit < name.utf8ByteSize then .error "Filter name cannot exceed 200 characters"
  else .ok ()

def cacheName (f : Filter) : String := Text.decimalText f.id ++ ".txt"

def isCompiled (f : Filter) : Bool := f.checksum.isSome

end Filter

structure FilterEntry where
  id : Nat
  name : String
  /-- `http://`, `https://`, or a path with or without `file://`. -/
  url : String
  enabled : Bool
  deriving DecidableEq, Repr

namespace FilterEntry

def toValue (e : FilterEntry) : Value :=
  .table [("id", .ofNat e.id), ("name", .text e.name), ("url", .text e.url),
    ("enabled", .bool e.enabled)]

def ofValue? (v : Value) : Option FilterEntry := do
  let fields ← v.record? ["id", "name", "url", "enabled"]
  let id ← fields.required ["id"] (Value.nat? Text.limit64)
  let name ← fields.required ["name"] Value.text?
  let url ← fields.required ["url", "path"] Value.text?
  let enabled ← fields.optional ["enabled"] true Value.bool?
  some ⟨id, name, url, enabled⟩

def toFilter (e : FilterEntry) : Except String Filter := do
  Filter.checkName e.name
  let locator ← Locator.parse e.url
  return { id := e.id, name := Text.trimmed e.name, locator, enabled := e.enabled }

/-- The filters of entries in their order, which is the order of precedence. -/
def build (seen : List Nat) : List FilterEntry → Except String (List Filter)
  | [] => .ok []
  | e :: es =>
    if seen.contains e.id then .error ("Duplicate filter id " ++ Text.decimalText e.id)
    else
      match e.toFilter with
      | .error reason => .error ("Filter " ++ Text.decimalText e.id ++ ": " ++ reason)
      | .ok f => return f :: (← build (e.id :: seen) es)

end FilterEntry
end DnsFilter
