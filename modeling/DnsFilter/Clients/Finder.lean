import Std.Data.HashMap
import DnsFilter.Data.Fields
import DnsFilter.Text.Ascii
/-!
# Known clients

Clients by the identifiers they are known under: addresses, hardware addresses or client ids. Case
does not count, and the first client that claims an identifier owns it.
-/
namespace DnsFilter

structure Client where
  name : String
  ids : List String
  /-- Queries of the client are kept out of the query log. -/
  ignoreQueryLog : Bool
  deriving DecidableEq, Repr

namespace Client

def toValue (c : Client) : Value :=
  .table [("name", .text c.name), ("ids", .texts c.ids),
    ("ignore_query_log", .bool c.ignoreQueryLog)]

def ofValue? (v : Value) : Option Client := do
  let fields ← v.record? ["name", "ids", "ignore_query_log"]
  let name ← fields.required ["name"] Value.text?
  let ids ← fields.optional ["ids"] [] (Value.list? Value.text?)
  let ignoreQueryLog ← fields.optional ["ignore_query_log"] false Value.bool?
  some ⟨name, ids, ignoreQueryLog⟩

/-- Whether the client is known under one of `ids`. -/
def hasAny (c : Client) (ids : List String) : Bool :=
  ids.any (fun id => c.ids.any (fun own => Text.sameIgnoringCase own id))

end Client

structure ClientFinder where
  clients : List Client
  /-- The owner of each identifier in lower case. -/
  owners : Std.HashMap String Client

namespace ClientFinder

def claim (client : Client) (owners : Std.HashMap String Client) (id : String) :
    Std.HashMap String Client :=
  owners.insertIfNew (Text.lowered id) client

def ofClients (clients : List Client) : ClientFinder :=
  ⟨clients, clients.foldl (fun owners c => c.ids.foldl (claim c) owners) ∅⟩

def size (f : ClientFinder) : Nat := f.clients.length

/-- The owner of the first of `ids` that is not empty and has one. -/
def find? (f : ClientFinder) (ids : List String) : Option Client :=
  (ids.filter (· ≠ "")).findSome? (fun id => f.owners[Text.lowered id]?)

end ClientFinder
end DnsFilter
