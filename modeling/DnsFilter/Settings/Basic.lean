import DnsFilter.Clients.Finder
import DnsFilter.Filter
import DnsFilter.Log.Settings
/-!
# Settings

All settings of the program with their defaults, as plain data and back, and their validation.
-/
namespace DnsFilter

inductive LogFormat
  | text | json
  deriving DecidableEq, Repr

namespace LogFormat

def all : List LogFormat := [text, json]

def name : LogFormat → String
  | text => "text"
  | json => "json"

def named? (s : String) : Option LogFormat := all.find? (·.name == s)

end LogFormat

structure LoggingSettings where
  level : String := "info"
  format : LogFormat := .text
  deriving DecidableEq, Repr

structure FilteringSettings where
  /-- Where the last good copy of every fetched list is kept. -/
  cacheDir : String := "./data/filters"
  /-- The limit on the size of one list in bytes. -/
  maxListSize : Nat := 67108864
  /-- The time for one refresh of all lists, in seconds. -/
  fetchTimeout : Nat := 60
  /-- The seconds between refreshes; 0 is never. -/
  refreshInterval : Nat := 86400
  filters : List FilterEntry := []
  deriving DecidableEq, Repr

structure WebSettings where
  enabled : Bool := true
  bindAddress : String := "127.0.0.1:3080"
  deriving DecidableEq, Repr

structure Settings where
  logging : LoggingSettings := {}
  filtering : FilteringSettings := {}
  queryLog : LogSettings := {}
  clients : List Client := []
  web : WebSettings := {}
  deriving DecidableEq, Repr

namespace LoggingSettings

def toValue (s : LoggingSettings) : Value :=
  .table [("level", .text s.level), ("format", .text s.format.name)]

def ofValue? (v : Value) : Option LoggingSettings := do
  let fields ← v.record? ["level", "format"]
  let default : LoggingSettings := {}
  let level ← fields.optional ["level"] default.level Value.text?
  let isVoid (v : Value) := v.isEmptyTable || v.isEmptyList
  let format ← fields.optional ["format"] default.format
    (fun v => (v.name? isVoid).bind LogFormat.named?)
  some { level, format }

/-- The directive that selects log messages: the one from the environment unless it is blank. -/
def directive (level : String) (environment : Option String) : String :=
  match environment with
  | some s => if Text.trim s.toList = [] then level else s
  | none => level

end LoggingSettings

namespace FilteringSettings

def build (s : FilteringSettings) : Except String (List Filter) := FilterEntry.build [] s.filters

def toValue (s : FilteringSettings) : Value :=
  .table [("cache_dir", .text s.cacheDir), ("max_rule_list_size", .ofNat s.maxListSize),
    ("fetch_timeout_secs", .ofNat s.fetchTimeout),
    ("refresh_interval_secs", .ofNat s.refreshInterval),
    ("filters", .list (s.filters.map FilterEntry.toValue))]

def ofValue? (v : Value) : Option FilteringSettings := do
  let fields ← v.record?
    ["cache_dir", "max_rule_list_size", "fetch_timeout_secs", "refresh_interval_secs", "filters"]
  let default : FilteringSettings := {}
  let count := Value.nat? Text.limit64
  let cacheDir ← fields.optional ["cache_dir"] default.cacheDir Value.text?
  let maxListSize ← fields.optional ["max_rule_list_size"] default.maxListSize count
  let fetchTimeout ← fields.optional ["fetch_timeout_secs"] default.fetchTimeout count
  let refreshInterval ← fields.optional ["refresh_interval_secs"] default.refreshInterval count
  let filters ← fields.optional ["filters"] default.filters (Value.list? FilterEntry.ofValue?)
  some { cacheDir, maxListSize, fetchTimeout, refreshInterval, filters }

end FilteringSettings

namespace WebSettings

def toValue (s : WebSettings) : Value :=
  .table [("enabled", .bool s.enabled), ("bind_address", .text s.bindAddress)]

def ofValue? (v : Value) : Option WebSettings := do
  let fields ← v.record? ["enabled", "bind_address"]
  let default : WebSettings := {}
  let enabled ← fields.optional ["enabled"] default.enabled Value.bool?
  let bindAddress ← fields.optional ["bind_address"] default.bindAddress Value.text?
  some { enabled, bindAddress }

end WebSettings

inductive SettingsError
  | unreadable (path reason : String)
  | unwritable (path reason : String)
  | malformed (reason : String)
  | invalid (reason : String)
  deriving DecidableEq, Repr

def SettingsError.message : SettingsError → String
  | unreadable path reason => "Failed to read config file " ++ path ++ ": " ++ reason
  | unwritable path reason => "Failed to write config file " ++ path ++ ": " ++ reason
  | malformed reason => "Failed to parse config: " ++ reason
  | invalid reason => "Configuration validation error: " ++ reason

namespace Settings

def toValue (s : Settings) : Value :=
  .table [("logging", s.logging.toValue), ("filtering", s.filtering.toValue),
    ("query_log", s.queryLog.toValue), ("clients", .list (s.clients.map Client.toValue)),
    ("web", s.web.toValue)]

def ofValue? (v : Value) : Option Settings := do
  let fields ← v.fields?
  let default : Settings := {}
  let logging ← fields.optional ["logging"] default.logging LoggingSettings.ofValue?
  let filtering ← fields.optional ["filtering"] default.filtering FilteringSettings.ofValue?
  let queryLog ← fields.optional ["query_log"] default.queryLog LogSettings.ofValue?
  let clients ← fields.optional ["clients"] default.clients (Value.list? Client.ofValue?)
  let web ← fields.optional ["web"] default.web WebSettings.ofValue?
  some { logging, filtering, queryLog, clients, web }

def validate (s : Settings) : Except SettingsError Unit :=
  match s.filtering.build with
  | .error reason => .error (.invalid reason)
  | .ok _ =>
    match s.queryLog.validate with
    | .error f => .error (.invalid f.message)
    | .ok () =>
      if s.clients.any (fun c => Text.trim c.name.toList = []) then
        .error (.invalid "Client name cannot be empty")
      else .ok ()

end Settings
end DnsFilter
