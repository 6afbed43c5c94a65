import DnsFilter.Data.Toml
import DnsFilter.Settings.Basic
import DnsFilter.Storage.Disk
/-!
# Settings files

Settings from a file: an explicit one, the one in the working directory, or the one of the system,
and none of them for the defaults.
-/
namespace DnsFilter

structure Overrides where
  logLevel : Option String := none
  cacheDir : Option String := none
  queryLogDir : Option String := none
  deriving Repr

namespace Settings

def localPath : String := "ferrous-sieve.toml"
def systemPath : String := "/etc/ferrous-sieve/config.toml"

def ofToml (text : String) : Except SettingsError Settings :=
  match Toml.parse? text with
  | none => .error (.malformed "not a TOML document")
  | some v =>
    match ofValue? v with
    | none => .error (.malformed "a value does not fit its setting")
    | some s => .ok s

def toToml (s : Settings) : String := Toml.document s.toValue

def read (d : Disk) (path : String) : Except SettingsError Settings :=
  match d.readText path with
  | .error e => .error (.unreadable path e.message)
  | .ok text => ofToml (String.ofList text)

/-- The file that is read when none is asked for. -/
def foundPath? (d : Disk) : Option String := [localPath, systemPath].find? d.has

def override (s : Settings) (o : Overrides) : Settings :=
  { s with
    logging.level := o.logLevel.getD s.logging.level
    filtering.cacheDir := o.cacheDir.getD s.filtering.cacheDir
    queryLog.dir := o.queryLogDir.getD s.queryLog.dir }

def load (d : Disk) (path : Option String) (o : Overrides) : Except SettingsError Settings := do
  let s ←
    match path.or (foundPath? d) with
    | some path => read d path
    | none => .ok {}
  return s.override o

def save (s : Settings) (d : Disk) (path : String) : Except SettingsError Disk :=
  match d.write path (Utf8.encode s.toToml.toList) with
  | .error e => .error (.unwritable path e.message)
  | .ok d => .ok d

end Settings
end DnsFilter
