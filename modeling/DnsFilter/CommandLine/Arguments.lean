import DnsFilter.Settings.File
/-!
# Arguments

The arguments of the program: options that may stand before and after a command, the command and
what it takes. An option is given once at each of the two places, and after the command it counts
more.

A value that is an argument of its own is looked at late: when the next option or the host is read,
or at the end. What stands before a command is looked at after what stands behind it.
-/
namespace DnsFilter

inductive CommandName
  | serve | check
  deriving DecidableEq, Repr

inductive OptionName
  | config | logLevel | cacheDir | queryLogDir | type
  deriving DecidableEq, Repr

inductive Command
  | serve
  | check (host type : String)
  deriving DecidableEq, Repr

structure Invocation where
  config : Option String
  overrides : Overrides
  command : Command

inductive Topic
  | program
  | command (c : CommandName)
  /-- The command that prints help. -/
  | help
  deriving DecidableEq, Repr

/-- Why arguments are not an invocation. -/
inductive Detour
  | help (topic : Topic)
  | version
  | refused
  deriving DecidableEq, Repr

namespace Arguments

def commandName? (s : String) : Option CommandName :=
  match s with
  | "serve" => some .serve
  | "check" => some .check
  | _ => none

def optionName? (command : Option CommandName) (s : String) : Option OptionName :=
  match s with
  | "config" => some .config
  | "log-level" => some .logLevel
  | "cache-dir" => some .cacheDir
  | "query-log-dir" => some .queryLogDir
  | "qtype" => if command = some .check then some .type else none
  | _ => none

/-- Directories are not empty. -/
def isValue (option : OptionName) (value : String) : Bool :=
  match option with
  | .cacheDir => value ≠ ""
  | .queryLogDir => value ≠ ""
  | _ => true

def topicOf (command : Option CommandName) : Topic := command.elim .program .command

def subtopic? (topic : Topic) (arg : String) : Option Topic :=
  match topic with
  | .program => if arg = "help" then some .help else (commandName? arg).map .command
  | _ => none

structure Reading where
  command : Option CommandName := none
  /-- What help was asked for with the command for it. -/
  topic : Option Topic := none
  /-- The options that were given, with the command that they stand after. -/
  given : List ((Option CommandName × OptionName) × String) := []
  host : Option String := none
  /-- The option whose value comes next. -/
  awaiting : Option OptionName := none
  /-- A value that was not looked at yet. -/
  late : Option (OptionName × String) := none
  /-- The last such value before the command. -/
  earlier : Option (OptionName × String) := none
  /-- Options are over. -/
  isPlain : Bool := false
  deriving Repr

def give (r : Reading) (command : Option CommandName) (option : OptionName) (value : String) :
    Except Detour Reading :=
  let key := (command, option)
  if !isValue option value || (r.given.lookup key).isSome then .error .refused
  else .ok { r with given := r.given ++ [(key, value)] }

/-- Looks at the value that was left for later. One that is still to come is missing. -/
def settle (r : Reading) : Except Detour Reading :=
  if r.awaiting.isSome then .error .refused
  else
    match r.late with
    | none => .ok r
    | some (option, value) => give { r with late := none } r.command option value

/-- An argument that is neither an option nor a value of one. -/
def plain (r : Reading) (arg : String) : Except Detour Reading := do
  match r.command, r.host with
  | none, _ =>
    if r.isPlain then throw .refused
    else if arg = "help" then return { r with topic := some .program }
    else
      match commandName? arg with
      | some c => return { r with command := some c, late := none, earlier := r.late }
      | none => throw .refused
  | some .check, none => return { ← settle r with host := some arg }
  | _, _ => throw .refused

def option (r : Reading) (o : OptionName) (value : Option String) : Except Detour Reading := do
  let r ← settle r
  match value with
  | some value => give r r.command o value
  | none => return { r with awaiting := some o }

def long (r : Reading) (body : List Char) : Except Detour Reading := do
  let name := String.ofList (body.takeWhile (· ≠ '='))
  let value := (Text.cutAt? '=' body).map (fun p => String.ofList p.2)
  if name = "help" && value.isNone then
    let _ ← settle r
    throw (.help (topicOf r.command))
  else if name = "version" && value.isNone && r.command.isNone then
    let _ ← settle r
    throw .version
  else
    match optionName? r.command name with
    | some o => option r o value
    | none => throw .refused

/-- An option by its letter. Its value may follow at once, also after an equals sign. -/
def short (r : Reading) (body : List Char) : Except Detour Reading := do
  match body with
  | 'h' :: _ =>
    let _ ← settle r
    throw (.help (topicOf r.command))
  | 'V' :: _ =>
    let _ ← settle r
    throw (if r.command.isNone then .version else .refused)
  | ['c'] => option r .config none
  | 'c' :: '=' :: value => option r .config (some (String.ofList value))
  | 'c' :: value => option r .config (some (String.ofList value))
  | _ => throw .refused

def take (r : Reading) (arg : String) : Except Detour Reading :=
  match r.topic with
  | some topic =>
    match subtopic? topic arg with
    | some topic => .ok { r with topic := some topic }
    | none => .error .refused
  | none =>
    if r.isPlain then plain r arg
    else
      match r.awaiting, arg.toList with
      | some _, '-' :: _ :: _ => .error .refused
      | some o, _ => .ok { r with awaiting := none, late := some (o, arg) }
      | none, ['-', '-'] => .ok { r with isPlain := true }
      | none, '-' :: '-' :: body => long r body
      | none, '-' :: c :: body => short r (c :: body)
      | none, _ => plain r arg

def settleAll (r : Reading) : Except Detour Reading := do
  let r ← settle r
  match r.earlier with
  | none => return r
  | some (o, value) => give r none o value

def value? (r : Reading) (option : OptionName) : Option String :=
  (r.given.lookup (r.command, option)).or (r.given.lookup (none, option))

def defaultType : String := "A"

def invocation (r : Reading) : Except Detour Invocation := do
  if let some topic := r.topic then throw (.help topic)
  let r ← settleAll r
  let overrides : Overrides :=
    ⟨value? r .logLevel, value? r .cacheDir, value? r .queryLogDir⟩
  match r.command, r.host with
  | some .check, some host =>
    return ⟨value? r .config, overrides, .check host ((value? r .type).getD defaultType)⟩
  | some .check, none => throw .refused
  | _, _ => return ⟨value? r .config, overrides, .serve⟩

def parse (args : List String) : Except Detour Invocation := do
  invocation (← args.foldlM take {})

end Arguments
end DnsFilter
