import DnsFilter.CommandLine.Help
import DnsFilter.Program
/-!
# Running the program

What an invocation does to the files, and how it ends.
-/
namespace DnsFilter

/-- How the program ends, unless it goes on to serve. -/
inductive Outcome
  | done (output : String)
  | failed (e : ProgramError)
  | refused
  | serving (p : Program) (address : Option SocketAddress)

namespace Outcome

def exitCode : Outcome → Nat
  | done _ => 0
  | failed _ => 1
  | refused => 2
  | serving _ _ => 0

def output : Outcome → String
  | done s => s
  | _ => ""

end Outcome

def Invocation.run (i : Invocation) (around : Surroundings) (d : Disk) : Outcome × Disk :=
  let settings := do
    let s ← Program.loadSettings d i.config i.overrides
    let _ ← Program.logDirectives s
    return s
  match settings with
  | .error e => (.failed e, d)
  | .ok settings =>
    match i.command with
    | .check host type =>
      match Program.check settings host type around d with
      | (.ok v, d) => (.done (Json.tall v.toValue ++ "\n"), d)
      | (.error e, d) => (.failed e, d)
    | .serve =>
      match Program.serve settings around d with
      | (.ok (p, address), d) => (.serving p address, d)
      | (.error e, d) => (.failed e, d)

def runProgram (args : List String) (around : Surroundings) (d : Disk) : Outcome × Disk :=
  match Arguments.parse args with
  | .ok i => i.run around d
  | .error (.help topic) => (.done (Help.text topic), d)
  | .error .version => (.done Help.version, d)
  | .error .refused => (.refused, d)

end DnsFilter
