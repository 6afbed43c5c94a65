import DnsFilter.CommandLine.Arguments
/-!
# Help

What the program says about itself.
-/
namespace DnsFilter.Help

def programName : String := "ferrous-sieve"
def version : String := programName ++ " 0.3.0\n"

def serveAbout : String := "Refresh filters, run the query log and serve the read endpoints"
def checkAbout : String := "Refresh filters once and print the verdict for a host"
def helpAbout : String := "Print this message or the help of the given subcommand(s)"

def columns (rows : List (String × String)) : String :=
  let width := (rows.map (·.1.length)).foldl max 0
  String.join (rows.map fun (left, right) =>
    "  " ++ left ++ String.ofList (List.replicate (width - left.length + 2) ' ') ++ right ++ "\n")

def configOption : String × String := ("-c, --config <FILE>", "Configuration file path")
def otherOptions : List (String × String) :=
  [("    --log-level <LOG_LEVEL>", "Log level (trace, debug, info, warn, error)"),
    ("    --cache-dir <DIR>", "Filter cache directory"),
    ("    --query-log-dir <DIR>", "Query log directory")]

def helpOption : String × String := ("-h, --help", "Print help")
def versionOption : String × String := ("-V, --version", "Print version")
def typeOption : String × String :=
  ("    --qtype <QTYPE>", "Query type to match with [default: " ++ Arguments.defaultType ++ "]")

def text : Topic → String
  | .program =>
    "Ferrous Sieve - DNS rule-list filtering engine and query log\n\nUsage: " ++ programName ++
      " [OPTIONS] [COMMAND]\n\nCommands:\n" ++
      columns [("serve", serveAbout), ("check", checkAbout), ("help", helpAbout)] ++
      "\nOptions:\n" ++ columns (configOption :: otherOptions ++ [helpOption, versionOption])
  | .command .serve =>
    serveAbout ++ "\n\nUsage: " ++ programName ++ " serve [OPTIONS]\n\nOptions:\n" ++
      columns (configOption :: otherOptions ++ [helpOption])
  | .command .check =>
    checkAbout ++ "\n\nUsage: " ++ programName ++
      " check [OPTIONS] <HOST>\n\nArguments:\n  <HOST>  \n\nOptions:\n" ++
      columns (configOption :: typeOption :: otherOptions ++ [helpOption])
  | .help =>
    helpAbout ++ "\n\nUsage: " ++ programName ++ " help [COMMAND]...\n\nArguments:\n" ++
      columns [("[COMMAND]...", "Print help for the subcommand(s)")]

end DnsFilter.Help
