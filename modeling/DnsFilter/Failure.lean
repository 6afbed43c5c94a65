import DnsFilter.Text.Decimal
import DnsFilter.Text.Quoted
/-!
# Failures

What can go wrong between a rule list, a query and the query log, with the wording of each failure.
-/
namespace DnsFilter

inductive Failure
  | filterFetch (filter reason : String)
  | filterTooLarge (filter : String) (limit : Nat)
  | filterTimeout (filter : String)
  | filterCompile (filter reason : String)
  | refreshInProgress
  | engineClosed
  | refreshFailed (failed : List String)
  | invalidLogParams (reason : String)
  | invalidTransport (text : String)
  | invalidInterval (reason : String)
  | logFiles (reason : String)
  | clientLookup (reason : String)
  | files (reason : String)
  | settings (reason : String)
  deriving DecidableEq, Repr

namespace Failure

def message : Failure → String
  | filterFetch filter reason => "Filter fetch error for " ++ filter ++ ": " ++ reason
  | filterTooLarge filter limit =>
    "Filter " ++ filter ++ " exceeds the size limit of " ++ Text.decimalText limit ++ " bytes"
  | filterTimeout filter => "Filter fetch for " ++ filter ++ " timed out"
  | filterCompile filter reason => "Filter compile error for " ++ filter ++ ": " ++ reason
  | refreshInProgress => "Filter refresh already in progress"
  | engineClosed => "Filter engine is closed"
  | refreshFailed failed => "Filter refresh failed for: " ++ ", ".intercalate failed
  | invalidLogParams reason => "Invalid query log parameters: " ++ reason
  | invalidTransport text => "Invalid client proto: " ++ Text.quoted text
  | invalidInterval reason => "Invalid rotation interval: " ++ reason
  | logFiles reason => "Query log I/O error: " ++ reason
  | clientLookup reason => "Client lookup failed: " ++ reason
  | files reason => "I/O error: " ++ reason
  | settings reason => "Configuration error: " ++ reason

def filter? : Failure → Option String
  | filterFetch filter _ => some filter
  | filterTooLarge filter _ => some filter
  | filterTimeout filter => some filter
  | filterCompile filter _ => some filter
  | _ => none

end Failure
end DnsFilter
