/-!
# Lines

A line ends at a line feed; one carriage return before it belongs to the ending.
-/
namespace DnsFilter.Text

/-- The pieces of `s` that line feeds end, with their line feed, and the rest if there is any. -/
def splitAfterNewline (s : List Char) : List (List Char) :=
  let (done, current) := s.foldl (fun (acc : List (List Char) × List Char) c =>
    if c = '\n' then ((('\n' :: acc.2).reverse) :: acc.1, []) else (acc.1, c :: acc.2)) ([], [])
  (if current = [] then done else current.reverse :: done).reverse

/-- A line without its line feed and one carriage return before it. -/
def chomp (line : List Char) : List Char :=
  match line.reverse with
  | '\n' :: '\r' :: rest => rest.reverse
  | '\n' :: rest => rest.reverse
  | _ => line

def lines (s : List Char) : List (List Char) := (splitAfterNewline s).map chomp

end DnsFilter.Text
