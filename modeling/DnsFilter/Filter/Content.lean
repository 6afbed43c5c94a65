import DnsFilter.Failure
import DnsFilter.Storage.Disk
/-!
# Contents of lists

The bytes of a list as they arrive from a file or from a server, in pieces and up to a limit.
-/
namespace DnsFilter

/-- Bytes on their way through a buffer, whose older contents stay behind each piece. -/
structure Intake where
  buffer : Bytes
  /-- What was taken out of the buffer, the latest first. -/
  taken : List Bytes := []
  size : Nat := 0

namespace Intake

/-- Takes one more piece, unless more than `limit` bytes would then have come. -/
def take? (limit : Nat) (x : Intake) (piece : Bytes) : Option Intake :=
  if limit < x.size + piece.length then none
  else
    let filled := piece ++ x.buffer.drop piece.length
    some ⟨filled, filled.take piece.length :: x.taken, x.size + piece.length⟩

def content (x : Intake) : Bytes := x.taken.reverse.flatten

/-- The whole of the pieces, if they are not more than `limit` bytes. -/
def gather? (limit : Nat) (buffer : Bytes) (pieces : List Bytes) : Option Bytes :=
  (pieces.foldlM (take? limit) ⟨buffer, [], 0⟩).map content

end Intake

/-- The pieces in which a reader with room for `room` bytes gets a file. -/
def piecesOf (room : Nat) (content : Bytes) : List Bytes :=
  if _h : room = 0 ∨ content = [] then []
  else content.take room :: piecesOf room (content.drop room)
termination_by content.length
decreasing_by
  obtain ⟨hr, hc⟩ := not_or.mp _h
  have := List.length_pos_iff.mpr hc
  simp only [List.length_drop]
  omega

inductive Ending
  | complete
  | broken (reason : String)
  | stalled
  deriving DecidableEq, Repr

/-- What comes back from a server. -/
inductive Reply
  | unreachable (reason : String)
  | silent
  | answered (status : Nat) (declared : Option Nat) (pieces : List Bytes) (ending : Ending)
  deriving DecidableEq, Repr

abbrev Attempt := Except Failure Bytes

namespace Reply

def isSuccess (status : Nat) : Bool := 200 ≤ status && status < 300

/-- The content of an answer for the filter `name`, limited by its declared and its actual length.
-/
def content (name url : String) (limit : Nat) : Reply → Attempt
  | unreachable reason => .error (.filterFetch name reason)
  | silent => .error (.filterTimeout name)
  | answered status declared pieces ending =>
    if !isSuccess status then
      .error (.filterFetch name ("HTTP " ++ Text.decimalText status ++ " for " ++ url))
    else if declared.any (limit < ·) then .error (.filterTooLarge name limit)
    else
      match Intake.gather? limit [] pieces, ending with
      | none, _ => .error (.filterTooLarge name limit)
      | some content, .complete => .ok content
      | some _, .broken reason => .error (.filterFetch name reason)
      | some _, .stalled => .error (.filterTimeout name)

/-- The content of an answer that is waited for after the deadline. What fails at once still fails
for its own reason. -/
def lateContent (name : String) : Reply → Attempt
  | unreachable reason => .error (.filterFetch name reason)
  | _ => .error (.filterTimeout name)

end Reply

def readPieces (name : String) (limit : Nat) (buffer : Bytes) (pieces : List Bytes) : Attempt :=
  if buffer = [] then .error (.filterFetch name "empty scratch buffer")
  else
    match Intake.gather? limit buffer pieces with
    | some content => .ok content
    | none => .error (.filterTooLarge name limit)

def readNode (name : String) (limit : Nat) (buffer : Bytes) (node : Node) : Attempt :=
  match node with
  | .directory =>
    .error (.filterFetch name
      (if buffer = [] then "empty scratch buffer" else FileError.isDirectory.message))
  | .plain content => readPieces name limit buffer (piecesOf buffer.length content)
  | .packed content => readPieces name limit buffer (piecesOf buffer.length content)

def readFile (name : String) (limit : Nat) (buffer : Bytes) (d : Disk) (path : String) : Attempt :=
  match d.find path with
  | .error e => .error (.filterFetch name ("open " ++ path ++ ": " ++ e.message))
  | .ok (_, node) => readNode name limit buffer node

end DnsFilter
