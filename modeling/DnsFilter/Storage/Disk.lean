import DnsFilter.Text.Utf8
/-!
# Directories and files

A tree of directories and files below a working directory, and the operations on it with the ways in
which they fail.
-/
namespace DnsFilter

/-- The names on the way from the working directory. -/
abbrev Path := List String

inductive Node
  | directory
  | plain (content : Bytes)
  /-- A compressed file, by what it holds uncompressed. -/
  | packed (content : Bytes)
  deriving DecidableEq, Repr

inductive FileError
  | missing
  | notDirectory
  | isDirectory
  | occupied
  | notEmpty
  | tooLong
  | badName
  | badText
  /-- A number runs over in a build that checks for it. Nothing handles this panic. -/
  | overflow
  deriving DecidableEq, Repr

def FileError.message : FileError → String
  | missing => "no such file or directory"
  | notDirectory => "not a directory"
  | isDirectory => "is a directory"
  | occupied => "file exists"
  | notEmpty => "directory not empty"
  | tooLong => "file name too long"
  | badName => "file name contains a null character"
  | badText => "invalid UTF-8"
  | overflow => "attempt to add with overflow"

structure Disk where
  /-- Everything below the working directory, the oldest first. -/
  nodes : List (Path × Node) := []
  deriving DecidableEq, Repr

namespace Disk

/-- The node at a path. The working directory and the root of absolute paths are always there. -/
def node? (d : Disk) (p : Path) : Option Node :=
  if p = [] ∨ p = ["/"] then some .directory else d.nodes.lookup p

def isDirectory (d : Disk) (p : Path) : Bool := d.node? p == some .directory

def without (d : Disk) (p : Path) : Disk := ⟨d.nodes.filter (·.1 ≠ p)⟩

/-- Puts a node at a path. A node that is there is replaced in its place. -/
def put (d : Disk) (p : Path) (n : Node) : Disk :=
  if (d.nodes.lookup p).isSome then ⟨d.nodes.map (fun e => if e.1 = p then (p, n) else e)⟩
  else ⟨d.nodes ++ [(p, n)]⟩

/-! ## Paths -/

/-- The names in the text of a path. An absolute path begins with the root. -/
def names (text : String) : List String :=
  let parts := (text.toList.splitOn '/').map String.ofList
  match parts with
  | "" :: rest => "/" :: rest
  | _ => parts

/-- A name has at most this many bytes. -/
def nameLimit : Nat := 255

/-- The text of a path has fewer bytes than this. -/
def textLimit : Nat := 4096

def checkText (text : String) : Except FileError Unit :=
  if text.toList.contains '\x00' then .error .badName
  else if text = "" then .error .missing
  else if textLimit ≤ text.utf8ByteSize then .error .tooLong
  else .ok ()

/-- Goes on from a directory by one name. The directory must be there. -/
def enter (d : Disk) (place : Path) (name : String) : Except FileError Path :=
  match d.node? place with
  | none => .error .missing
  | some .directory =>
    if name = "" || name = "." then .ok place
    else if name = ".." then .ok place.dropLast
    else if nameLimit < name.utf8ByteSize then .error .tooLong
    else .ok (place ++ [name])
  | some _ => .error .notDirectory

/-- The place that the text of a path names. All but its last name must be directories. -/
def locate (d : Disk) (text : String) : Except FileError Path := do
  checkText text
  (names text).foldlM d.enter []

def join (dir name : String) : String :=
  if dir = "" || dir.endsWith "/" then dir ++ name else dir ++ "/" ++ name

/-- The parts of a path that tell it from others: repeated slashes do not count, nor does a dot that
is not the first part. An empty path has none. -/
def parts (text : String) : List String :=
  if text = "" then []
  else
    match names text with
    | [] => []
    | first :: rest => first :: rest.filter (fun n => n ≠ "" && n ≠ ".")

def textOf (p : Path) : String :=
  match p with
  | "/" :: rest => "/" ++ "/".intercalate rest
  | _ => "/".intercalate p

/-- The directories above a path, the nearest first, but for the working directory and the root. -/
def above (text : String) : List String :=
  let p := parts text
  let shorter := (List.range p.length).reverse.map (fun n => p.take n)
  (shorter.filter (fun q => q ≠ [] && q ≠ ["/"])).map textOf

def parent (text : String) : String := (above text).headD ""

/-! ## Looking -/

def find (d : Disk) (text : String) : Except FileError (Path × Node) := do
  let p ← d.locate text
  match d.node? p with
  | some n => .ok (p, n)
  | none => .error .missing

def has (d : Disk) (text : String) : Bool := (d.find text).isOk

def hasDirectory (d : Disk) (text : String) : Bool :=
  match d.find text with
  | .ok (_, .directory) => true
  | _ => false

/-- The bytes that a file holds. -/
def read (d : Disk) (text : String) : Except FileError Bytes := do
  match (← d.find text).2 with
  | .directory => .error .isDirectory
  | .plain content => .ok content
  | .packed content => .ok content

def readText (d : Disk) (text : String) : Except FileError (List Char) := do
  match Utf8.decode? (← d.read text) with
  | some s => .ok s
  | none => .error .badText

def list (d : Disk) (text : String) : Except FileError (List String) := do
  let (p, n) ← d.find text
  if n = .directory then
    .ok (d.nodes.filterMap (fun e =>
      match e.1.getLast? with
      | some name => if e.1.dropLast = p then some name else none
      | none => none))
  else .error .notDirectory

/-! ## Changing -/

/-- Makes a directory. The one above it must be there, and nothing at its own place. Slashes at the
end do not count. -/
def makeDirectory (d : Disk) (text : String) : Except FileError Disk := do
  checkText text
  let p ← ((names text).reverse.dropWhile (· = "")).reverse.foldlM d.enter []
  match d.node? p with
  | some _ => .error .occupied
  | none => .ok (d.put p .directory)

def store (d : Disk) (text : String) (n : Node) : Except FileError Disk := do
  let p ← d.locate text
  if !d.isDirectory p.dropLast then
    .error (if (d.node? p.dropLast).isSome then .notDirectory else .missing)
  else if d.isDirectory p then .error .isDirectory
  else .ok (d.put p n)

def write (d : Disk) (text : String) (content : Bytes) : Except FileError Disk :=
  d.store text (.plain content)

/-- Adds to the end of a file, which is made if it is missing. -/
def append (d : Disk) (text : String) (content : Bytes) : Except FileError Disk :=
  match d.read text with
  | .ok old => d.write text (old ++ content)
  | .error .missing => d.write text content
  | .error e => .error e

def removeFile (d : Disk) (text : String) : Except FileError Disk := do
  let (p, n) ← d.find text
  if n = .directory then .error .isDirectory else .ok (d.without p)

def removeTree (d : Disk) (text : String) : Except FileError Disk := do
  let (p, _) ← d.find text
  .ok ⟨d.nodes.filter (fun e => !p.isPrefixOf e.1)⟩

def moveTree (d : Disk) (source target : Path) : Disk :=
  ⟨d.nodes.map (fun e =>
    if source.isPrefixOf e.1 then (target ++ e.1.drop source.length, e.2) else e)⟩

/-- Renames a file or a directory. A file takes the place of a file, a directory that of an empty
directory. -/
def rename (d : Disk) (source target : String) : Except FileError Disk := do
  let (p, n) ← d.find source
  let q ← d.locate target
  if !d.isDirectory q.dropLast then .error .missing
  else if p = q then .ok d
  else
    match n, d.node? q with
    | _, none => .ok (d.moveTree p q)
    | .directory, some .directory =>
      if d.nodes.any (fun e => q.isPrefixOf e.1 && e.1 ≠ q) then .error .notEmpty
      else .ok ((d.without q).moveTree p q)
    | .directory, some _ => .error .notDirectory
    | _, some .directory => .error .isDirectory
    | _, some _ => .ok ((d.without q).moveTree p q)

end Disk
end DnsFilter
