import DnsFilter.Storage.Disk
/-!
# Work on a disk

Sequences of file operations. What was done before an operation fails stays done.
-/
namespace DnsFilter

abbrev OnDisk (α : Type) := ExceptT FileError (StateM Disk) α

namespace OnDisk

def look {α : Type} (f : Disk → Except FileError α) : OnDisk α := do
  match f (← get) with
  | .ok a => return a
  | .error e => throw e

def change (f : Disk → Except FileError Disk) : OnDisk Unit := do
  match f (← get) with
  | .ok d => set d
  | .error e => throw e

def has (path : String) : OnDisk Bool := return (← get).has path

def ensureDirectory (path : String) : OnDisk Unit := do
  match (← get).makeDirectory path with
  | .ok d => set d
  | .error .occupied => if !(← get).hasDirectory path then throw .occupied
  | .error e => throw e

/-- Makes the first of some directories, each inside the next, and before it the others as far as
they are missing. -/
def makeChain : List String → OnDisk Unit
  | [] => return ()
  | path :: above =>
    tryCatch (ensureDirectory path) fun
      | .missing => do
        makeChain above
        ensureDirectory path
      | e => throw e

/-- Makes a directory and those above it. -/
def makeDirectories (path : String) : OnDisk Unit :=
  if path = "" then return () else makeChain (path :: Disk.above path)

/-- Compresses a file into another one. The other one is made before the first is read. -/
def pack (source target : String) : OnDisk Unit := do
  let (_, node) ← look (·.find source)
  change (·.store target (.packed []))
  match node with
  | .directory => throw .isDirectory
  | .plain content => change (·.store target (.packed content))
  | .packed content => change (·.store target (.packed content))

/-- What is left on the disk, and how the work ended. -/
def perform {α : Type} (work : OnDisk α) (d : Disk) : Except FileError α × Disk := work.run.run d

end OnDisk
end DnsFilter
