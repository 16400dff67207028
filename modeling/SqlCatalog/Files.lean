-- SUMMARY: Paths as texts, and what the program asks of a file system.
import SqlCatalog.Text

/-!
# Files

A path is a text of components between slashes. A path that starts with a slash
is absolute. The file system is given by four operations in some monad: a real
one, or a tree held in memory.
-/

/-! ## Paths -/

namespace SqlCatalog.Path

def components (path : String) : List String :=
  (Text.splitAt '/' path.toList).map String.ofList

def isAbsolute (path : String) : Bool := path.toList.head? = some '/'

/-- The path `name` inside the directory `path`. -/
def join (path name : String) : String :=
  if isAbsolute name ∨ path = "" then name
  else if path.toList.getLast? = some '/' then path ++ name
  else path ++ "/" ++ name

/-- Whether the path is just another way to write `.`. -/
def isCurrent (path : String) : Bool :=
  let parts := (components path).filter (fun c => c ≠ "")
  !isAbsolute path && !parts.isEmpty && parts.all (fun c => c = ".")

/-- The absolute path with the given components. -/
def absolute (parts : List String) : String := "/" ++ "/".intercalate parts

/-- The components of a directory and of those above it, nearest first. The components
are given from the last to the first. -/
def upwards : List String → List (List String)
  | [] => [[]]
  | last :: above => (last :: above).reverse :: upwards above

/-- An absolute path and the directories above it, nearest first. -/
def ancestors (path : String) : List String :=
  (upwards ((components path).filter (fun c => c ≠ "")).reverse).map absolute

/-- The last component that names something. -/
def fileName? (path : String) : Option String :=
  match (components path).reverse.filter (fun c => c ≠ "" ∧ c ≠ ".") with
  | [] => none
  | last :: _ => if last = ".." then none else some last

/-- What follows the last dot of a file name; a dot at its start does not count. -/
def extensionOf (name : List Char) : Option (List Char) :=
  let after := name.reverse.takeWhile (fun c => c ≠ '.')
  match name.reverse.drop after.length with
  | _ :: _ :: _ => some after.reverse
  | _ => none

def extension? (path : String) : Option String :=
  ((fileName? path).bind fun name => extensionOf name.toList).map String.ofList

end SqlCatalog.Path

/-! ## Disks -/

namespace SqlCatalog

inductive EntryKind where
  | file
  | directory
deriving DecidableEq, Repr

structure Disk (m : Type → Type) where
  /-- The absolute path of the current directory. -/
  currentDirectory : m String
  /-- The text of a file, if it can be read. -/
  read : String → m (Option String)
  /-- What a path leads to, if anything. -/
  kind? : String → m (Option EntryKind)
  /-- The names in a directory. -/
  names : String → m (List String)

end SqlCatalog
