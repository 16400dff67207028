-- SUMMARY: File trees held in memory, and the disk they give.
import SqlCatalog.Dict
import SqlCatalog.Files

/-!
# File trees

A tree of named files and directories. Paths are followed component by
component; each one that is not the last must be a directory, also before `..`.
-/

namespace SqlCatalog

inductive FileTree where
  | file (content : String)
  | directory (entries : List (String × FileTree))

namespace FileTree

instance : Inhabited FileTree := ⟨.directory []⟩

/-- Put a leaf below some directories, which are made as needed. -/
def put (leaf : FileTree) : List String → List (String × FileTree) → List (String × FileTree)
  | [], entries => entries
  | [name], entries =>
    match Entries.find? name entries, leaf with
    | some (.directory _), .directory _ => entries
    | _, _ => Entries.put name leaf entries
  | name :: rest, entries =>
    let inner := match Entries.find? name entries with
      | some (.directory inner) => inner
      | _ => []
    Entries.put name (.directory (put leaf rest inner)) entries

/-- The tree of the given files; a missing content stands for a directory. -/
def ofFiles (files : List (List String × Option String)) : FileTree :=
  .directory (files.foldl
    (fun entries (path, content) =>
      let leaf := match content with
        | some text => .file text
        | none => .directory []
      put leaf path entries)
    [])

/-- Follow components from a place, given as the trees from there up to the root. -/
def walk : List FileTree → List String → Option (List FileTree)
  | place, [] => some place
  | [], _ => none
  | .file _ :: _, _ :: _ => none
  | .directory entries :: above, c :: rest =>
    if c = "" ∨ c = "." then walk (.directory entries :: above) rest
    else if c = ".." then
      match above with
      | [] => walk [.directory entries] rest
      | _ :: _ => walk above rest
    else
      match Entries.find? c entries with
      | none => none
      | some inner => walk (inner :: .directory entries :: above) rest

/-- The tree a path leads to from a directory below the root. -/
def find? (root : FileTree) (current : List String) (path : String) : Option FileTree :=
  if path = "" then none
  else
    let parts := Path.components path
    let place := if Path.isAbsolute path then walk [root] parts
      else (walk [root] current).bind fun place => walk place parts
    place.bind List.head?

/-- The tree as a disk whose current directory has the given components. -/
def disk (root : FileTree) (current : List String) : Disk Id where
  currentDirectory := Path.absolute current
  read path :=
    match find? root current path with
    | some (.file content) => some content
    | _ => none
  kind? path :=
    match find? root current path with
    | some (.file _) => some .file
    | some (.directory _) => some .directory
    | none => none
  names path :=
    match find? root current path with
    | some (.directory entries) => Entries.keys entries
    | _ => []

end FileTree

end SqlCatalog
