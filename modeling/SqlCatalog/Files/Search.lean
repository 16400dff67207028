-- SUMMARY: Finding the files that a path pattern describes.
import SqlCatalog.Files
import SqlCatalog.Files.Pattern

/-!
# Searching

A path pattern has one pattern per component. Components without wildcards are
looked up by name; the others are matched against the names in a directory,
taken in order, with what lies below a directory at the place of its name.
-/

namespace SqlCatalog.Search

variable {m : Type → Type} [Monad m]

def isDirectory (disk : Disk m) (path : String) : m Bool := do
  return (← disk.kind? path) = some .directory

def sortedNames (disk : Disk m) (path : String) : m (List String) := do
  return (← disk.names path).mergeSort (fun a b => a ≤ b)

/-- The path of an entry; entries of the current directory go by their name alone. -/
def entryPath (path name : String) : String :=
  if Path.isCurrent path then name else Path.join path name

/-- A path whose name is to match `p`, when `rest` are the patterns after it. -/
def matchName (below : List Pattern → String → m (List String)) (p : Pattern)
    (rest : List Pattern) (name path : String) : m (List String) :=
  if p.accepts name.toList then
    match rest with
    | [] => return [path]
    | _ => below rest path
  else return []

/-- Of several recursive patterns in a row the last one says it all. -/
def collapse : List Pattern → List Pattern
  | p :: q :: rest =>
    if p.isRecursive ∧ q.isRecursive then collapse (q :: rest) else p :: q :: rest
  | ps => ps

/-- What is found at one entry of a directory. A recursive pattern leaves the entry to
the pattern after it, and goes on below it. -/
def visit (disk : Disk m) (below : List Pattern → String → m (List String))
    (patterns : List Pattern) (name path : String) : m (List String) := do
  match collapse patterns with
  | [] => return []
  | p :: rest =>
    if p.isRecursive then
      let nested ← isDirectory disk path
      let own ← match rest with
        | [] => pure (if nested then [path] else [])
        | q :: after => matchName below q after name path
      let inner ← if nested then below (p :: rest) path else pure []
      return own ++ inner
    else matchName below p rest name path

/-- `.` and `..` only match a pattern that starts with a dot. -/
def specialNames (p : Pattern) : List String :=
  if p.head? = some (.char '.') then
    ["..", "."].filter fun name => p.accepts name.toList
  else []

/-- Everything below `path` that the patterns describe, at most `depth` steps away. -/
def below (disk : Disk m) : Nat → List Pattern → String → m (List String)
  | 0, _, _ => return []
  | _ + 1, [], path => return [path]
  | depth + 1, p :: rest, path => do
    let nested ← isDirectory disk path
    match p.literal? with
    | some chars =>
      let name := String.ofList chars
      let next := entryPath path name
      let known := (← disk.kind? next).isSome
      let found := if name = "." ∨ name = ".." then nested else known
      if found then below disk depth rest next else return []
    | none =>
      if nested then
        let special ← (specialNames p).mapM fun name => below disk depth rest (Path.join path name)
        let names ← sortedNames disk path
        let found ← names.mapM fun name =>
          visit disk (below disk depth) (p :: rest) name (entryPath path name)
        return special.flatten ++ found.flatten
      else return []

/-- A bound on the steps of a search: paths are shorter than this. -/
def maxDepth : Nat := 8192

/-- The paths that a path pattern describes; `none` when it is no pattern. -/
def expand (disk : Disk m) (text : String) : m (Option (List String)) := do
  let relative := text.toList.dropWhile (fun c => c = '/')
  match Pattern.ofText? text,
      ((Text.splitAt '/' relative).map String.ofList).mapM Pattern.ofText? with
  | some _, some patterns =>
    return some (← below disk maxDepth patterns (if Path.isAbsolute text then "/" else "."))
  | _, _ => return none

end SqlCatalog.Search
