import LinkHygiene.Store.Basic
import LinkHygiene.Text.Split

/-!
# The disk

Folders, text files and stores, by the names of the folders that lead to them. A
path that does not start at the root starts in the working folder.
-/

namespace LinkHygiene

/-- The names that lead from the root to a place. -/
abbrev Place := List String

inductive DiskEntry where
  | folder
  | text (content : String)
  | store (content : Store)
deriving Repr, DecidableEq

structure Disk where
  /-- The folder of the user. -/
  home : Place
  /-- The working folder. -/
  current : Place
  /-- What there is, the latest first. -/
  entries : List (Place × DiskEntry)
deriving Repr, DecidableEq

inductive DiskError where
  | missing
  | taken
  | noFolder
  | isFolder
  | noText
deriving Repr, DecidableEq

namespace DiskError

def message : DiskError → String
  | missing => "No such file or directory (os error 2)"
  | taken => "File exists (os error 17)"
  | noFolder => "Not a directory (os error 20)"
  | isFolder => "Is a directory (os error 21)"
  | noText => "stream did not contain valid UTF-8"

end DiskError

namespace Disk

def entry? (d : Disk) (place : Place) : Option DiskEntry :=
  match place with
  | [] => some .folder
  | place => (d.entries.find? fun entry => entry.1 == place).map (·.2)

def put (d : Disk) (place : Place) (entry : DiskEntry) : Disk :=
  { d with entries := (place, entry) :: d.entries.filter fun other => other.1 != place }

/-! ## Paths -/

/-- The names in a path. Two slashes have an empty name between them. -/
def namesOf (path : String) : List String :=
  (Text.splitOn '/' path.toList).map String.ofList

def start (d : Disk) (path : String) : Place :=
  if path.toList.head? = some '/' then [] else d.current

/-- The place that one more name leads to. Only folders lead on. -/
def enter (d : Disk) (place : Place) (name : String) : Except DiskError Place :=
  match d.entry? place with
  | none => .error .missing
  | some .folder =>
      if name = "" ∨ name = "." then .ok place
      else if name = ".." then .ok place.dropLast
      else .ok (place ++ [name])
  | some _ => .error .noFolder

def place (d : Disk) (path : String) : Except DiskError Place :=
  if path.isEmpty then .error .missing
  else (namesOf path).foldlM d.enter (d.start path)

def readText (d : Disk) (path : String) : Except DiskError String := do
  match d.entry? (← d.place path) with
  | none => .error .missing
  | some .folder => .error .isFolder
  | some (.store _) => .error .noText
  | some (.text content) => .ok content

/-! ## Making folders -/

/-- The folders that lead to a place, the outermost first, and the place itself. -/
def folders (place : Place) : List Place :=
  (List.range place.length).map fun n => place.take (n + 1)

def addFolder (d : Disk) (place : Place) : Disk :=
  match d.entry? place with
  | none => d.put place .folder
  | some _ => d

def addFolders (d : Disk) (place : Place) : Disk :=
  (folders place).foldl addFolder d

/-- The path of the folder that holds what a path names; `none` if it names nothing in a folder. -/
def parent? (path : String) : Option String :=
  let names := (namesOf path).filter fun name => name != "" && name != "."
  let lead := if path.toList.head? = some '/' then "/" else ""
  match names.reverse with
  | [] => none
  | _ :: before => some (lead ++ "/".intercalate before.reverse)

def enterNew (state : Place × Disk) (name : String) : Except DiskError (Place × Disk) := do
  let place ← state.2.enter state.1 name
  pure (place, state.2.addFolder place)

/-- Makes the folder at a path; a file in its place stays. -/
def makeFolder (d : Disk) (path : String) : Except DiskError Disk :=
  if path.isEmpty then .ok d
  else
    match (namesOf path).foldlM enterNew (d.start path, d) with
    | .error e => .error e
    | .ok (place, d) =>
        match d.entry? place with
        | some .folder => .ok d
        | _ => .error .taken

end Disk

end LinkHygiene
