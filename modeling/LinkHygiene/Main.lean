import LinkHygiene.Command.Run
import LinkHygiene.Store.Snapshot

/-!
# The program

Reads what a command needs from the disk, runs the command, and writes down what
it has changed. This build has no way to the network, so nothing is downloaded.
-/

namespace LinkHygiene

namespace Program

def enter (place : Place) (name : String) : Place :=
  if name = "" ∨ name = "." then place
  else if name = ".." then place.dropLast
  else place ++ [name]

/-- The place of a path, by its names alone. -/
def placeOf (start : Place) (path : String) : Place :=
  (Disk.namesOf path).foldl enter start

def loadFile (d : Disk) (path : String) (read : String → DiskEntry) : IO Disk := do
  let place := placeOf (d.start path) path
  match ← (IO.FS.readFile (Place.path place)).toBaseIO with
  | .error _ => pure d
  | .ok content => pure ((d.addFolders place.dropLast).put place (read content))

def storeEntry (content : String) : DiskEntry :=
  match Store.ofFileText? content with
  | some store => .store store
  | none => .text content

def listFile? (arguments : List String) : Option String :=
  match Invocation.ofArguments arguments with
  | .ok ⟨.updateRules (.file path), _⟩ => some path
  | _ => none

/-- The disk as far as a command looks at it. -/
def loadDisk (home current : Place) (arguments : List String) : IO Disk := do
  let d := (Disk.addFolders ⟨home, current, []⟩ home).addFolders current
  let d ← loadFile d (Place.path (Place.configFile home)) .text
  match d.loadConfig with
  | (.error _, _) => pure d
  | (.ok config, _) =>
      let texts := config.extraRules.toList ++ (listFile? arguments).toList
      let d ← texts.foldlM (fun d path => loadFile d path .text) d
      loadFile d (d.storePath config) storeEntry

def writeEntry (place : Place) : DiskEntry → IO Unit
  | .folder => IO.FS.createDirAll (Place.path place)
  | .text content => IO.FS.writeFile (Place.path place) content
  | .store store => IO.FS.writeFile (Place.path place) store.fileText

/-- Writes down what a command has made or changed, the earliest first. -/
def writeDisk (before after : Disk) : IO Unit :=
  after.entries.reverse.forM fun (place, entry) =>
    if before.entry? place = some entry then pure () else writeEntry place entry

def runOnce (home current : Place) (arguments : List String) : IO Output := do
  let before ← loadDisk home current arguments
  let (output, after) := runProgram .unreachable before arguments
  writeDisk before after
  pure output

def interval? (d : Disk) (arguments : List String) : Option Nat :=
  match Invocation.ofArguments arguments, d.loadConfig with
  | .ok ⟨.updateRules .repeated, false⟩, (.ok config, _) => some (max 1 config.refreshHours)
  | _, _ => none

partial def repeatRun (home current : Place) (arguments : List String) (hours : Nat) :
    IO Unit := do
  for _ in [0:hours] do
    IO.sleep 3600000
  let _ ← runOnce home current arguments
  repeatRun home current arguments hours

end Program

end LinkHygiene

open LinkHygiene

def main (arguments : List String) : IO UInt32 := do
  let home := Program.placeOf [] ((← IO.getEnv "HOME").getD "/")
  let current := Program.placeOf [] (toString (← IO.currentDir))
  let output ← Program.runOnce home current arguments
  IO.print output.out
  IO.eprint output.err
  if output.code = 0 then
    let d ← Program.loadDisk home current arguments
    match Program.interval? d arguments with
    | some hours => Program.repeatRun home current arguments hours
    | none => pure ()
  pure output.code.toUInt32
