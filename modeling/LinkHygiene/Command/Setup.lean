import LinkHygiene.Command.Disk
import LinkHygiene.Config
import LinkHygiene.Rule.File
import LinkHygiene.Rule.Shipped

/-!
# Setting up

What a command needs before it can start: the settings, which are written down
when there are none, the rules, and the store.
-/

namespace LinkHygiene

inductive SetupError where
  | settingsUnread (cause : DiskError)
  | settingsUnclear (path : String)
  | rulesUnread (path : String) (cause : DiskError)
  | rulesUnclear (path : String)
  | rulesRefused (cause : RuleError)
  | storeUnplaced (cause : DiskError)
  | storeUnopened (path : String)
  /-- What is kept in the place of the store is something else. -/
  | noStore
deriving Repr, DecidableEq

namespace SetupError

def message : SetupError → String
  | settingsUnread cause => cause.message
  | settingsUnclear path => "parse " ++ path
  | rulesUnread path cause => "read rule file: " ++ path ++ ": " ++ cause.message
  | rulesUnclear path => "parse rule file: " ++ path ++ ": parse rule file"
  | rulesRefused cause => "build rule registry: " ++ cause.message
  | storeUnplaced cause => cause.message
  | storeUnopened path => "open rule database " ++ path ++ ": " ++ StoreError.cause
  | noStore => StoreError.cause

end SetupError

namespace Place

def path (place : Place) : String :=
  "/" ++ "/".intercalate place

def configFolder (home : Place) : Place :=
  home ++ [".config", "linkclean"]

def configFile (home : Place) : Place :=
  configFolder home ++ ["config.toml"]

def stateFolder (home : Place) : Place :=
  home ++ [".local", "state", "linkclean"]

def storeFile (home : Place) : Place :=
  stateFolder home ++ ["rules.db"]

end Place

/-! ## Settings -/

namespace Disk

/-- The settings that are in force, and the disk on which they are written down. -/
def loadConfig (d : Disk) : Except SetupError Config × Disk :=
  let file := Place.configFile d.home
  let d := d.addFolders (Place.configFolder d.home)
  match d.readText (Place.path file) with
  | .error .missing => (.ok .default, d.put file (.text Config.default.text))
  | .error cause => (.error (.settingsUnread cause), d)
  | .ok text =>
      match Config.parse? text with
      | some config => (.ok config, d)
      | none => (.error (.settingsUnclear (Place.path file)), d)

/-! ## Rules -/

def loadRules (d : Disk) (path : String) : Except SetupError (List RuleSpec) :=
  match d.readText path with
  | .error cause => .error (.rulesUnread path cause)
  | .ok text =>
      match parseRuleFile? text with
      | some specs => .ok specs
      | none => .error (.rulesUnclear path)

/-- The rules that the settings add; none if they name no file. -/
def extraRules (d : Disk) (config : Config) : Except SetupError (List RuleSpec) :=
  match config.extraRules with
  | some path => d.loadRules path
  | none => .ok []

def registry (d : Disk) (config : Config) : Except SetupError Registry :=
  match d.extraRules config with
  | .error e => .error e
  | .ok extra => (Registry.withShipped extra).mapError .rulesRefused

/-! ## The store -/

/-- Whether a path names a store that is gone when the program ends. -/
def isTransient (path : String) : Bool :=
  path.isEmpty || path == ":memory:"

def storePath (d : Disk) (config : Config) : String :=
  config.storePath.getD (Place.path (Place.storeFile d.home))

/-- Opens the store at a path, which is made if there is none. -/
def openStore (d : Disk) (path : String) : Except SetupError Store × Disk :=
  if isTransient path then (.ok .empty, d)
  else
    match d.makeFolder ((parent? path).getD "") with
    | .error cause => (.error (.storeUnplaced cause), d)
    | .ok d =>
        match d.place path with
        | .error _ => (.error (.storeUnopened path), d)
        | .ok place =>
            match d.entry? place with
            | none => (.ok .empty, d.put place (.store .empty))
            | some .folder => (.error (.storeUnopened path), d)
            | some (.store store) => (.ok store.reopen, d)
            | some (.text content) =>
                if content.isEmpty then (.ok .empty, d.put place (.store .empty))
                else (.error .noStore, d)

def keepStore (d : Disk) (path : String) (store : Store) : Disk :=
  if isTransient path then d
  else
    match d.place path with
    | .error _ => d
    | .ok place => d.put place (.store store)

end Disk

end LinkHygiene
