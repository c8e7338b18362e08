import LinkHygiene.Text.Split

/-!
# Arguments

What the program is asked to do. Arguments that start with a dash are options;
a dash alone is a value, and after two dashes everything is a value. The first
argument that cannot be understood ends the reading, and so does a call for help.
-/

namespace LinkHygiene

/-- Where the rules of the store come from. -/
inductive ListSource where
  | download
  | file (path : String)
  /-- Downloads that are repeated for as long as the program runs. -/
  | repeated
deriving Repr, DecidableEq

inductive Command where
  | clean (links : List String)
  | text (message : String)
  | updateRules (source : ListSource)
  | matchHost (host : String)
  | toggle (current raw param : String)
deriving Repr, DecidableEq

structure Invocation where
  command : Command
  /-- Whether the store is left alone. -/
  noStore : Bool
deriving Repr, DecidableEq

inductive Refusal where
  | help
  | misuse
deriving Repr, DecidableEq

/-! ## Options and values -/

structure Grammar where
  /-- Options that stand for themselves. -/
  flags : List String
  /-- Options that are followed by a value. -/
  settings : List String
  /-- How many values there may be; `none` for any number. -/
  maxValues : Option Nat

structure Arguments where
  flags : List String := []
  settings : List (String × String) := []
  /-- The values in reverse. -/
  values : List String := []

namespace Arguments

def isOption (argument : String) : Bool :=
  argument.toList.head? == some '-' && argument != "-"

def isHelp (argument : String) : Bool :=
  argument == "--help" || argument.toList.take 2 == ['-', 'h']

def splitOption (argument : String) : String × Option String :=
  match Text.cut? ['='] argument.toList with
  | none => (argument, none)
  | some (name, value) => (String.ofList name, some (String.ofList value))

def addFlag (a : Arguments) (name : String) : Except Refusal Arguments :=
  if a.flags.contains name then .error .misuse else .ok { a with flags := name :: a.flags }

def addSetting (a : Arguments) (name value : String) : Except Refusal Arguments :=
  if value.isEmpty || a.settings.any (·.1 == name) then .error .misuse
  else .ok { a with settings := (name, value) :: a.settings }

def addValue (g : Grammar) (a : Arguments) (value : String) : Except Refusal Arguments :=
  if g.maxValues.any (· ≤ a.values.length) then .error .misuse
  else .ok { a with values := value :: a.values }

/-- Reads arguments behind those that are understood already. -/
def read (g : Grammar) : (a : Arguments) → List String → Except Refusal Arguments
  | a, [] => .ok a
  | a, "--" :: values => values.foldlM (addValue g) a
  | a, argument :: rest =>
      if !isOption argument then do
        read g (← a.addValue g argument) rest
      else if isHelp argument then .error .help
      else
        match splitOption argument with
        | (name, none) =>
            if g.flags.contains name then do
              read g (← a.addFlag name) rest
            else if g.settings.contains name then
              match rest with
              | value :: rest =>
                  if isOption value then .error .misuse
                  else do
                    read g (← a.addSetting name value) rest
              | [] => .error .misuse
            else .error .misuse
        | (name, some value) =>
            if g.settings.contains name then do
              read g (← a.addSetting name value) rest
            else .error .misuse

end Arguments

/-! ## Commands -/

namespace Command

def names : List String :=
  ["clean", "text", "update-rules", "match", "toggle", "help"]

def noStoreFlag : String := "--no-db"

def watchFlag : String := "--watch"

def fileSetting : String := "--from-file"

def grammar? : String → Option Grammar
  | "clean" => some ⟨[noStoreFlag], [], none⟩
  | "text" => some ⟨[noStoreFlag], [], some 1⟩
  | "update-rules" => some ⟨[noStoreFlag, watchFlag], [fileSetting], some 0⟩
  | "match" => some ⟨[noStoreFlag], [], some 1⟩
  | "toggle" => some ⟨[noStoreFlag], [], some 3⟩
  | _ => none

/-- The command that a name and its arguments give; `none` if something is missing. -/
def ofArguments? (name : String) (a : Arguments) : Option Command :=
  match name, a.values.reverse with
  | "clean", link :: links => some (.clean (link :: links))
  | "text", [message] => some (.text message)
  | "match", [host] => some (.matchHost host)
  | "toggle", [current, raw, param] => some (.toggle current raw param)
  | "update-rules", [] =>
      match a.flags.contains watchFlag, a.settings.find? (·.1 == fileSetting) with
      | false, none => some (.updateRules .download)
      | false, some (_, path) => some (.updateRules (.file path))
      | true, none => some (.updateRules .repeated)
      | true, some _ => none
  | _, _ => none

end Command

namespace Invocation

def ofCommand (noStore : Bool) (name : String) (arguments : List String) :
    Except Refusal Invocation :=
  match Command.grammar? name with
  | none => .error .misuse
  | some grammar => do
      let a ← Arguments.read grammar {} arguments
      match Command.ofArguments? name a with
      | none => .error .misuse
      | some command => .ok ⟨command, noStore || a.flags.contains Command.noStoreFlag⟩

/-- What is asked for when help is: perhaps a command that help is wanted for. -/
def readHelp : List String → Refusal
  | [] => .help
  | [name] => if Command.names.contains name then .help else .misuse
  | _ => .misuse

def ofArguments : (arguments : List String) → Except Refusal Invocation
  | [] => .error .misuse
  | argument :: rest =>
      if argument = "help" then .error (readHelp rest)
      else if Arguments.isHelp argument then .error .help
      else if argument = Command.noStoreFlag then
        match rest with
        | [] => .error .misuse
        | name :: arguments =>
            if name = "help" then .error (readHelp arguments)
            else if Arguments.isHelp name then .error .help
            else ofCommand true name arguments
      else ofCommand false argument rest

end Invocation

end LinkHygiene
