import LinkHygiene.Command.Arguments
import LinkHygiene.Command.Setup
import LinkHygiene.Message.Clean
import LinkHygiene.Message.Compare
import LinkHygiene.Resolve.Basic
import LinkHygiene.Store.Refresh

/-!
# Commands

What the commands print, and what they leave on the disk.
-/

namespace LinkHygiene

structure Output where
  code : Nat
  out : String
  err : String
deriving Repr, DecidableEq

namespace Output

def lines (texts : List String) : String :=
  String.join (texts.map (· ++ "\n"))

def done (texts : List String) : Output :=
  ⟨0, lines texts, ""⟩

/-- The end of a command that failed after it had printed something. -/
def failed (texts : List String) (message : String) : Output :=
  ⟨1, lines texts, lines ["linkclean error: " ++ message]⟩

def usage : String :=
  "Usage: linkclean [--no-db] <clean|text|update-rules|match|toggle> ..."

def refused : Refusal → Output
  | .help => done [usage]
  | .misuse => ⟨2, "", lines [usage]⟩

end Output

def Report.line : Report → String
  | .ok count => "\x7b\"count\":" ++ toString count ++ ",\"status\":\"ok\"\x7d"
  | .skipped message =>
      "\x7b\"message\":" ++ Quoted.json message ++ ",\"status\":\"skipped\"\x7d"
  | .error message =>
      "\x7b\"message\":" ++ Quoted.json message ++ ",\"status\":\"error\"\x7d"

namespace Command

/-! ## Cleaning -/

/-- What may be taken back, if a single link was cleaned and has changed. -/
def restorable : (links cleaned : List String) → List String
  | [raw], [out] => if Message.isChanged raw out then Message.restorableParams raw out else []
  | _, _ => []

def cleanOutput (resolve : String → String) (links : List String) : Output :=
  let cleaned := Message.cleanLinks resolve links
  match restorable links cleaned with
  | [] => .done cleaned
  | params =>
      { Output.done cleaned with
        err := Output.lines ["restorable parameters: " ++ ", ".intercalate params] }

def textOutput (resolve : String → String) (message : String) : Output :=
  if (Message.extractLinks message).isEmpty then
    { Output.done [message] with err := Output.lines ["No links found."] }
  else .done [Message.cleanText resolve message]

/-! ## Rules -/

def column (word : String) : String :=
  word ++ String.ofList (List.replicate (10 - word.length) ' ') ++ " "

def matchOutput (registry : Registry) (host : String) : Output :=
  match registry.find? host with
  | none =>
      .done ["No rule for " ++ host ++ " (" ++ toString registry.size ++ " rules loaded)."]
  | some rule =>
      .done ((column "RULE" ++ rule.name) :: (column "TYPE" ++ rule.action.kindText) ::
        (rule.pathPattern.map fun pattern => column "PATH" ++ pattern.source).toList)

def toggleOutput (current raw param : String) : Output :=
  match Message.toggleParam current raw param with
  | .ok link => .done [link]
  | .error e => .failed [] e.message

/-! ## Refreshing -/

def download (t : Transport) (config : Config) : Except String String :=
  (t.download config.filterListUrl).mapError FetchError.message

def reportOutput (report : Report) : Output :=
  match report with
  | .error message => .failed [report.line] ("rule update failed: " ++ message)
  | _ => .done [report.line]

/-- What is printed before refreshes that are repeated. -/
def announcement (config : Config) : String :=
  "Refreshing " ++ config.filterListUrl ++ " every " ++ toString config.refreshHours ++
    "h (Ctrl-C to stop)."

/-- Refreshes a store; refreshes that are repeated begin with one. -/
def refreshOutput (t : Transport) (d : Disk) (config : Config) (store : Store)
    (source : ListSource) : Output × Store :=
  match source with
  | .download =>
      let (report, store) := store.refresh (download t config) config.insertBatch
      (reportOutput report, store)
  | .repeated =>
      let (_, store) := store.refresh (download t config) config.insertBatch
      (.done [announcement config], store)
  | .file path =>
      match d.readText path with
      | .error cause =>
          (.failed [] ("read filter list " ++ path ++ ": " ++ cause.message), store)
      | .ok list =>
          let (report, store) := store.refreshFromText list config.insertBatch
          (reportOutput report, store)

/-! ## Commands with what they need -/

/-- What links are resolved with; the store is opened unless it is left alone. -/
def withResolver (t : Transport) (d : Disk) (config : Config) (noStore : Bool)
    (next : (String → String) → Output) : Output × Disk :=
  match d.registry config with
  | .error e => (.failed [] e.message, d)
  | .ok registry =>
      let network := Network.ofTransport t config.fetchOptions.pageReadLimit
      if noStore then (next (Resolver.resolve ⟨registry, none, network⟩), d)
      else
        match d.openStore (d.storePath config) with
        | (.error e, d) => (.failed [] e.message, d)
        | (.ok store, d) => (next (Resolver.resolve ⟨registry, some store.find, network⟩), d)

def refreshStore (t : Transport) (d : Disk) (config : Config) (noStore : Bool)
    (source : ListSource) : Output × Disk :=
  if noStore then (.failed [] "update-rules writes the rule store; drop --no-db", d)
  else
    let path := d.storePath config
    match d.openStore path with
    | (.error e, d) => (.failed [] e.message, d)
    | (.ok store, d) =>
        let (output, store) := refreshOutput t d config store source
        (output, d.keepStore path store)

def run (t : Transport) (d : Disk) (config : Config) (noStore : Bool) :
    Command → Output × Disk
  | clean links => withResolver t d config noStore (cleanOutput · links)
  | text message => withResolver t d config noStore (textOutput · message)
  | updateRules source => refreshStore t d config noStore source
  | matchHost host =>
      match d.registry config with
      | .error e => (.failed [] e.message, d)
      | .ok registry => (matchOutput registry host, d)
  | toggle current raw param => (toggleOutput current raw param, d)

end Command

def runProgram (t : Transport) (d : Disk) (arguments : List String) : Output × Disk :=
  let d := d.addFolders (Place.stateFolder d.home)
  match Invocation.ofArguments arguments with
  | .error refusal => (.refused refusal, d)
  | .ok invocation =>
      match d.loadConfig with
      | (.error e, d) => (.failed [] e.message, d)
      | (.ok config, d) => invocation.command.run t d config invocation.noStore

end LinkHygiene
