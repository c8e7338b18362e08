import LinkHygiene.Text.Quoted
import LinkHygiene.Toml.Parse

/-!
# Settings

What the settings file of the program says. Settings that are not given have
defaults, and fields that are no settings do not count.
-/

namespace LinkHygiene

structure Config where
  /-- Where the filter list is downloaded from. -/
  filterListUrl : String
  /-- How the program introduces itself. -/
  userAgent : String
  /-- Seconds until a probe is given up. -/
  headTimeout : Nat
  /-- Seconds until a plain request is given up. -/
  fetchTimeout : Nat
  /-- Seconds until the download of the filter list is given up. -/
  downloadTimeout : Nat
  /-- How many bytes of a page are read. -/
  pageReadLimit : Nat
  /-- How many rows are inserted at a time. -/
  insertBatch : Nat
  /-- Hours between refreshes of the store. -/
  refreshHours : Nat
  /-- A file with further rules. -/
  extraRules : Option String
  /-- Where the store is kept, if not in its usual place. -/
  storePath : Option String
deriving Repr, DecidableEq

namespace Config

def default : Config where
  filterListUrl :=
    "https://raw.githubusercontent.com/AdguardTeam/FiltersRegistry/master/filters/" ++
    "filter_17_TrackParam/filter.txt"
  userAgent :=
    "Mozilla/5.0 (Macintosh; Intel Mac OS X 10_15_7) AppleWebKit/605.1.15 " ++
    "(KHTML, like Gecko) Version/17.6 Safari/605.1.15 " ++
    "(Bot; +https://github.com/TGBot-LinkCleaner)"
  headTimeout := 6
  fetchTimeout := 8
  downloadTimeout := 60
  pageReadLimit := 128 * 1024
  insertBatch := 100
  refreshHours := 24
  extraRules := none
  storePath := none

/-! ## Reading -/

def optionalField {α : Type} (fields : List (String × Datum)) (name : String)
    (read : Datum → Option α) : Option (Option α) :=
  Datum.fieldOr fields name (fun d => (read d).map some) none

def ofFields? (fields : List (String × Datum)) : Option Config := do
  let text := fun name => Datum.fieldOr fields name Datum.text?
  let count := fun name => Datum.fieldOr fields name Datum.count?
  pure {
    filterListUrl := ← text "filter_list_url" default.filterListUrl
    userAgent := ← text "user_agent" default.userAgent
    headTimeout := ← count "head_timeout_secs" default.headTimeout
    fetchTimeout := ← count "fetch_timeout_secs" default.fetchTimeout
    downloadTimeout := ← count "download_timeout_secs" default.downloadTimeout
    pageReadLimit := ← count "page_read_limit_bytes" default.pageReadLimit
    insertBatch := ← count "insert_batch_size" default.insertBatch
    refreshHours := ← count "refresh_interval_hours" default.refreshHours
    extraRules := ← optionalField fields "extra_rules_path" Datum.text?
    storePath := ← optionalField fields "db_path" Datum.text? }

/-- The settings that a file holds; `none` if the text is no settings file. -/
def parse? (text : String) : Option Config := do
  ofFields? (← Toml.parse? text)

/-! ## Writing -/

def textLine (name value : String) : String :=
  name ++ " = " ++ Quoted.toml value ++ "\n"

def countLine (name : String) (value : Nat) : String :=
  name ++ " = " ++ toString value ++ "\n"

def optionalLine (name : String) : Option String → String
  | some value => textLine name value
  | none => ""

def text (c : Config) : String :=
  textLine "filter_list_url" c.filterListUrl ++
  textLine "user_agent" c.userAgent ++
  countLine "head_timeout_secs" c.headTimeout ++
  countLine "fetch_timeout_secs" c.fetchTimeout ++
  countLine "download_timeout_secs" c.downloadTimeout ++
  countLine "page_read_limit_bytes" c.pageReadLimit ++
  countLine "insert_batch_size" c.insertBatch ++
  countLine "refresh_interval_hours" c.refreshHours ++
  optionalLine "extra_rules_path" c.extraRules ++
  optionalLine "db_path" c.storePath

/-! ## What requests are made with -/

structure FetchOptions where
  userAgent : String
  headTimeout : Nat
  fetchTimeout : Nat
  pageReadLimit : Nat
deriving Repr, DecidableEq

/-- The settings of requests; no time at all would mean no limit, so a second is the least. -/
def fetchOptions (c : Config) : FetchOptions :=
  ⟨c.userAgent, max 1 c.headTimeout, max 1 c.fetchTimeout, c.pageReadLimit⟩

end Config

end LinkHygiene
