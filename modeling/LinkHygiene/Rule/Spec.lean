import LinkHygiene.Document.Datum

/-!
# Rules as they are written

A rule names the hosts it is for and what it does with their links. This module
holds the written form, in which patterns are texts, and reads it off a table.
Fields that a kind of rule does not have may hold anything.
-/

namespace LinkHygiene

structure PathEditSpec where
  pattern : String
  replacement : String
deriving Repr, DecidableEq

structure PolicySpec where
  pathEdits : List PathEditSpec := []
  /-- New names of parameters, in the order of the old ones. -/
  renames : List (String × String) := []
  /-- The parameters to keep; without a list the kind of the rule decides. -/
  keep : Option (List String) := none
deriving Repr, DecidableEq

inductive KindSpec where
  | noOp
  | hostReplace (newHost : Option String) (policy : PolicySpec)
  | paramClean (policy : PolicySpec)
  | paramExtract (param : String)
  | domExtract (selector : Option String)
  | getRedirect
deriving Repr, DecidableEq

structure RuleSpec where
  name : Option String := none
  hostnames : List String := []
  patterns : List String := []
  pathPattern : Option String := none
  kind : KindSpec
deriving Repr, DecidableEq

namespace RuleSpec

def unnamed : String := "unnamed"

/-- The name of a rule, or else its first host name or its first pattern. -/
def displayName (s : RuleSpec) : String :=
  ((s.name.or s.hostnames.head?).or s.patterns.head?).getD unnamed

end RuleSpec

/-! ## Reading tables -/

/-- Puts an entry in its place by name; a name occurs once. -/
def insertByName (entry : String × String) : List (String × String) → List (String × String)
  | [] => [entry]
  | e :: rest =>
      if entry.1 < e.1 then entry :: e :: rest
      else if entry.1 = e.1 then entry :: rest
      else e :: insertByName entry rest

def sortByName (entries : List (String × String)) : List (String × String) :=
  entries.foldl (fun sorted entry => insertByName entry sorted) []

namespace PathEditSpec

def ofDatum? : Datum → Option PathEditSpec
  | .table fields => do
      pure ⟨← Datum.required fields "match" Datum.text?,
        ← Datum.required fields "replace" Datum.text?⟩
  | .list [.text pattern, .text replacement] => some ⟨pattern, replacement⟩
  | _ => none

end PathEditSpec

namespace PolicySpec

def ofFields? (fields : List (String × Datum)) : Option PolicySpec := do
  let pathEdits ← Datum.fieldOr fields "path_replace"
    (fun d => d.list?.bind fun items => items.mapM PathEditSpec.ofDatum?) []
  let renames ← Datum.fieldOr fields "param_map" Datum.textTable? []
  let keep ← Datum.optional fields "keep_params" Datum.texts?
  pure ⟨pathEdits, sortByName renames, keep⟩

end PolicySpec

namespace KindSpec

def kindNames : List String :=
  ["no_op", "host_replace", "param_clean", "param_extract", "dom_extract", "get_redirect"]

/-- The name of a kind, which a notation may also give as its number. -/
def kindName? : Datum → Option String
  | .text name => some name
  | .natural index => kindNames[index]?
  | _ => none

def ofFields? (fields : List (String × Datum)) : Option KindSpec := do
  let name ← Datum.required fields "type" kindName?
  match name with
  | "no_op" => pure .noOp
  | "host_replace" =>
      let newHost ← Datum.optional fields "new_host" Datum.text?
      pure (.hostReplace newHost (← PolicySpec.ofFields? fields))
  | "param_clean" => pure (.paramClean (← PolicySpec.ofFields? fields))
  | "param_extract" => pure (.paramExtract (← Datum.required fields "param_name" Datum.text?))
  | "dom_extract" => pure (.domExtract (← Datum.optional fields "selector" Datum.text?))
  | "get_redirect" => pure .getRedirect
  | _ => none

end KindSpec

namespace RuleSpec

def ofDatum? (d : Datum) : Option RuleSpec := do
  let fields ← d.table?
  pure {
    name := ← Datum.optional fields "name" Datum.text?
    hostnames := ← Datum.fieldOr fields "hostnames" Datum.texts? []
    patterns := ← Datum.fieldOr fields "patterns" Datum.texts? []
    pathPattern := ← Datum.optional fields "path_pattern" Datum.text?
    kind := ← KindSpec.ofFields? fields }

def listOfDatum? (d : Datum) : Option (List RuleSpec) := do
  (← d.list?).mapM ofDatum?

end RuleSpec

end LinkHygiene
