import LinkHygiene.Rule.Basic
import LinkHygiene.Rule.Spec
import LinkHygiene.Text.Blank

/-!
# Getting rules ready

A written rule becomes a rule, or it turns out to be in error: it is for no host,
a pattern of it cannot be read, or it lacks the parameter it needs.
-/

namespace LinkHygiene

inductive PatternField where
  | patterns
  | pathPattern
  | pathReplace
  | selector
deriving Repr, DecidableEq

def PatternField.text : PatternField → String
  | patterns => "patterns"
  | pathPattern => "path_pattern"
  | pathReplace => "path_replace"
  | selector => "selector"

inductive RuleError where
  | noTargets (rule : String)
  | missingParamName (rule : String)
  | invalidRegex (rule : String) (field : PatternField) (pattern : String)
  | duplicateHostname (hostname first second : String)
deriving Repr, DecidableEq

namespace RuleError

def quoted (name : String) : String :=
  "\x60" ++ name ++ "\x60"

def message : RuleError → String
  | noTargets rule => "rule " ++ quoted rule ++ " has neither hostnames nor patterns"
  | missingParamName rule =>
      "rule " ++ quoted rule ++ ": param_extract requires a non-empty param_name"
  | invalidRegex rule field pattern =>
      "rule " ++ quoted rule ++ ": invalid " ++ field.text ++ " regex " ++ quoted pattern
  | duplicateHostname hostname first second =>
      "hostname " ++ quoted hostname ++ " is claimed by both " ++ quoted first ++
        " and " ++ quoted second

end RuleError

namespace RuleSpec

def readPattern (rule : String) (field : PatternField) (text : String) :
    Except RuleError Pattern :=
  match Pattern.ofText? text with
  | some pattern => .ok pattern
  | none => .error (.invalidRegex rule field text)

/-- Gives a name a new value, in the place of an older one. -/
def setName (name value : String) : List (String × String) → List (String × String)
  | [] => [(name, value)]
  | (n, v) :: rest =>
      if n = name then (name, value) :: rest else (n, v) :: setName name value rest

/-- The new names by lowercase; of names that coincide then, the greatest counts. -/
def lowerRenames (renames : List (String × String)) : List (String × String) :=
  (sortByName renames).foldl (fun map (old, new) => setName (Text.lowered old) new map) []

def compilePolicy (rule : String) (spec : PolicySpec) : Except RuleError Policy := do
  let pathEdits ← spec.pathEdits.mapM fun edit => do
    let pattern ← readPattern rule .pathReplace edit.pattern
    pure (⟨pattern, edit.replacement⟩ : PathEdit)
  pure { pathEdits, renames := lowerRenames spec.renames
         keep := spec.keep.map fun names => names.map Text.lowered }

def givenHost? (host : Option String) : Option String :=
  host.filter (fun h => !h.isEmpty)

def compileKind (rule : String) : KindSpec → Except RuleError RuleAction
  | .noOp => .ok .noOp
  | .hostReplace newHost policy => do
      pure (.hostReplace (givenHost? newHost) (← compilePolicy rule policy))
  | .paramClean policy => do
      pure (.paramClean (← compilePolicy rule policy))
  | .paramExtract param =>
      if param.isEmpty then .error (.missingParamName rule) else .ok (.paramExtract param)
  | .domExtract none => .ok (.domExtract none)
  | .domExtract (some selector) => do
      pure (.domExtract (some (← readPattern rule .selector selector)))
  | .getRedirect => .ok .getRedirect

/-- Host names without blanks around them, in lowercase; empty ones are left out. -/
def normalHostnames (hostnames : List String) : List String :=
  (hostnames.map fun h => Text.asciiLowered (Text.trimmed h)).filter (fun h => !h.isEmpty)

def compile (s : RuleSpec) : Except RuleError Rule := do
  let name := s.displayName
  if s.hostnames.isEmpty && s.patterns.isEmpty then .error (.noTargets name)
  else
    let patterns ← s.patterns.mapM (readPattern name .patterns)
    let pathPattern ← (match s.pathPattern with
      | none => .ok none
      | some text => some <$> readPattern name .pathPattern text)
    let action ← compileKind name s.kind
    pure { name, hostnames := normalHostnames s.hostnames, patterns, pathPattern, action }

end RuleSpec

end LinkHygiene
