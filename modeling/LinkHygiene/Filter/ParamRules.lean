import LinkHygiene.Filter.TrackingRule
import LinkHygiene.Pattern.Parse
import LinkHygiene.Text.Lowercase

/-!
# Verdicts on parameters

The rules that hold for one path, sorted by what they do and by how they name
their parameters. Names are compared in lowercase, patterns see the name as it
is, and protection wins over removal.
-/

namespace LinkHygiene

structure ParamRules where
  /-- Lowercase names of parameters to remove, and of parameters to protect. -/
  removed : List String := []
  kept : List String := []
  removedBy : List Pattern := []
  keptBy : List Pattern := []

namespace ParamRules

def addName (r : ParamRules) (effect : Effect) (name : String) : ParamRules :=
  match effect with
  | .remove => { r with removed := name :: r.removed }
  | .allow => { r with kept := name :: r.kept }

def addPattern (r : ParamRules) (effect : Effect) (pattern : Pattern) : ParamRules :=
  match effect with
  | .remove => { r with removedBy := pattern :: r.removedBy }
  | .allow => { r with keptBy := pattern :: r.keptBy }

/-- Sorts in one rule. What is stored as a pattern and is none is left out. -/
def add (path : String) (r : ParamRules) (rule : TrackingRule) : ParamRules :=
  if rule.appliesTo path then
    if rule.isRegex then
      match Pattern.ofText? rule.regexBody with
      | some pattern => r.addPattern rule.effect pattern
      | none => r
    else r.addName rule.effect (Text.lowered rule.param)
  else r

def collect (path : String) (rules : List TrackingRule) : ParamRules :=
  rules.foldl (add path) {}

def hasRemovals (r : ParamRules) : Bool :=
  !r.removed.isEmpty || !r.removedBy.isEmpty

def isProtected (r : ParamRules) (param : String) : Bool :=
  r.kept.contains (Text.lowered param) || r.keptBy.any (·.isMatch param)

def shouldRemove (r : ParamRules) (param : String) : Bool :=
  !r.isProtected param &&
    (r.removed.contains (Text.lowered param) || r.removedBy.any (·.isMatch param))

end ParamRules

end LinkHygiene
