import LinkHygiene.Filter.Candidates
import LinkHygiene.Filter.TrackingRule
import LinkHygiene.Pattern.Parse
import LinkHygiene.Text.Lines

/-!
# Filter lists

The lines of a filter list as tracking rules. A line is a target, the sign
`$removeparam=`, a parameter and modifiers behind commas:

- `||example.com^$removeparam=id` removes a parameter on one domain;
- `@@||example.com/path$removeparam=id` protects it, below a path;
- `$removeparam=utm_source` removes it everywhere;
- `$removeparam=/^utm_/,domain=a.com|~b.com` removes what a pattern matches on
  some domains and protects it on others.

Comments, headers and all other lines hold no rules.
-/

namespace LinkHygiene

namespace FilterLine

def removeSign : List Char := "$removeparam=".toList

def domainSign : List Char := "domain=".toList

def isComment (line : List Char) : Bool :=
  match line with
  | '!' :: _ => true
  | '[' :: _ => true
  | _ => false

def splitEffect (line : List Char) : Effect × List Char :=
  match line with
  | '@' :: '@' :: rest => (.allow, rest)
  | line => (.remove, line)

/-! ## Parameter and modifiers -/

/-- `splitModifiers` behind a backslash or not, with the current field in reverse. -/
def splitModifiersFrom : (escaped : Bool) → (field : List Char) → List Char →
    List (List Char)
  | _, field, [] => [field.reverse]
  | escaped, field, c :: s =>
      if c = ',' && !escaped then field.reverse :: splitModifiersFrom false [] s
      else splitModifiersFrom (c == '\\') (c :: field) s

/-- The fields between commas that have no backslash before them. -/
def splitModifiers (s : List Char) : List (List Char) :=
  splitModifiersFrom false [] s

def unescapeCommas : List Char → List Char
  | '\\' :: ',' :: s => ',' :: unescapeCommas s
  | c :: s => c :: unescapeCommas s
  | [] => []

def domainList? (modifiers : List (List Char)) : Option (List Char) :=
  modifiers.findSome? fun field => Text.afterPrefix? domainSign (Text.trim field)

/-- Whether a parameter can be used: a pattern has to be one. -/
def isUsable (param : String) : Bool :=
  !param.isEmpty &&
    (!TrackingRule.isSlashed param ||
      (Pattern.ofText? (TrackingRule.unslashed param)).isSome)

/-! ## Targets -/

def isSeparator (c : Char) : Bool :=
  c == '^' || c == '/'

def isPathEnd (c : Char) : Bool :=
  c == '^' || c == '*' || c == '|'

def trimPath (path : List Char) : List Char :=
  (path.reverse.dropWhile isPathEnd).reverse

def splitTarget (target : List Char) : List Char × Option (List Char) :=
  match Text.afterPrefix? ['|', '|'] target with
  | some body =>
      match Text.breakAt isSeparator body with
      | (domain, '/' :: path) => (domain, some ('/' :: path))
      | (domain, _) => (domain, none)
  | none =>
      match Text.breakAt (· == '/') target with
      | (domain, []) => (domain, none)
      | (domain, path) => (domain, some path)

def domainOf (domain : List Char) : String :=
  if domain.isEmpty then Candidates.globalDomain
  else String.ofList (domain.map Text.asciiLower)

def pathOf (path : Option (List Char)) : Option String :=
  match path.map trimPath with
  | none => none
  | some [] => none
  | some path => some (String.ofList path)

/-! ## Lines -/

/-- The rule for one entry of a list of domains; a tilde protects. -/
def entryRule? (rule : TrackingRule) (entry : List Char) : Option TrackingRule :=
  match entry with
  | [] => none
  | ['~'] => none
  | '~' :: excluded => some { rule with domain := String.ofList excluded, effect := .allow }
  | domain => some { rule with domain := String.ofList domain }

def rulesOf (effect : Effect) (target modifiers : List Char) : List TrackingRule :=
  let fields := splitModifiers modifiers
  let param := String.ofList (unescapeCommas (Text.trim (fields.headD [])))
  if isUsable param then
    let (domain, path) := splitTarget (Text.trim target)
    let rule : TrackingRule :=
      { domain := domainOf domain, path := pathOf path, param, effect
        isRegex := TrackingRule.isSlashed param }
    match domainList? fields.tail with
    | some list =>
        ((Text.splitOn '|' list).map Text.trim).filterMap (entryRule? rule)
    | none => [rule]
  else []

def parse (line : List Char) : List TrackingRule :=
  let line := Text.trim line
  if isComment line then []
  else
    let (effect, line) := splitEffect line
    match Text.cut? removeSign line with
    | none => []
    | some (target, modifiers) => rulesOf effect target modifiers

end FilterLine

/-- The rules of a filter list, in order; equal ones are kept. -/
def parseFilterList (text : String) : List TrackingRule :=
  (Text.lines text.toList).flatMap FilterLine.parse

end LinkHygiene
