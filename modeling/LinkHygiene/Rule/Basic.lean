import LinkHygiene.Pattern.Parse
import LinkHygiene.Text.Lowercase

/-!
# Rules

Rules ready for use: patterns are read, host names and parameter names are in
lowercase. A rule is for the hosts it names, or, if it names none, for the hosts
that one of its patterns matches.
-/

namespace LinkHygiene

/-- A replacement of the first match in a path. -/
structure PathEdit where
  pattern : Pattern
  replacement : String

structure Policy where
  pathEdits : List PathEdit := []
  /-- New names, by the lowercase form of the old ones; each of these occurs once. -/
  renames : List (String × String) := []
  /-- The parameters to keep, in lowercase. No list and an empty list differ. -/
  keep : Option (List String) := none

namespace Policy

def effectiveKey (p : Policy) (key : String) : String :=
  match p.renames.find? (·.1 == Text.lowered key) with
  | some (_, name) => name
  | none => key

/-- Whether a parameter stays; `unlisted` decides when there is no list. -/
def retains (p : Policy) (key : String) (unlisted : Bool) : Bool :=
  match p.keep with
  | some allowed => allowed.contains (Text.lowered key)
  | none => unlisted

end Policy

inductive RuleAction where
  /-- Leaves the link as it is and ends there. -/
  | noOp
  /-- Puts another host in; parameters stay unless a list says otherwise. -/
  | hostReplace (newHost : Option String) (policy : Policy)
  /-- Cleans parameters; none stays unless a list says otherwise. -/
  | paramClean (policy : Policy)
  /-- Goes on with the link that a parameter holds. -/
  | paramExtract (param : String)
  /-- Goes on with the link that the page holds. -/
  | domExtract (selector : Option Pattern)
  /-- Goes on where a plain request is redirected to. -/
  | getRedirect

namespace RuleAction

def kindText : RuleAction → String
  | noOp => "no_op"
  | hostReplace _ _ => "host_replace"
  | paramClean _ => "param_clean"
  | paramExtract _ => "param_extract"
  | domExtract _ => "dom_extract"
  | getRedirect => "get_redirect"

def policy? : RuleAction → Option Policy
  | hostReplace _ policy => some policy
  | paramClean policy => some policy
  | _ => none

end RuleAction

structure Rule where
  name : String
  hostnames : List String
  patterns : List Pattern
  pathPattern : Option Pattern
  action : RuleAction

namespace Rule

def matchesPath (r : Rule) (path : String) : Bool :=
  match r.pathPattern with
  | some pattern => pattern.isMatch path
  | none => true

def matchesHost (r : Rule) (host : String) : Bool :=
  r.patterns.any (·.isMatch host)

def names (r : Rule) (host : String) : Bool :=
  r.hostnames.contains host

/-- Whether a rule that names no host is for this one. -/
def catches (r : Rule) (host : String) : Bool :=
  r.hostnames.isEmpty && r.matchesHost host

end Rule

end LinkHygiene
