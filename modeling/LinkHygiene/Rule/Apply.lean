import LinkHygiene.Pattern.Template
import LinkHygiene.Rule.Basic
import LinkHygiene.Url.Edit

/-!
# Applying rules

What a rule makes of a URL: another host, an edited path, renamed and chosen
parameters. Rules that only tell where to go on leave the URL as it is.
-/

namespace LinkHygiene

namespace Policy

/-- A path after all edits, each of which sees what the one before has made. -/
def editPath (p : Policy) (path : String) : String :=
  String.ofList (p.pathEdits.foldl
    (fun path edit => edit.pattern.replaceFirst edit.replacement path) path.toList)

/-- The parameters that stay, under their new names. -/
def keepPairs (p : Policy) (unlisted : Bool) (pairs : List Form.Pair) : List Form.Pair :=
  pairs.filterMap fun pair =>
    let name := p.effectiveKey pair.name
    if p.retains name unlisted then some { pair with name } else none

end Policy

namespace Url

def editPath (u : Url) (p : Policy) : Url :=
  if p.pathEdits.isEmpty then u else u.setPath (p.editPath u.pathText)

/-- The URL on another host, if one is given and can be set. -/
def moveTo (u : Url) (host : Option String) : Url :=
  match host with
  | none => u
  | some host => (u.setHost? host).getD u

def follow (u : Url) (newHost : Option String) (p : Policy) (unlisted : Bool) : Url :=
  let out := (u.moveTo newHost).editPath p
  out.setQueryPairs (p.keepPairs unlisted out.queryPairs)

end Url

namespace Rule

def apply (r : Rule) (u : Url) : Url :=
  match r.action with
  | .hostReplace newHost policy => u.follow newHost policy true
  | .paramClean policy => u.follow none policy false
  | _ => u

end Rule

end LinkHygiene
