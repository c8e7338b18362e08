import LinkHygiene.Filter.Candidates
import LinkHygiene.Filter.ParamRules
import LinkHygiene.Url.Basic

/-!
# Stripping tracking parameters

A URL without the query parameters that tracking rules remove from it. A URL from
which nothing is removed stays exactly as it is written.
-/

namespace LinkHygiene

namespace Url

/-- The URL without the parameters that `rules` remove; `none` if there are none. -/
def strip? (u : Url) (rules : List TrackingRule) : Option Url :=
  if u.query.isNone || rules.isEmpty then none
  else
    let verdicts := ParamRules.collect u.pathText rules
    if verdicts.hasRemovals then
      let pairs := u.queryPairs
      let kept := pairs.filter fun pair => !verdicts.shouldRemove pair.name
      if kept.length = pairs.length then none else some (u.setQueryPairs kept)
    else none

abbrev RuleLookup (ε : Type) := List String → Except ε (List TrackingRule)

/-- The URL without what the stored rules for its host remove; a failing lookup removes nothing. -/
def clean {ε : Type} (u : Url) (lookup : RuleLookup ε) : Url :=
  match u.hostText? with
  | none => u
  | some host =>
      if u.query.isNone then u
      else
        match lookup (Candidates.ofHost host) with
        | .error _ => u
        | .ok rules => (u.strip? rules).getD u

end Url

end LinkHygiene
