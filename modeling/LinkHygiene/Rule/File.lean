import LinkHygiene.Rule.Spec
import LinkHygiene.Toml.Parse

/-!
# Rule files

A rule file is a TOML document whose tables `rule` are rules. Other fields do not
count.
-/

namespace LinkHygiene

def parseRuleFile? (text : String) : Option (List RuleSpec) := do
  let fields ← Toml.parse? text
  Datum.fieldOr fields "rule" RuleSpec.listOfDatum? []

end LinkHygiene
