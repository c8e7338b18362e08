import LinkHygiene.Filter.TrackingRule

/-!
# Rows

Tracking rules as the store keeps them: effects and switches are numbers.
-/

namespace LinkHygiene

structure Row where
  domain : String
  path : Option String
  param : String
  effect : Int
  isRegex : Int
deriving Repr, DecidableEq

namespace Row

def ofRule (r : TrackingRule) : Row :=
  ⟨r.domain, r.path, r.param, r.effect.code, if r.isRegex then 1 else 0⟩

def rule (row : Row) : TrackingRule :=
  { domain := row.domain, path := row.path, param := row.param
    effect := Effect.ofCode row.effect, isRegex := row.isRegex != 0 }

@[simp] theorem rule_ofRule (r : TrackingRule) : (ofRule r).rule = r := by
  cases r with
  | mk domain path param effect isRegex => cases isRegex <;> simp [ofRule, rule]

/-- How many values one row binds in a statement. -/
def bindings : Nat := 5

end Row

end LinkHygiene
