import LinkHygiene.Filter.ParamRules

/-!
# What verdicts mean

The lists into which rules are sorted give each parameter the verdict that the rules
themselves give it: it is removed when a rule for the path removes it and no rule for
the path protects it. The order of the rules does not matter.
-/

namespace LinkHygiene

namespace TrackingRule

def isAbout (r : TrackingRule) (param : String) : Bool :=
  if r.isRegex then
    match Pattern.ofText? r.regexBody with
    | some pattern => pattern.isMatch param
    | none => false
  else Text.lowered r.param == Text.lowered param

/-- Whether a rule has an effect on a parameter of URLs with this path. -/
def acts (r : TrackingRule) (effect : Effect) (path param : String) : Bool :=
  r.effect == effect && r.appliesTo path && r.isAbout param

end TrackingRule

namespace ParamRules

def removes (rules : List TrackingRule) (path param : String) : Bool :=
  rules.any (·.acts .remove path param) && !rules.any (·.acts .allow path param)

/-- Whether a parameter is among those that rules with an effect have been sorted in for. -/
def lists (r : ParamRules) (param : String) : Effect → Bool
  | .remove => r.removed.contains (Text.lowered param) || r.removedBy.any (·.isMatch param)
  | .allow => r.isProtected param

theorem shouldRemove_eq (r : ParamRules) (param : String) :
    r.shouldRemove param = (!r.lists param .allow && r.lists param .remove) := rfl

theorem lists_add (path : String) (r : ParamRules) (rule : TrackingRule) (param : String)
    (effect : Effect) :
    (r.add path rule).lists param effect =
      (rule.acts effect path param || r.lists param effect) := by
  unfold add TrackingRule.acts TrackingRule.isAbout
  by_cases hpath : rule.appliesTo path = true
  · by_cases hregex : rule.isRegex = true
    · cases hpattern : Pattern.ofText? rule.regexBody with
      | none => simp [hpath, hregex]
      | some pattern =>
          cases hrule : rule.effect <;> cases effect <;>
            simp [hpath, hregex, addPattern, lists, isProtected, Bool.or_left_comm]
    · have hname : (Text.lowered rule.param == Text.lowered param) =
          decide (Text.lowered param = Text.lowered rule.param) := by
        rw [Bool.beq_comm]
        rfl
      cases hrule : rule.effect <;> cases effect <;>
        simp [hpath, hregex, addName, lists, isProtected, hname, Bool.or_assoc]
  · simp [hpath]

theorem lists_foldl (path : String) (r : ParamRules) (rules : List TrackingRule)
    (param : String) (effect : Effect) :
    (rules.foldl (add path) r).lists param effect =
      (rules.any (·.acts effect path param) || r.lists param effect) := by
  induction rules generalizing r with
  | nil => simp
  | cons rule rules ih =>
      rw [List.foldl_cons, ih, lists_add, List.any_cons]
      ac_rfl

/-- The sorted rules give the verdict of the rules themselves. -/
theorem shouldRemove_collect (path : String) (rules : List TrackingRule) (param : String) :
    (collect path rules).shouldRemove param = removes rules path param := by
  have hempty : ∀ effect, lists {} param effect = false := by
    intro effect
    cases effect <;> simp [lists, isProtected]
  rw [shouldRemove_eq, collect, lists_foldl, lists_foldl, hempty, hempty]
  simp [removes, Bool.and_comm]

theorem shouldRemove_of_hasRemovals_eq_false {r : ParamRules} (h : r.hasRemovals = false)
    (param : String) : r.shouldRemove param = false := by
  simp only [hasRemovals, Bool.or_eq_false_iff, Bool.not_eq_false'] at h
  have hremoved : r.removed = [] := List.isEmpty_iff.1 h.1
  have hremovedBy : r.removedBy = [] := List.isEmpty_iff.1 h.2
  simp [shouldRemove, hremoved, hremovedBy]

/-- Verdicts do not depend on the order of the rules. -/
theorem removes_perm {rules rules' : List TrackingRule} (h : rules.Perm rules')
    (path param : String) : removes rules path param = removes rules' path param := by
  simp only [removes]
  rw [h.any_eq, h.any_eq]

end ParamRules

end LinkHygiene
