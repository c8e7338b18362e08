import LinkHygiene.Proofs.Filter.Meaning

/-!
# Rules in their lists

The rules for a path are sorted into four lists, by what they do and by how they name their
parameters. A rule is put into the one list for its kind and leaves the others alone; only
what is kept as a pattern and is none gets lost. So without such rules each list holds what
the rules of its kind have put in, and nothing else.
-/

namespace LinkHygiene

namespace ParamRules

/-! ## Lists and entries -/

inductive Bucket where
  | names (effect : Effect)
  | patterns (effect : Effect)
deriving Repr, DecidableEq

/-- What a rule puts into a list. -/
inductive Entry where
  | name (lowered : String)
  | pattern (pattern : Pattern)

/-- The list for a rule. -/
def bucketOf (rule : TrackingRule) : Bucket :=
  if rule.isRegex then .patterns rule.effect else .names rule.effect

/-- What a rule puts into its list, unless it is kept as a pattern and is none. -/
def entry? (rule : TrackingRule) : Option Entry :=
  if rule.isRegex then (Pattern.ofText? rule.regexBody).map .pattern
  else some (.name (Text.lowered rule.param))

/-- What a list holds, the latest entry first. -/
def entries (r : ParamRules) : Bucket → List Entry
  | .names .remove => r.removed.map .name
  | .names .allow => r.kept.map .name
  | .patterns .remove => r.removedBy.map .pattern
  | .patterns .allow => r.keptBy.map .pattern

/-- The rules for a path that belong into a list. -/
def sortedInto (path : String) (b : Bucket) (rules : List TrackingRule) : List TrackingRule :=
  rules.filter fun rule => rule.appliesTo path && bucketOf rule == b

theorem entry?_eq_none_iff {rule : TrackingRule} : entry? rule = none ↔ rule.IsMalformed := by
  unfold entry? TrackingRule.IsMalformed
  cases rule.isRegex with
  | false => simp
  | true => simp

theorem entries_empty (b : Bucket) : entries {} b = [] := by
  rcases b with (_ | _) | (_ | _) <;> rfl

/-! ## One rule -/

theorem add_of_not_appliesTo {path : String} {rule : TrackingRule}
    (h : ¬ rule.appliesTo path = true) (r : ParamRules) : r.add path rule = r := by
  rw [add, if_neg h]

theorem add_of_entry?_eq_none {rule : TrackingRule} (h : entry? rule = none) (path : String)
    (r : ParamRules) : r.add path rule = r := by
  obtain ⟨hregex, hnone⟩ := entry?_eq_none_iff.1 h
  by_cases happlies : rule.appliesTo path = true
  · rw [add, if_pos happlies, if_pos hregex, hnone]
  · exact add_of_not_appliesTo happlies r

theorem entries_addName (r : ParamRules) (effect : Effect) (name : String) (b : Bucket) :
    (r.addName effect name).entries b =
      if b = .names effect then .name name :: r.entries b else r.entries b := by
  cases effect <;> rcases b with (_ | _) | (_ | _) <;> rfl

theorem entries_addPattern (r : ParamRules) (effect : Effect) (pattern : Pattern) (b : Bucket) :
    (r.addPattern effect pattern).entries b =
      if b = .patterns effect then .pattern pattern :: r.entries b else r.entries b := by
  cases effect <;> rcases b with (_ | _) | (_ | _) <;> rfl

/-- A rule for the path puts its entry into its own list and into no other. -/
theorem entries_add {path : String} {rule : TrackingRule} {entry : Entry}
    (happlies : rule.appliesTo path = true) (h : entry? rule = some entry) (r : ParamRules)
    (b : Bucket) :
    (r.add path rule).entries b =
      if b = bucketOf rule then entry :: r.entries b else r.entries b := by
  unfold entry? at h
  unfold add bucketOf
  rw [if_pos happlies]
  by_cases hregex : rule.isRegex = true
  · rw [if_pos hregex] at h
    obtain ⟨pattern, hpattern, rfl⟩ := Option.map_eq_some_iff.1 h
    simp only [if_pos hregex, hpattern]
    exact entries_addPattern r rule.effect pattern b
  · rw [if_neg hregex] at h
    obtain rfl := Option.some.inj h
    simp only [if_neg hregex]
    exact entries_addName r rule.effect _ b

/-! ## All rules -/

theorem entries_foldl (path : String) (r : ParamRules) (rules : List TrackingRule) (b : Bucket) :
    (rules.foldl (add path) r).entries b =
      ((sortedInto path b rules).filterMap entry?).reverse ++ r.entries b := by
  induction rules generalizing r with
  | nil => rfl
  | cons rule rules ih =>
      have hcons : sortedInto path b (rule :: rules) =
          if rule.appliesTo path && bucketOf rule == b then rule :: sortedInto path b rules
          else sortedInto path b rules := List.filter_cons
      rw [List.foldl_cons, ih, hcons]
      by_cases happlies : rule.appliesTo path = true
      · cases hentry : entry? rule with
        | none =>
            rw [add_of_entry?_eq_none hentry]
            split <;> simp [hentry]
        | some entry =>
            rw [entries_add happlies hentry]
            by_cases hbucket : b = bucketOf rule
            · simp [happlies, hbucket, hentry]
            · have hother : ¬ bucketOf rule = b := fun h => hbucket h.symm
              simp [hbucket, hother]
      · rw [add_of_not_appliesTo happlies]
        simp [happlies]

theorem map_some_filterMap {α β : Type} {f : α → Option β} {items : List α}
    (h : ∀ item ∈ items, f item ≠ none) : (items.filterMap f).map some = items.map f := by
  induction items with
  | nil => rfl
  | cons item items ih =>
      have hrest := ih fun other hother => h other (List.mem_cons_of_mem item hother)
      cases hitem : f item with
      | none => exact absurd hitem (h item List.mem_cons_self)
      | some value => simp [hitem, hrest]

/-- Each list holds one entry for each rule of its kind for the path, the last rule first. -/
theorem entries_collect {rules : List TrackingRule} (h : ∀ rule ∈ rules, ¬ rule.IsMalformed)
    (path : String) (b : Bucket) :
    ((collect path rules).entries b).map some =
      ((sortedInto path b rules).map entry?).reverse := by
  have hsome : ∀ rule ∈ sortedInto path b rules, entry? rule ≠ none := by
    intro rule hrule hnone
    exact h rule (List.mem_filter.1 hrule).1 (entry?_eq_none_iff.1 hnone)
  rw [collect, entries_foldl, entries_empty, List.append_nil, List.map_reverse,
    map_some_filterMap hsome]

end ParamRules

end LinkHygiene
