import LinkHygiene.Proofs.Filter.Strip
import LinkHygiene.Proofs.Text.Split
import LinkHygiene.Proofs.Url.Shape

/-!
# What a list of rules removes

A parameter is removable when a rule for the path that removes matches it and no rule for
the path that protects does. Stripping takes out the removable parameters and nothing
else, and it does nothing at all where there are none. So it sees a list of rules only as
the set of those that can be used.
-/

namespace LinkHygiene

namespace TrackingRule

def IsFor (r : TrackingRule) (path : String) : Prop :=
  ∀ lead, r.path = some lead → Text.trim lead.toList <+: path.toList

/-- Whether a rule matches a name, as a text without case or as a pattern that can be read. -/
def Matches (r : TrackingRule) (name : String) : Prop :=
  (r.isRegex = false ∧ Text.lowered r.param = Text.lowered name) ∨
    (r.isRegex = true ∧
      ∃ pattern, Pattern.ofText? r.regexBody = some pattern ∧ pattern.isMatch name = true)

/-- Whether a rule is kept as a pattern and is none. -/
def IsMalformed (r : TrackingRule) : Prop :=
  r.isRegex = true ∧ Pattern.ofText? r.regexBody = none

theorem appliesTo_iff {r : TrackingRule} {path : String} :
    r.appliesTo path = true ↔ r.IsFor path := by
  unfold appliesTo IsFor
  cases hpath : r.path with
  | none => simp
  | some lead =>
      rw [Text.startsWith_iff]
      constructor
      · rintro ⟨rest, hrest⟩ _ hlead
        obtain rfl := Option.some.inj hlead
        exact ⟨rest, hrest.symm⟩
      · intro h
        obtain ⟨rest, hrest⟩ := h lead rfl
        exact ⟨rest, hrest.symm⟩

theorem isAbout_iff {r : TrackingRule} {name : String} :
    r.isAbout name = true ↔ r.Matches name := by
  unfold isAbout Matches
  cases hregex : r.isRegex with
  | false => simp
  | true =>
      cases hpattern : Pattern.ofText? r.regexBody with
      | none => simp
      | some pattern => simp

theorem not_isMalformed_of_matches {r : TrackingRule} {name : String} (h : r.Matches name) :
    ¬ r.IsMalformed := by
  rintro ⟨hregex, hnone⟩
  rcases h with ⟨hliteral, _⟩ | ⟨_, pattern, hpattern, _⟩
  · rw [hregex] at hliteral
    contradiction
  · rw [hnone] at hpattern
    contradiction

end TrackingRule

/-- Whether one of the rules has an effect on a parameter of URLs with this path. -/
def Affects (rules : List TrackingRule) (effect : Effect) (path name : String) : Prop :=
  ∃ r ∈ rules, r.effect = effect ∧ r.IsFor path ∧ r.Matches name

/-- Whether a list of rules removes a parameter from URLs with this path. -/
def Removable (rules : List TrackingRule) (path name : String) : Prop :=
  Affects rules .remove path name ∧ ¬ Affects rules .allow path name

theorem any_acts_iff {rules : List TrackingRule} {effect : Effect} {path name : String} :
    rules.any (·.acts effect path name) = true ↔ Affects rules effect path name := by
  simp only [List.any_eq_true, Affects, TrackingRule.acts, Bool.and_eq_true, beq_iff_eq,
    TrackingRule.appliesTo_iff, TrackingRule.isAbout_iff, and_assoc]

theorem removes_iff {rules : List TrackingRule} {path name : String} :
    ParamRules.removes rules path name = true ↔ Removable rules path name := by
  rw [ParamRules.removes, Removable, Bool.and_eq_true, Bool.not_eq_true', ← Bool.not_eq_true,
    any_acts_iff, any_acts_iff]

instance (rules : List TrackingRule) (path name : String) :
    Decidable (Removable rules path name) :=
  decidable_of_iff _ removes_iff

/-- What matters of a list of rules is which rules are in it that can be used. -/
theorem affects_congr {rules rules' : List TrackingRule}
    (h : ∀ r : TrackingRule, ¬ r.IsMalformed → (r ∈ rules' ↔ r ∈ rules)) (effect : Effect)
    (path name : String) : Affects rules' effect path name ↔ Affects rules effect path name := by
  have hmem : ∀ r : TrackingRule, r.Matches name → (r ∈ rules' ↔ r ∈ rules) :=
    fun r hmatches => h r (TrackingRule.not_isMalformed_of_matches hmatches)
  constructor
  · rintro ⟨r, hr, heffect, hpath, hmatches⟩
    exact ⟨r, (hmem r hmatches).1 hr, heffect, hpath, hmatches⟩
  · rintro ⟨r, hr, heffect, hpath, hmatches⟩
    exact ⟨r, (hmem r hmatches).2 hr, heffect, hpath, hmatches⟩

namespace Url

theorem strip?_eq_none_iff {u : Url} {rules : List TrackingRule} :
    u.strip? rules = none ↔ ∀ pair ∈ u.queryPairs, ¬ Removable rules u.pathText pair.name := by
  rw [strip?_eq]
  split
  · rename_i hany
    obtain ⟨pair, hpair, hremoved⟩ := List.any_eq_true.1 hany
    constructor
    · intro h
      contradiction
    · intro hstays
      exact absurd (removes_iff.1 hremoved) (hstays pair hpair)
  · rename_i hany
    refine ⟨fun _ pair hpair hremoved => hany ?_, fun _ => rfl⟩
    exact List.any_eq_true.2 ⟨pair, hpair, removes_iff.2 hremoved⟩

theorem eq_of_strip? {u v : Url} {rules : List TrackingRule} (h : u.strip? rules = some v) :
    v = u.setQueryPairs
      (u.queryPairs.filter fun pair => !decide (Removable rules u.pathText pair.name)) := by
  have hverdict : ∀ name, ParamRules.removes rules u.pathText name =
      decide (Removable rules u.pathText name) := by
    intro name
    rw [Bool.eq_iff_iff, decide_eq_true_iff, removes_iff]
  rw [strip?_eq] at h
  split at h
  · simpa only [hverdict] using (Option.some.inj h).symm
  · contradiction

/-- Nothing is stripped without a query, without rules, or without a rule that removes. -/
theorem strip?_eq_none {u : Url} {rules : List TrackingRule}
    (h : u.query = none ∨ ∀ r ∈ rules, r.effect ≠ .remove) : u.strip? rules = none := by
  rw [strip?_eq_none_iff]
  rintro pair hpair ⟨⟨r, hr, heffect, _⟩, _⟩
  rcases h with hquery | hrules
  · rw [queryPairs_of_isNone (by simp [hquery])] at hpair
    exact List.not_mem_nil hpair
  · exact hrules r hr heffect

theorem strip?_congr {u : Url} {rules rules' : List TrackingRule}
    (h : ∀ r : TrackingRule, ¬ r.IsMalformed → (r ∈ rules' ↔ r ∈ rules)) :
    u.strip? rules' = u.strip? rules := by
  have hverdict : ParamRules.removes rules' u.pathText = ParamRules.removes rules u.pathText := by
    funext name
    rw [Bool.eq_iff_iff, removes_iff, removes_iff, Removable, Removable, affects_congr h,
      affects_congr h]
  rw [strip?_eq, strip?_eq, hverdict]

/--
Stripping a URL with a host does nothing exactly when none of its parameters is removable,
which is so without a query, without rules and without rules that remove. Otherwise the
removable parameters are gone, the others are there in their order, and no other part of
the URL has changed. Lists that hold the same rules, in whatever order and number, and
whatever rules besides that cannot be used, do the same.
-/
theorem strip?_exactly {u : Url} (hanchored : u.Anchored) {host : String}
    (hhost : u.hostText? = some host) (rules : List TrackingRule) :
    (u.strip? rules = none ↔ ∀ pair ∈ u.queryPairs, ¬ Removable rules u.pathText pair.name) ∧
      (u.query = none ∨ rules = [] ∨ (∀ r ∈ rules, r.effect ≠ .remove) →
        u.strip? rules = none) ∧
      (∀ v, u.strip? rules = some v →
        v.queryPairs = u.queryPairs.filter
            (fun pair => !decide (Removable rules u.pathText pair.name)) ∧
          v.scheme = u.scheme ∧ v.authority = u.authority ∧ v.path = u.path ∧
          v.fragment = u.fragment) ∧
      ∀ rules' : List TrackingRule,
        (∀ r : TrackingRule, ¬ r.IsMalformed → (r ∈ rules' ↔ r ∈ rules)) →
          u.strip? rules' = u.strip? rules := by
  refine ⟨strip?_eq_none_iff, ?_, ?_, ?_⟩
  · rintro (hquery | hrules | hrules)
    · exact strip?_eq_none (.inl hquery)
    · exact strip?_eq_none (.inr (by simp [hrules]))
    · exact strip?_eq_none (.inr hrules)
  · intro v hv
    rw [eq_of_strip? hv]
    exact ⟨queryPairs_setQueryPairs u _, scheme_setQueryPairs u _, authority_setQueryPairs u _,
      path_setQueryPairs (hanchored.isPlain_of_host hhost) _, fragment_setQueryPairs u _⟩
  · intro rules' hsame
    exact strip?_congr hsame

/-- A name, a pattern, a path, a protected parameter and a pattern that cannot be read. -/
theorem strip?_exactly_shop :
    let u : Url := ⟨"https", some ⟨"me", "", some (.name "a.example"), some 8080⟩,
      .segments ["shop", "x"], some "Ref=1&id=&utm_a=2&UTM_B=3&id=4", some "top"⟩
    let rules : List TrackingRule :=
      [⟨"global", some " /shop ", "REF", .remove, false⟩,
        ⟨"global", none, "/^utm_/", .remove, true⟩,
        ⟨"global", some "/blog", "id", .remove, false⟩]
    let more : List TrackingRule := ⟨"global", none, "/(id/", .remove, true⟩ :: rules.reverse
    (∃ v, u.strip? rules = some v ∧ v.queryPairs = [⟨"id", ""⟩, ⟨"UTM_B", "3"⟩, ⟨"id", "4"⟩] ∧
      v.authority = u.authority ∧ v.path = u.path ∧ v.fragment = u.fragment) ∧
    u.strip? more = u.strip? rules := by
  intro u rules more
  have hhost : u.hostText? = some "a.example" := by decide +kernel
  obtain ⟨hnone, _, hsome, hsame⟩ := strip?_exactly (anchored_of_segments rfl) hhost rules
  have hremoved : ∃ pair ∈ u.queryPairs, Removable rules u.pathText pair.name := by
    decide +kernel
  constructor
  · cases hv : u.strip? rules with
    | none =>
        obtain ⟨pair, hpair, hremovable⟩ := hremoved
        exact absurd hremovable (hnone.1 hv pair hpair)
    | some v =>
        obtain ⟨hpairs, _, hauthority, hpath, hfragment⟩ := hsome v hv
        refine ⟨v, rfl, ?_, hauthority, hpath, hfragment⟩
        rw [hpairs]
        decide +kernel
  · apply hsame
    intro r hr
    have hmalformed : TrackingRule.IsMalformed ⟨"global", none, "/(id/", .remove, true⟩ :=
      ⟨rfl, by decide +kernel⟩
    simp only [more, List.mem_cons, List.mem_reverse]
    constructor
    · rintro (rfl | hmem)
      · exact absurd hmalformed hr
      · exact hmem
    · exact .inr

end Url

end LinkHygiene
