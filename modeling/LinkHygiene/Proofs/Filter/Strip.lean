import LinkHygiene.Filter.Strip
import LinkHygiene.Proofs.Filter.Verdict
import LinkHygiene.Proofs.Url.Query

/-!
# What stripping leaves

Stripping drops the parameters that the rules remove, and a URL without such
parameters is not touched at all. What it leaves is not changed by stripping again.
-/

namespace LinkHygiene

namespace Url

/-- The URL without the parameters that are removed; itself if there are none. -/
def without (u : Url) (removed : String → Bool) : Url :=
  if u.queryPairs.any (fun pair => removed pair.name) then
    u.setQueryPairs (u.queryPairs.filter fun pair => !removed pair.name)
  else u

theorem without_of_forall {u : Url} {removed : String → Bool}
    (h : ∀ pair ∈ u.queryPairs, removed pair.name = false) : u.without removed = u := by
  have hany : u.queryPairs.any (fun pair => removed pair.name) = false := by
    simpa using h
  simp [without, hany]

theorem without_nothing (u : Url) : u.without (fun _ => false) = u :=
  without_of_forall fun _ _ => rfl

@[simp] theorem queryPairs_without (u : Url) (removed : String → Bool) :
    (u.without removed).queryPairs = u.queryPairs.filter fun pair => !removed pair.name := by
  unfold without
  split
  · exact queryPairs_setQueryPairs u _
  · rename_i hany
    symm
    simpa using hany

@[simp] theorem scheme_without (u : Url) (removed : String → Bool) :
    (u.without removed).scheme = u.scheme := by
  unfold without
  split <;> simp

@[simp] theorem authority_without (u : Url) (removed : String → Bool) :
    (u.without removed).authority = u.authority := by
  unfold without
  split <;> simp

@[simp] theorem fragment_without (u : Url) (removed : String → Bool) :
    (u.without removed).fragment = u.fragment := by
  unfold without
  split <;> simp

@[simp] theorem isPlain_without (u : Url) (removed : String → Bool) :
    (u.without removed).isPlain = u.isPlain := by
  unfold without
  split <;> simp

@[simp] theorem hostText?_without (u : Url) (removed : String → Bool) :
    (u.without removed).hostText? = u.hostText? := by
  unfold without
  split <;> simp

theorem path_without {u : Url} (h : u.isPlain = false) (removed : String → Bool) :
    (u.without removed).path = u.path := by
  unfold without
  split
  · exact path_setQueryPairs h _
  · rfl

theorem pathText_without {u : Url} (h : u.isPlain = false) (removed : String → Bool) :
    (u.without removed).pathText = u.pathText := by
  rw [pathText, path_without h, pathText]

theorem without_setQueryPairs {u : Url} (h : u.isPlain = false) (pairs : List Form.Pair)
    (removed : String → Bool) :
    (u.setQueryPairs pairs).without removed =
      u.setQueryPairs (pairs.filter fun pair => !removed pair.name) := by
  unfold without
  rw [queryPairs_setQueryPairs]
  split
  · rw [setQueryPairs_setQueryPairs h]
  · rename_i hany
    have hstays : pairs.filter (fun pair => !removed pair.name) = pairs := by
      simpa using hany
    rw [hstays]

/-- A parameter that cannot be followed cannot be followed after cleaning either. -/
theorem firstParam?_without {u : Url} {param : String} (h : u.firstParam? param = none)
    (removed : String → Bool) : (u.without removed).firstParam? param = none := by
  unfold firstParam? at h ⊢
  rw [queryPairs_without, List.find?_filter]
  cases hremoved : removed param with
  | true =>
      have hnone : (u.queryPairs.find? fun pair =>
          decide ((!removed pair.name) = true ∧ (pair.name == param) = true)) = none := by
        rw [List.find?_eq_none]
        intro pair _
        simp only [decide_eq_true_eq, not_and, beq_iff_eq]
        intro hstays hname
        rw [hname, hremoved] at hstays
        contradiction
      rw [hnone]
  | false =>
      have hsame : (fun pair : Form.Pair =>
          decide ((!removed pair.name) = true ∧ (pair.name == param) = true)) =
            fun pair => pair.name == param := by
        funext pair
        by_cases hname : pair.name = param
        · simp [hname, hremoved]
        · simp [hname]
      rw [hsame]
      exact h

/-! ## Stripping -/

theorem filter_length_eq_iff {α : Type} (keep : α → Bool) (items : List α) :
    (items.filter keep).length = items.length ↔ items.any (fun item => !keep item) = false := by
  rw [List.length_filter_eq_length_iff]
  simp

theorem strip?_eq (u : Url) (rules : List TrackingRule) :
    u.strip? rules =
      if u.queryPairs.any (fun pair => ParamRules.removes rules u.pathText pair.name) then
        some (u.setQueryPairs
          (u.queryPairs.filter fun pair => !ParamRules.removes rules u.pathText pair.name))
      else none := by
  unfold strip?
  by_cases hnone : (u.query.isNone || rules.isEmpty) = true
  · have hany : u.queryPairs.any
        (fun pair => ParamRules.removes rules u.pathText pair.name) = false := by
      rcases Bool.or_eq_true_iff.1 hnone with hquery | hrules
      · rw [queryPairs_of_isNone hquery]
        rfl
      · simp [List.isEmpty_iff.1 hrules, ParamRules.removes]
    rw [if_pos hnone, hany]
    rfl
  · rw [if_neg hnone]
    dsimp only
    by_cases hremovals : (ParamRules.collect u.pathText rules).hasRemovals = true
    · simp only [if_pos hremovals, ParamRules.shouldRemove_collect, filter_length_eq_iff,
        Bool.not_not]
      by_cases hany : u.queryPairs.any
          (fun pair => ParamRules.removes rules u.pathText pair.name) = true
      · simp [hany]
      · simp [hany]
    · have hverdict : ∀ param, ParamRules.removes rules u.pathText param = false := by
        intro param
        rw [← ParamRules.shouldRemove_collect]
        exact ParamRules.shouldRemove_of_hasRemovals_eq_false (by simpa using hremovals) param
      simp [hremovals, hverdict]

theorem getD_strip? (u : Url) (rules : List TrackingRule) :
    (u.strip? rules).getD u = u.without (ParamRules.removes rules u.pathText) := by
  rw [strip?_eq, without]
  split <;> rfl

theorem clean_of_hostText?_eq_none {ε : Type} {u : Url} (h : u.hostText? = none)
    (lookup : RuleLookup ε) : u.clean lookup = u := by
  simp [clean, h]

/-- A URL with a host is cleaned by the rules that are found for its host. -/
theorem clean_of_lookup {ε : Type} {u : Url} {host : String} {lookup : RuleLookup ε}
    {rules : List TrackingRule} (hhost : u.hostText? = some host)
    (hlookup : lookup (Candidates.ofHost host) = .ok rules) :
    u.clean lookup = u.without (ParamRules.removes rules u.pathText) := by
  unfold clean
  simp only [hhost, hlookup]
  by_cases hquery : u.query.isNone = true
  · rw [if_pos hquery, without_of_forall]
    rw [queryPairs_of_isNone hquery]
    intro pair hpair
    exact absurd hpair List.not_mem_nil
  · rw [if_neg hquery, getD_strip?]

theorem clean_of_lookup_error {ε : Type} {u : Url} {host : String} {lookup : RuleLookup ε}
    {e : ε} (hhost : u.hostText? = some host)
    (hlookup : lookup (Candidates.ofHost host) = .error e) : u.clean lookup = u := by
  simp [clean, hhost, hlookup]

/-! ## Stripping again -/

/-- Whether the rules that are found for its host remove nothing from a URL. -/
def StrippedBy {ε : Type} (u : Url) (lookup : RuleLookup ε) : Prop :=
  ∀ host rules, u.hostText? = some host → lookup (Candidates.ofHost host) = .ok rules →
    u.strip? rules = none

/-- As long as parameters are left, the path stays as it is, of whatever kind it is. -/
theorem pathText_without_of_ne_nil {u : Url} {removed : String → Bool}
    (h : (u.without removed).queryPairs ≠ []) : (u.without removed).pathText = u.pathText := by
  rw [queryPairs_without] at h
  unfold without
  split
  · rw [setQueryPairs_of_ne_nil u h, pathText, pathText]
  · rfl

theorem strip?_without (u : Url) (rules : List TrackingRule) :
    (u.without (ParamRules.removes rules u.pathText)).strip? rules = none := by
  rw [strip?_eq, if_neg]
  rw [List.any_eq_true]
  rintro ⟨pair, hpair, hremoved⟩
  rw [pathText_without_of_ne_nil (List.ne_nil_of_mem hpair)] at hremoved
  rw [queryPairs_without, List.mem_filter] at hpair
  simp [hremoved] at hpair

/-- What cleaning leaves is not stripped any more. -/
theorem strippedBy_clean {ε : Type} (u : Url) (lookup : RuleLookup ε) :
    (u.clean lookup).StrippedBy lookup := by
  intro host rules hhost hrules
  cases hbefore : u.hostText? with
  | none =>
      rw [clean_of_hostText?_eq_none hbefore, hbefore] at hhost
      contradiction
  | some host' =>
      have hsame : (u.clean lookup).hostText? = some host' := by
        cases hlookup : lookup (Candidates.ofHost host') with
        | error e => rw [clean_of_lookup_error hbefore hlookup, hbefore]
        | ok rules' => rw [clean_of_lookup hbefore hlookup, hostText?_without, hbefore]
      obtain rfl := Option.some.inj (hhost.symm.trans hsame)
      rw [clean_of_lookup hbefore hrules]
      exact strip?_without u rules

theorem StrippedBy.clean_eq {ε : Type} {u : Url} {lookup : RuleLookup ε}
    (h : u.StrippedBy lookup) : u.clean lookup = u := by
  unfold clean
  split
  · rfl
  · rename_i host hhost
    split
    · rfl
    · split
      · rfl
      · rename_i rules hrules
        rw [h host rules hhost hrules, Option.getD_none]

/-- Cleaning a URL again changes nothing. -/
theorem clean_clean {ε : Type} (u : Url) (lookup : RuleLookup ε) :
    (u.clean lookup).clean lookup = u.clean lookup :=
  (strippedBy_clean u lookup).clean_eq

end Url

end LinkHygiene
