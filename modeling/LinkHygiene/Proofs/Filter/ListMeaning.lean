import LinkHygiene.Proofs.Filter.Coverage
import LinkHygiene.Proofs.Filter.Strip
import LinkHygiene.Proofs.Store.Replacement

/-!
# What a filter list does to links

The way of a rule leads from a line of a list through the rows of the store and the keys
of a host to the parameters of a URL. At its end stands what the list says: a parameter
goes when a rule that covers the host removes it and no such rule protects it. Neither
the batches nor the order in which rows are found leave a trace.
-/

namespace LinkHygiene

open Candidates (Covers ofHost)

/-- Whether a rule has an effect on a parameter of URLs on this host, with this path. -/
def TrackingRule.Concerns (r : TrackingRule) (effect : Effect) (host path param : String) :
    Prop :=
  r.effect = effect ∧ r.appliesTo path = true ∧ Covers r.domain host ∧ r.isAbout param = true

instance (r : TrackingRule) (effect : Effect) (host path param : String) :
    Decidable (r.Concerns effect host path param) :=
  inferInstanceAs (Decidable (_ ∧ _ ∧ _ ∧ _))

/-- Whether a list of rules removes a parameter from URLs on this host, with this path. -/
def ListRemoves (rules : List TrackingRule) (host path param : String) : Prop :=
  (∃ r ∈ rules, r.Concerns .remove host path param) ∧
    ¬ ∃ r ∈ rules, r.Concerns .allow host path param

instance (rules : List TrackingRule) (host path param : String) :
    Decidable (ListRemoves rules host path param) :=
  inferInstanceAs (Decidable (_ ∧ ¬ _))

/-- Of the rules of a list, those that are found for a host have the effect of all. -/
theorem any_acts_filter_iff {rules : List TrackingRule} {effect : Effect}
    {host path param : String} :
    (rules.filter fun rule => (ofHost host).contains rule.domain).any
        (·.acts effect path param) = true ↔
      ∃ r ∈ rules, r.Concerns effect host path param := by
  rw [List.any_eq_true]
  constructor
  · rintro ⟨r, hmem, hacts⟩
    rw [List.mem_filter, List.contains_iff_mem, Candidates.mem_ofHost_iff] at hmem
    simp only [TrackingRule.acts, Bool.and_eq_true, beq_iff_eq] at hacts
    exact ⟨r, hmem.1, hacts.1.1, hacts.1.2, hmem.2, hacts.2⟩
  · rintro ⟨r, hmem, heffect, hpath, hcovers, habout⟩
    refine ⟨r, ?_, ?_⟩
    · rw [List.mem_filter, List.contains_iff_mem, Candidates.mem_ofHost_iff]
      exact ⟨hmem, hcovers⟩
    · simp [TrackingRule.acts, heffect, hpath, habout]

theorem removes_filter_eq (rules : List TrackingRule) (host path param : String) :
    ParamRules.removes (rules.filter fun rule => (ofHost host).contains rule.domain) path param =
      decide (ListRemoves rules host path param) := by
  rw [Bool.eq_iff_iff, decide_eq_true_iff, ListRemoves, ParamRules.removes, Bool.and_eq_true,
    Bool.not_eq_true', ← Bool.not_eq_true, any_acts_filter_iff, any_acts_filter_iff]

/-- A lookup that finds the same rules as the store, in whatever order. -/
def FindsAs (lookup : Url.RuleLookup StoreError) (s : Store) : Prop :=
  ∀ domains rules, s.find domains = .ok rules →
    ∃ found, lookup domains = .ok found ∧ found.Perm rules

theorem FindsAs.refl (s : Store) : FindsAs s.find s :=
  fun _ rules h => ⟨rules, h, List.Perm.refl rules⟩

/-- With the rules of a list in the store, cleaning drops what the list removes. -/
theorem clean_of_table {s : Store} {rules : List TrackingRule}
    {lookup : Url.RuleLookup StoreError} {u : Url} {host : String}
    (htable : s.table = some (rules.map Row.ofRule)) (hlookup : FindsAs lookup s)
    (hhost : u.hostText? = some host) :
    u.clean lookup = u.without fun param => decide (ListRemoves rules host u.pathText param) := by
  have hlength : (ofHost host).length ≤ Store.maxBindings :=
    Nat.le_trans (Candidates.length_ofHost_le host) (by decide)
  have hfind := Store.find_of_rules htable (Candidates.ofHost_isEmpty host) hlength
  obtain ⟨found, hfound, hperm⟩ := hlookup _ _ hfind
  rw [Url.clean_of_lookup hhost hfound]
  congr 1
  funext param
  rw [ParamRules.removes_perm hperm, removes_filter_eq]

/--
After a refresh that is reported to have succeeded, cleaning a URL drops exactly the
parameters that the list removes. The others keep their order, names and values, and so
do all other parts of the URL; a URL without such parameters stays as it is. Batches,
earlier contents and the order of the rows that are found make no difference.
-/
theorem clean_after_refresh {s s' : Store} {list : String} {batch count : Nat}
    {lookup : Url.RuleLookup StoreError} {u : Url} {host : String}
    (hreport : s.refreshFromText list batch = (.ok count, s')) (hlookup : FindsAs lookup s')
    (hhost : u.hostText? = some host) :
    let removed := ListRemoves (parseFilterList list) host u.pathText
    let cleaned := u.clean lookup
    cleaned.queryPairs = u.queryPairs.filter (fun pair => !decide (removed pair.name)) ∧
      ((∀ pair ∈ u.queryPairs, ¬ removed pair.name) → cleaned = u) ∧
      (cleaned.scheme = u.scheme ∧ cleaned.authority = u.authority ∧
        cleaned.fragment = u.fragment ∧ (u.isPlain = false → cleaned.path = u.path)) ∧
      ∀ (t t' : Store) (size n : Nat) (lookup' : Url.RuleLookup StoreError),
        t.refreshFromText list size = (.ok n, t') → FindsAs lookup' t' →
          u.clean lookup' = cleaned := by
  intro removed cleaned
  have hclean : cleaned = u.without fun param => decide (removed param) :=
    clean_of_table (Store.refreshFromText_ok hreport).2 hlookup hhost
  refine ⟨?_, ?_, ?_, ?_⟩
  · rw [hclean, Url.queryPairs_without]
  · intro hstays
    rw [hclean]
    apply Url.without_of_forall
    intro pair hpair
    exact decide_eq_false (hstays pair hpair)
  · rw [hclean]
    exact ⟨Url.scheme_without u _, Url.authority_without u _, Url.fragment_without u _,
      fun hplain => Url.path_without hplain _⟩
  · intro t t' size n lookup' hreport' hlookup'
    rw [hclean]
    exact clean_of_table (Store.refreshFromText_ok hreport').2 hlookup' hhost

/-- A list that removes a parameter everywhere but protects it on one host. -/
theorem clean_after_refresh_protected :
    let list := "$removeparam=/^utm_/\n@@||*.shop.example^$removeparam=utm_id"
    let s' : Store := ⟨some [⟨"global", none, "/^utm_/", 0, 1⟩,
      ⟨"*.shop.example", none, "utm_id", 1, 0⟩], []⟩
    let u : Url := ⟨"https", some { host := some (.name "a.shop.example") }, .segments ["i"],
      some "x=1&utm_source=2&UTM_id=3", none⟩
    Store.empty.refreshFromText list 1 = (.ok 2, s') ∧
      (u.clean s'.find).queryPairs = [⟨"x", "1"⟩, ⟨"UTM_id", "3"⟩] := by
  intro list s' u
  have hreport : Store.empty.refreshFromText list 1 = (.ok 2, s') := by decide +kernel
  have hhost : u.hostText? = some "a.shop.example" := by decide +kernel
  refine ⟨hreport, ?_⟩
  rw [(clean_after_refresh hreport (FindsAs.refl s') hhost).1]
  decide +kernel

end LinkHygiene
