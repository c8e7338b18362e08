import LinkHygiene.Proofs.Filter.Strip
import LinkHygiene.Proofs.Rule.Settled
import LinkHygiene.Resolve.Basic

/-!
# URLs at rest

A URL is at rest when the store removes nothing from it and the rule for it, if there is
one, hands it on as it is. With settled rules every URL is at rest that has passed its
rule and the store.
-/

namespace LinkHygiene

namespace Resolver

variable {r : Resolver} {u : Url}

def cleaned (r : Resolver) (u : Url) : Url :=
  match r.lookup with
  | none => u
  | some lookup => u.clean lookup

theorem clean_fst (r : Resolver) (t : Trace) (u : Url) : (r.clean t u).1 = r.cleaned u := by
  unfold clean cleaned
  cases r.lookup <;> rfl

/-! ## Cleaning again -/

theorem exists_removed (r : Resolver) (host : Option String) (path : String) :
    ∃ removed, ∀ u : Url, u.hostText? = host → u.pathText = path →
      r.cleaned u = u.without removed := by
  cases hlookup : r.lookup with
  | none =>
      refine ⟨fun _ => false, fun u _ _ => ?_⟩
      simp [cleaned, hlookup, Url.without_nothing]
  | some lookup =>
      cases host with
      | none =>
          refine ⟨fun _ => false, fun u hhost _ => ?_⟩
          simp [cleaned, hlookup, Url.clean_of_hostText?_eq_none hhost, Url.without_nothing]
      | some host =>
          cases hrules : lookup (Candidates.ofHost host) with
          | error e =>
              refine ⟨fun _ => false, fun u hhost _ => ?_⟩
              simp [cleaned, hlookup, Url.clean_of_lookup_error hhost hrules, Url.without_nothing]
          | ok rules =>
              refine ⟨ParamRules.removes rules path, fun u hhost hpath => ?_⟩
              simp [cleaned, hlookup, Url.clean_of_lookup hhost hrules, hpath]

theorem cleaned_of_isPlain (hanchored : u.Anchored) (hplain : u.isPlain = true) (r : Resolver) :
    r.cleaned u = u := by
  have hhost : u.hostText? = none := by
    simp [Url.hostText?, Url.host?, hanchored hplain]
  unfold cleaned
  cases r.lookup with
  | none => rfl
  | some lookup => exact Url.clean_of_hostText?_eq_none hhost lookup

theorem exists_cleaned_eq (hanchored : u.Anchored) (r : Resolver) :
    ∃ removed, r.cleaned u = u.without removed ∧
      (r.cleaned u).hostText? = u.hostText? ∧ (r.cleaned u).pathText = u.pathText := by
  obtain ⟨removed, hremoved⟩ := exists_removed r u.hostText? u.pathText
  have hcleaned := hremoved u rfl rfl
  refine ⟨removed, hcleaned, ?_, ?_⟩
  · rw [hcleaned, Url.hostText?_without]
  · cases hplain : u.isPlain with
    | true => rw [cleaned_of_isPlain hanchored hplain]
    | false => rw [hcleaned, Url.pathText_without hplain]

theorem cleaned_cleaned (r : Resolver) (u : Url) : r.cleaned (r.cleaned u) = r.cleaned u := by
  unfold cleaned
  cases r.lookup with
  | none => rfl
  | some lookup => exact Url.clean_clean u lookup

theorem ruleFor?_congr (r : Resolver) {v : Url} (hhost : v.hostText? = u.hostText?)
    (hpath : v.pathText = u.pathText) : r.ruleFor? v = r.ruleFor? u := by
  rw [ruleFor?, ruleFor?, hhost, hpath]

/-! ## Rest -/

/-- Whether the store removes nothing from a URL, and its rule hands it on as it is. -/
def Resting (r : Resolver) (v : Url) : Prop :=
  r.cleaned v = v ∧
    ∀ rule, r.ruleFor? v = some rule → ∀ t link, r.useRule t link v rule = r.finish t v

theorem useRule_of_rewriting {rule : Rule} {w : Rewriting}
    (h : rule.action.rewriting? = some w) (r : Resolver) (t : Trace) (link : String) (u : Url) :
    r.useRule t link u rule = r.finish t (w.apply u) := by
  have happly := Rule.apply_of_rewriting h u
  unfold useRule
  cases haction : rule.action <;> simp_all [RuleAction.rewriting?]

theorem useRule_of_paramExtract {rule : Rule} {param : String}
    (h : rule.action = .paramExtract param) (hparam : u.firstParam? param = none)
    (r : Resolver) (t : Trace) (link : String) :
    r.useRule t link u rule = r.finish t u := by
  have happly : rule.apply u = u := Rule.apply_of_no_rewriting (by rw [h]; rfl) u
  unfold useRule
  simp [h, hparam, happly]

theorem resting_of_no_rule (hanchored : u.Anchored) (hrule : r.ruleFor? u = none) :
    r.Resting (r.cleaned u) := by
  obtain ⟨_, _, hhost, hpath⟩ := exists_cleaned_eq hanchored r
  refine ⟨cleaned_cleaned r u, ?_⟩
  intro rule hnext
  rw [ruleFor?_congr r hhost hpath, hrule] at hnext
  contradiction

theorem resting_of_paramExtract (hanchored : u.Anchored) {rule : Rule} {param : String}
    (hrule : r.ruleFor? u = some rule) (haction : rule.action = .paramExtract param)
    (hparam : u.firstParam? param = none) : r.Resting (r.cleaned u) := by
  obtain ⟨removed, hcleaned, hhost, hpath⟩ := exists_cleaned_eq hanchored r
  refine ⟨cleaned_cleaned r u, ?_⟩
  intro next hnext t link
  rw [ruleFor?_congr r hhost hpath, hrule] at hnext
  obtain rfl := Option.some.inj hnext
  apply useRule_of_paramExtract haction
  rw [hcleaned]
  exact Url.firstParam?_without hparam removed

theorem exists_host_of_ruleFor? (hsettled : r.registry.settled = true) {rule : Rule}
    (h : r.ruleFor? u = some rule) :
    ∃ host, u.hostText? = some host ∧ r.registry.find? host = some rule := by
  rw [ruleFor?, Option.filter_eq_some_iff] at h
  cases hhost : u.hostText? with
  | none =>
      rw [hhost, Option.getD_none, Registry.find?_empty hsettled] at h
      exact absurd h.1 (by simp)
  | some host =>
      rw [hhost] at h
      exact ⟨host, rfl, h.1⟩

theorem exists_kept (hplain : u.isPlain = false) (w : Rewriting) (r : Resolver) :
    ∃ kept, r.cleaned (w.apply u) = (w.relocate u).setQueryPairs kept ∧
      ∀ pair ∈ kept, w.admits (Text.lowered pair.name) = true := by
  have hbase := Rewriting.isPlain_relocate hplain w
  have hout := Rewriting.isPlain_apply hplain w
  obtain ⟨removed, hcleaned, _⟩ := exists_cleaned_eq (Url.anchored_of_segments hout) r
  refine ⟨_, hcleaned.trans (Url.without_setQueryPairs hbase _ removed), ?_⟩
  intro pair hpair
  exact Rewriting.mem_keepPairs (List.mem_filter.1 hpair).1

/-- A URL that stays on its host keeps its rule, which changes nothing any more. -/
theorem useRule_in_place (hplain : u.isPlain = false) {rule next : Rule} {w : Rewriting}
    (hrule : r.ruleFor? u = some rule) (hw : rule.action.rewriting? = some w)
    (hstays : w.staysOn none = true)
    (hnext : r.ruleFor? (r.cleaned (w.apply u)) = some next) (t : Trace) (link : String) :
    r.useRule t link (r.cleaned (w.apply u)) next = r.finish t (r.cleaned (w.apply u)) := by
  have hon : ∀ (v : Url) h, none = some h →
      Url.takesAsWritten h = true ∧ v.host? = some (.name h) := by
    intro v h hh
    contradiction
  have hrelocate := Rewriting.relocate_of_staysOn hstays hplain (hon u)
  have hout := Rewriting.isPlain_apply hplain w
  obtain ⟨_, _, hhost, hpath⟩ := exists_cleaned_eq (Url.anchored_of_segments hout) r
  rw [Rewriting.apply_eq, hrelocate, Url.hostText?_setQueryPairs] at hhost
  rw [Rewriting.apply_eq, hrelocate, Url.pathText_setQueryPairs hplain] at hpath
  have hsame : next = rule := by
    rw [Rewriting.apply_eq, hrelocate, ruleFor?_congr r hhost hpath, hrule] at hnext
    exact (Option.some.inj hnext).symm
  subst hsame
  obtain ⟨kept, hkept, hadmitted⟩ := exists_kept hplain w r
  rw [useRule_of_rewriting hw, hkept, Rewriting.apply_of_staysOn hstays
    (Rewriting.isPlain_relocate hplain w) (hon _) hadmitted]

/-- A URL that moves to another host finds a rule there that leaves it as it is. -/
theorem useRule_on_target (hplain : u.isPlain = false) {next : Rule} {w : Rewriting}
    {target : String} (hnew : w.newHost = some target)
    (hrests : r.registry.restsAfter w = true)
    (hnext : r.ruleFor? (r.cleaned (w.apply u)) = some next) (t : Trace) (link : String) :
    r.useRule t link (r.cleaned (w.apply u)) next = r.finish t (r.cleaned (w.apply u)) := by
  obtain ⟨kept, hkept, hadmitted⟩ := exists_kept hplain w r
  simp only [Registry.restsAfter, hnew, Bool.and_eq_true] at hrests
  obtain ⟨htakes, hrests⟩ := hrests
  have htarget := Rewriting.host?_relocate_of_newHost hnew htakes hplain
  have hhost : (r.cleaned (w.apply u)).hostText? = some target := by
    rw [hkept, Url.hostText?_setQueryPairs]
    exact Url.hostText?_of_host? htarget
  rw [ruleFor?, hhost, Option.getD_some, Option.filter_eq_some_iff] at hnext
  rw [hnext.1] at hrests
  cases hlater : next.action.rewriting? with
  | none => simp [hlater] at hrests
  | some later =>
      simp only [hlater, Bool.and_eq_true] at hrests
      obtain ⟨hstays, hall⟩ := hrests
      have hon : ∀ h, some target = some h →
          Url.takesAsWritten h = true ∧ (w.relocate u).host? = some (.name h) := by
        intro h hh
        obtain rfl := Option.some.inj hh
        exact ⟨htakes, htarget⟩
      have hlaterAdmits : ∀ pair ∈ kept, later.admits (Text.lowered pair.name) = true := by
        intro pair hpair
        exact Rewriting.admits_of_admitsAllOf hall (hadmitted pair hpair)
      rw [useRule_of_rewriting hlater, hkept, Rewriting.apply_of_staysOn hstays
        (Rewriting.isPlain_relocate hplain w) hon hlaterAdmits]

/-- What settled rules rewrite is at rest after cleaning. -/
theorem resting_of_rewriting (hsettled : r.registry.settled = true) (hanchored : u.Anchored)
    {rule : Rule} {w : Rewriting} (hrule : r.ruleFor? u = some rule)
    (hw : rule.action.rewriting? = some w) : r.Resting (r.cleaned (w.apply u)) := by
  obtain ⟨host, hhost, hfind⟩ := exists_host_of_ruleFor? hsettled hrule
  have hplain := hanchored.isPlain_of_host hhost
  have hout := Rewriting.isPlain_apply hplain w
  have hrests : r.registry.restsAfter w = true := by
    have hsettles := List.all_eq_true.1 hsettled rule (Registry.mem_of_find? hfind)
    simp only [Registry.settles, hw, Option.all_some, Bool.and_eq_true] at hsettles
    exact hsettles.2
  refine ⟨cleaned_cleaned r _, ?_⟩
  intro next hnext t link
  cases hnew : w.newHost with
  | none =>
      have hstays : w.staysOn none = true := by
        simpa [Registry.restsAfter, hnew] using hrests
      exact useRule_in_place hplain hrule hw hstays hnext t link
  | some target => exact useRule_on_target hplain hnew hrests hnext t link

end Resolver

end LinkHygiene
