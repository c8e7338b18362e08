import LinkHygiene.Proofs.Filter.Sorting
import LinkHygiene.Proofs.Filter.Written
import LinkHygiene.Proofs.Store.History

/-!
# Rules that can be used

Whatever stands in a line, the rules that it gives can be used as they are: domain and
parameter are not empty, paths begin with a slash, and what stands between slashes is a
pattern that can be read. The rules of a line differ in domain and effect only. So of the
rules that are read back from a store none is lost when they are sorted for a path.
-/

namespace LinkHygiene

namespace TrackingRule

/-! ## Rules as they should be -/

/-- A rule that can be used as it is. -/
structure IsUsable (r : TrackingRule) : Prop where
  domain : r.domain ≠ ""
  param : r.param ≠ ""
  path : ∀ path, r.path = some path → path.toList.head? = some '/'
  isRegex : r.isRegex = true ↔ IsSlashed r.param.toList
  reads : ∀ body, body ≠ [] → r.param.toList = '/' :: (body ++ ['/']) →
    ∃ pattern, Pattern.ofText? (String.ofList body) = some pattern

/-- A rule that is another one for a domain and with an effect of its own. -/
structure IsVariantOf (r template : TrackingRule) : Prop where
  domain : r.domain ≠ ""
  path : r.path = template.path
  param : r.param = template.param
  isRegex : r.isRegex = template.isRegex

theorem isSlashed_iff {param : String} :
    isSlashed param = true ↔ IsSlashed param.toList := by
  have h := WrittenLine.isSlashed_ofList param.toList
  rw [String.ofList_toList] at h
  rw [h, decide_eq_true_iff]

/-- The text between the slashes is what a pattern is read from. -/
theorem unslashed_eq {param : String} {body : List Char} (hbody : body ≠ [])
    (h : param.toList = '/' :: (body ++ ['/'])) : unslashed param = String.ofList body := by
  have hslashed : slashed? param.toList = some body := slashed?_eq_some_iff.2 ⟨hbody, h⟩
  simp only [unslashed, hslashed]

/-- The text that has been checked is the one that is read when a rule is used. -/
theorem IsUsable.not_isMalformed {r : TrackingRule} (h : r.IsUsable) : ¬ r.IsMalformed := by
  rintro ⟨hregex, hnone⟩
  obtain ⟨body, hbody, hparam⟩ := h.isRegex.1 hregex
  obtain ⟨pattern, hpattern⟩ := h.reads body hbody hparam
  rw [regexBody, unslashed_eq hbody hparam, hpattern] at hnone
  contradiction

theorem IsUsable.of_variant {r template : TrackingRule} (h : template.IsUsable)
    (hr : r.IsVariantOf template) : r.IsUsable where
  domain := hr.domain
  param := hr.param ▸ h.param
  path := hr.path ▸ h.path
  isRegex := hr.isRegex ▸ hr.param ▸ h.isRegex
  reads := hr.param ▸ h.reads

end TrackingRule

namespace FilterLine

open TrackingRule (IsUsable IsVariantOf)

/-! ## Targets -/

theorem domainOf_ne_empty (domain : List Char) : domainOf domain ≠ "" := by
  unfold domainOf
  by_cases hempty : domain.isEmpty = true
  · rw [if_pos hempty]
    decide
  · rw [if_neg hempty]
    simpa using hempty

/-- The path of a target is cut off at a slash, and keeps it. -/
theorem head?_of_splitTarget {target path : List Char}
    (h : (splitTarget target).2 = some path) : path.head? = some '/' := by
  unfold splitTarget at h
  split at h
  · split at h
    · obtain rfl := Option.some.inj h
      rfl
    · cases h
  · split at h
    · cases h
    · rename_i domain rest hne hbreak
      obtain rfl := Option.some.inj h
      have hrest : rest = target.dropWhile fun c => !(c == '/') :=
        (congrArg Prod.snd hbreak).symm
      have hstop := List.head?_dropWhile_not (fun c => !(c == '/')) target
      rw [← hrest] at hstop
      cases rest with
      | nil => exact absurd rfl hne
      | cons c rest => simpa using hstop

theorem head?_trimPath {path : List Char} (h : path.head? = some '/') :
    (trimPath path).head? = some '/' := by
  obtain ⟨rest, rfl⟩ := List.head?_eq_some_iff.1 h
  have hslash : isPathEnd '/' = false := by decide
  rw [trimPath, List.reverse_cons, List.dropWhile_append]
  by_cases hempty : (rest.reverse.dropWhile isPathEnd).isEmpty = true
  · rw [if_pos hempty, List.dropWhile_cons_of_neg (by simp [hslash])]
    rfl
  · rw [if_neg hempty, List.reverse_append]
    rfl

theorem head?_of_pathOf {path : Option (List Char)}
    (h : ∀ written, path = some written → written.head? = some '/') {text : String}
    (htext : pathOf path = some text) : text.toList.head? = some '/' := by
  cases path with
  | none => simp [pathOf] at htext
  | some written =>
      have hhead := head?_trimPath (h written rfl)
      unfold pathOf at htext
      rw [Option.map_some] at htext
      split at htext
      · cases htext
      · cases htext
      · rename_i trimmed htrimmed
        obtain rfl := Option.some.inj htext
        rw [Option.some.inj htrimmed] at hhead
        rw [String.toList_ofList]
        exact hhead

/-! ## Parameters -/

theorem ne_empty_of_isUsable {param : String} (h : isUsable param = true) : param ≠ "" := by
  rintro rfl
  simp [isUsable] at h

theorem exists_pattern_of_isUsable {param : String} (h : isUsable param = true)
    {body : List Char} (hbody : body ≠ []) (hparam : param.toList = '/' :: (body ++ ['/'])) :
    ∃ pattern, Pattern.ofText? (String.ofList body) = some pattern := by
  have hslashed : TrackingRule.isSlashed param = true :=
    TrackingRule.isSlashed_iff.2 ⟨body, hbody, hparam⟩
  rw [isUsable, hslashed, TrackingRule.unslashed_eq hbody hparam] at h
  simp only [Bool.not_true, Bool.false_or, Bool.and_eq_true] at h
  exact Option.isSome_iff_exists.1 h.2

/-! ## Lines -/

theorem isVariantOf_of_entryRule? {template r : TrackingRule} {entry : List Char}
    (h : entryRule? template entry = some r) : r.IsVariantOf template := by
  unfold entryRule? at h
  split at h
  · cases h
  · cases h
  · rename_i excluded hne
    obtain rfl := Option.some.inj h
    have hdomain : String.ofList excluded ≠ "" := fun hempty => hne (by simpa using hempty)
    exact ⟨hdomain, rfl, rfl, rfl⟩
  · rename_i hnil _ _
    obtain rfl := Option.some.inj h
    have hdomain : String.ofList entry ≠ "" := fun hempty => hnil (by simpa using hempty)
    exact ⟨hdomain, rfl, rfl, rfl⟩

theorem isUsable_of_parts {param : String} (h : isUsable param = true) (target : List Char)
    (effect : Effect) :
    TrackingRule.IsUsable
      { domain := domainOf (splitTarget target).1, path := pathOf (splitTarget target).2, param,
        effect, isRegex := TrackingRule.isSlashed param } where
  domain := domainOf_ne_empty _
  param := ne_empty_of_isUsable h
  path _ hpath := head?_of_pathOf (fun _ => head?_of_splitTarget) hpath
  isRegex := TrackingRule.isSlashed_iff
  reads _ := exists_pattern_of_isUsable h

/-- All rules of what a line says are variants of one rule that can be used. -/
theorem exists_template_of_rulesOf (effect : Effect) (target modifiers : List Char) :
    rulesOf effect target modifiers = [] ∨
      ∃ template : TrackingRule, template.IsUsable ∧
        ∀ r ∈ rulesOf effect target modifiers, r.IsVariantOf template := by
  unfold rulesOf
  dsimp only
  split
  · rename_i husable
    right
    refine ⟨_, isUsable_of_parts husable (Text.trim target) effect, fun r hr => ?_⟩
    split at hr
    · obtain ⟨entry, _, hentry⟩ := List.mem_filterMap.1 hr
      exact isVariantOf_of_entryRule? hentry
    · obtain rfl := List.mem_singleton.1 hr
      exact ⟨domainOf_ne_empty _, rfl, rfl, rfl⟩
  · exact .inl rfl

theorem exists_template (line : List Char) :
    parse line = [] ∨
      ∃ template : TrackingRule, template.IsUsable ∧ ∀ r ∈ parse line, r.IsVariantOf template := by
  unfold parse
  dsimp only
  split
  · exact .inl rfl
  · split
    · exact .inl rfl
    · exact exists_template_of_rulesOf _ _ _

theorem isUsable_of_mem_parse {line : List Char} {r : TrackingRule} (h : r ∈ parse line) :
    r.IsUsable := by
  rcases exists_template line with hnone | ⟨template, husable, hvariants⟩
  · rw [hnone] at h
    cases h
  · exact husable.of_variant (hvariants r h)

/-- Rules of one line have the same path and the same parameter. -/
theorem eq_of_mem_parse {line : List Char} {r r' : TrackingRule} (h : r ∈ parse line)
    (h' : r' ∈ parse line) :
    r'.param = r.param ∧ r'.isRegex = r.isRegex ∧ r'.path = r.path := by
  rcases exists_template line with hnone | ⟨template, _, hvariants⟩
  · rw [hnone] at h
    cases h
  · have hr := hvariants r h
    have hr' := hvariants r' h'
    exact ⟨hr'.param.trans hr.param.symm, hr'.isRegex.trans hr.isRegex.symm,
      hr'.path.trans hr.path.symm⟩

end FilterLine

/-! ## Lists, and rules that are read back -/

theorem isUsable_of_mem_parseFilterList {text : String} {r : TrackingRule}
    (h : r ∈ parseFilterList text) : r.IsUsable := by
  obtain ⟨line, _, hline⟩ := List.mem_flatMap.1 h
  exact FilterLine.isUsable_of_mem_parse hline

theorem isUsable_of_row {text : String} {row : Row} (h : row ∈ Store.rowsOf text) :
    row.rule.IsUsable := by
  obtain ⟨rule, hrule, rfl⟩ := List.mem_map.1 h
  rw [Row.rule_ofRule]
  exact isUsable_of_mem_parseFilterList hrule

/-- What is looked up after a refresh has been read back from rows of its list. -/
theorem exists_rows_of_find {s next : Store} {text : String} {batch count : Nat}
    (hrefresh : s.refreshFromText text batch = (.ok count, next)) {domains : List String}
    {found : List TrackingRule} (hfind : next.find domains = .ok found) :
    ∃ rows, rows ⊆ Store.rowsOf text ∧ found = rows.map Row.rule := by
  have htable : next.table = some (Store.rowsOf text) := (Store.refreshFromText_ok hrefresh).2
  by_cases hempty : domains.isEmpty = true
  · rw [Store.find, if_pos hempty] at hfind
    obtain rfl := Except.ok.inj hfind
    exact ⟨[], List.nil_subset _, rfl⟩
  · rw [Store.find, if_neg hempty, htable] at hfind
    dsimp only at hfind
    split at hfind
    · cases hfind
    · obtain rfl := Except.ok.inj hfind
      exact ⟨_, List.filter_sublist.subset, rfl⟩

namespace ParamRules

/--
All rules of a line can be used, and they differ in domain and effect only. So of the rules
of a list that are read back from a store, whichever they are, none is a pattern that cannot
be read: each one for the path puts one entry into one of the lists, and these lists hold
nothing else. What is looked up after a refresh is such a choice of rules.
-/
theorem parsed_rules_are_sorted_in :
    (∀ line : String,
      (∀ r ∈ FilterLine.parse line.toList, r.IsUsable) ∧
      ∀ r ∈ FilterLine.parse line.toList, ∀ r' ∈ FilterLine.parse line.toList,
        r'.param = r.param ∧ r'.isRegex = r.isRegex ∧ r'.path = r.path) ∧
    (∀ (text : String) (rows : List Row), rows ⊆ Store.rowsOf text → ∀ path : String,
      let rules := rows.map Row.rule
      (∀ r ∈ rules, ¬ r.IsMalformed) ∧
      (∀ r ∈ rules, r.appliesTo path = true → ∃ entry, ∀ (sorted : ParamRules) (b : Bucket),
        (sorted.add path r).entries b =
          if b = bucketOf r then entry :: sorted.entries b else sorted.entries b) ∧
      ∀ b : Bucket, ((collect path rules).entries b).map some =
        ((sortedInto path b rules).map entry?).reverse) ∧
    ∀ (s next : Store) (text : String) (batch count : Nat),
      s.refreshFromText text batch = (.ok count, next) →
        ∀ domains found, next.find domains = .ok found →
          ∃ rows, rows ⊆ Store.rowsOf text ∧ found = rows.map Row.rule := by
  refine ⟨?_, ?_, ?_⟩
  · intro line
    refine ⟨fun r hr => FilterLine.isUsable_of_mem_parse hr, fun r hr r' hr' => ?_⟩
    exact FilterLine.eq_of_mem_parse hr hr'
  · intro text rows hrows path rules
    have hsound : ∀ r ∈ rules, ¬ r.IsMalformed := by
      intro r hr
      obtain ⟨row, hrow, rfl⟩ := List.mem_map.1 hr
      exact (isUsable_of_row (hrows hrow)).not_isMalformed
    refine ⟨hsound, ?_, entries_collect hsound path⟩
    intro r hr happlies
    obtain ⟨entry, hentry⟩ : ∃ entry, entry? r = some entry :=
      Option.ne_none_iff_exists'.1 fun hnone => hsound r hr (entry?_eq_none_iff.1 hnone)
    exact ⟨entry, entries_add happlies hentry⟩
  · intro s next text batch count hrefresh domains found hfind
    exact exists_rows_of_find hrefresh hfind

end ParamRules

end LinkHygiene
