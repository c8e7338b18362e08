import LinkHygiene.Proofs.Rule.Targets

/-!
# Which rule a host goes to

Rules can be put into force when each of them compiles and no host is named by two of them.
Where only the latter fails, the error tells of the first rule that names a host which is
taken, of its first such host, and of the rule before it that has taken it. What is in force
then gives every host, in whatever case it is written, to the one rule that names it, or else
to the first rule without host names that has a pattern for it.
-/

namespace LinkHygiene

namespace RuleIndex

variable {rules entered left : List Rule} {ix : RuleIndex} {e : RuleError}

/-! ## The first clash -/

theorem exists_of_addHosts_eq_error {place : Nat} {hosts : List String}
    (h : ix.addHosts rules place hosts = .error e) :
    ∃ passed host behind first, hosts = passed ++ host :: behind ∧
      (∀ other ∈ passed, ∀ p, ix.place? other = some p → p = place) ∧
      ix.place? host = some first ∧ first ≠ place ∧
      e = .duplicateHostname host (nameAt rules first) (nameAt rules place) := by
  induction hosts generalizing ix with
  | nil => cases h
  | cons next hosts ih =>
      unfold addHosts at h
      cases hnext : ix.place? next with
      | some first =>
          simp only [hnext] at h
          split at h
          · rename_i hsame
            obtain ⟨passed, host, behind, taken, rfl, hpassed, hrest⟩ := ih h
            refine ⟨next :: passed, host, behind, taken, rfl, ?_, hrest⟩
            rw [List.forall_mem_cons]
            refine ⟨?_, hpassed⟩
            intro p hp
            rw [← Option.some.inj (hnext.symm.trans hp), hsame]
          · rename_i hother
            exact ⟨[], next, hosts, first, rfl, by simp, hnext, hother,
              (Except.error.inj h).symm⟩
      | none =>
          simp only [hnext] at h
          -- The entry made for `next` leads to `place`: it can neither be the one that
          -- refuses a host nor speak against one that was passed.
          obtain ⟨passed, host, behind, taken, rfl, hpassed, htaken, hother, he⟩ := ih h
          rw [place?_addHost] at htaken
          refine ⟨next :: passed, host, behind, taken, rfl, ?_, ?_, hother, he⟩
          · rw [List.forall_mem_cons]
            constructor
            · intro p hp
              rw [hnext] at hp
              contradiction
            · intro other hmem p hp
              apply hpassed other hmem
              rw [place?_addHost]
              split
              · rename_i hsame
                rw [hsame, hnext] at hp
                contradiction
              · exact hp
          · split at htaken
            · exact absurd (Option.some.inj htaken).symm hother
            · exact htaken

theorem exists_of_addRules_eq_error (h : ix.Holds rules entered)
    (hrules : rules = entered ++ left)
    (herror : addRules rules entered.length left ix = .error e) :
    ∃ (before behind : List Rule) (rule : Rule) (taken : RuleIndex),
      rules = before ++ rule :: behind ∧ taken.Holds rules before ∧
        taken.addHosts rules before.length rule.hostnames = .error e := by
  induction left generalizing entered ix with
  | nil => cases herror
  | cons rule left ih =>
      have hsnoc : rules = entered ++ [rule] ++ left := by simpa using hrules
      have hlength : (entered ++ [rule]).length = entered.length + 1 := by simp
      unfold addRules at herror
      rw [← hlength] at herror
      split at herror
      · rename_i hnone
        exact ih (h.addFallback hrules hnone) hsnoc herror
      · rename_i hsome
        split at herror
        · rename_i hrefused
          rw [Except.error.inj herror] at hrefused
          exact ⟨entered, left, rule, ix, hrules, h, hrefused⟩
        · rename_i hhosts
          exact ih (h.addHosts (by simpa using hsome) hhosts) hsnoc herror

theorem exists_of_ofRules_eq_error (h : ofRules rules = .error e) :
    ∃ (before behind : List Rule) (first second : Rule) (host : String),
      rules = before ++ second :: behind ∧ before.Pairwise Rule.Apart ∧
        second.hostnames.find? (fun other => before.any (·.names other)) = some host ∧
        first ∈ before ∧ first.names host = true ∧
        e = .duplicateHostname host first.name second.name := by
  obtain ⟨before, behind, second, taken, hrules, hholds, hrefused⟩ :=
    exists_of_addRules_eq_error (holds_nil rules) rfl h
  obtain ⟨passed, host, others, place, hhosts, hpassed, hplace, _, he⟩ :=
    exists_of_addHosts_eq_error hrefused
  obtain ⟨first, hfirst, hnamed⟩ := (hholds.place?_eq_some_iff host place).1 hplace
  have hmem : first ∈ before := List.mem_of_getElem? hfirst
  have hfree : ∀ other ∈ passed, before.any (·.names other) = false := by
    intro other hother
    rw [List.any_eq_false]
    intro rule hrule hnames
    obtain ⟨p, hp⟩ := List.mem_iff_getElem?.1 hrule
    have hlt : p < before.length := (List.getElem?_eq_some_iff.1 hp).1
    have hbehind := hpassed other hother p ((hholds.place?_eq_some_iff other p).2 ⟨rule, hp, hnames⟩)
    omega
  have hfirstName : nameAt rules place = first.name := by
    rw [nameAt, hrules, List.getElem?_append_left (List.getElem?_eq_some_iff.1 hfirst).1, hfirst]
    rfl
  have hsecondName : nameAt rules before.length = second.name := by
    simp [nameAt, hrules]
  refine ⟨before, behind, first, second, host, hrules, hholds.pairwise_apart, ?_, hmem, hnamed, ?_⟩
  · rw [List.find?_eq_some_iff_append]
    refine ⟨List.any_eq_true.2 ⟨first, hmem, hnamed⟩, passed, others, hhosts, ?_⟩
    intro other hother
    simp [hfree other hother]
  · rw [he, hfirstName, hsecondName]

end RuleIndex

/-! ## Rules as they are written -/

namespace RuleSpec

/--
Whether a rule, as it is written, names a host. Blanks around a name and its case do not
count, and a blank name names nothing.
-/
def names (s : RuleSpec) (host : String) : Bool :=
  !host.isEmpty && s.hostnames.any (hostForm · == host)

/-- Whether no host is named by both of two rules, as they are written. -/
def Apart (a b : RuleSpec) : Prop :=
  ∀ host, a.names host = true → b.names host = false

/--
The first clash among rules: of those that name a host which an earlier one has taken,
`second` is the first, `host` its first such host, and `first` the rule that has taken it.
-/
def FirstClash (specs : List RuleSpec) (host : String) (first second : RuleSpec) : Prop :=
  ∃ before behind, specs = before ++ second :: behind ∧ before.Pairwise Apart ∧
    (second.hostnames.map hostForm).find? (fun other => before.any (·.names other)) = some host ∧
    first ∈ before ∧ first.names host = true

theorem Readies.names_eq {s : RuleSpec} {r : Rule} (h : s.Readies r) (host : String) :
    r.names host = s.names host := by
  rw [Rule.names, h.hostnames_eq, names, Bool.eq_iff_iff, List.contains_iff_mem, List.mem_filter,
    List.mem_map, Bool.and_eq_true, List.any_eq_true, and_comm]
  simp

section Lists

variable {specs : List RuleSpec} {rules : List Rule}

theorem map_names_eq (h : specs.Forall₂ Readies rules) :
    rules.map Rule.names = specs.map names := by
  induction h with
  | nil => rfl
  | cons hready _ ih => rw [List.map_cons, List.map_cons, ih, funext hready.names_eq]

theorem pairwise_apart_iff (h : specs.Forall₂ Readies rules) :
    rules.Pairwise Rule.Apart ↔ specs.Pairwise Apart := by
  let disjoint := fun a b : String → Bool => ∀ host, a host = true → b host = false
  calc
    rules.Pairwise Rule.Apart ↔ (rules.map Rule.names).Pairwise disjoint :=
      (List.pairwise_map (R := disjoint)).symm
    _ ↔ (specs.map names).Pairwise disjoint := by rw [map_names_eq h]
    _ ↔ specs.Pairwise Apart := List.pairwise_map

theorem any_names_eq (h : specs.Forall₂ Readies rules) (host : String) :
    rules.any (·.names host) = specs.any (·.names host) := by
  have hany := congrArg (List.any · (· host)) (map_names_eq h)
  simpa only [List.any_map, Function.comp_def] using hany

theorem Readies.find?_hostnames {s : RuleSpec} {r : Rule} (hready : s.Readies r)
    (h : specs.Forall₂ Readies rules) :
    r.hostnames.find? (fun other => rules.any (·.names other)) =
      (s.hostnames.map hostForm).find? fun other => specs.any (·.names other) := by
  rw [hready.hostnames_eq, List.find?_filter]
  congr 1
  funext other
  rw [any_names_eq h, Bool.eq_iff_iff, decide_eq_true_iff, and_iff_right_iff_imp,
    List.any_eq_true]
  rintro ⟨taker, _, hnames⟩
  rw [names, Bool.and_eq_true] at hnames
  exact hnames.1

/-- A rule among those that are ready for use has been written at the same place. -/
theorem exists_split_of_readies {before behind : List Rule} {rule : Rule}
    (h : specs.Forall₂ Readies (before ++ rule :: behind)) :
    ∃ before' s behind', specs = before' ++ s :: behind' ∧ before'.Forall₂ Readies before ∧
      s.Readies rule := by
  have hbefore := List.forall₂_take_append _ _ _ h
  obtain ⟨s, behind', hready, _, hdrop⟩ :=
    List.forall₂_cons_right_iff.1 (List.forall₂_drop_append _ _ _ h)
  refine ⟨specs.take before.length, s, behind', ?_, hbefore, hready⟩
  rw [← hdrop, List.take_append_drop]

end Lists

end RuleSpec

namespace Registry

variable {specs : List RuleSpec} {rules : List Rule}

/-- Whether a written rule compiles to another, and what this has of it. -/
def Compiles (s : RuleSpec) (rule : Rule) : Prop :=
  s.compile = .ok rule ∧ s.Readies rule

theorem forall₂_compiles_iff :
    specs.Forall₂ Compiles rules ↔ specs.mapM RuleSpec.compile = .ok rules := by
  rw [mapM_eq_ok_iff]
  constructor
  · exact fun h => h.imp fun _ _ hcompiles => hcompiles.1
  · exact fun h => h.imp fun _ _ hcompile => ⟨hcompile, RuleSpec.readies_of_compile hcompile⟩

theorem exists_compiles_iff :
    (∃ rules, specs.Forall₂ Compiles rules) ↔ ∀ s ∈ specs, ∃ rule, s.compile = .ok rule := by
  constructor
  · rintro ⟨rules, h⟩
    induction h with
    | nil => simp
    | cons hcompiles _ ih => exact List.forall_mem_cons.2 ⟨⟨_, hcompiles.1⟩, ih⟩
  · intro h
    cases hrules : specs.mapM RuleSpec.compile with
    | ok rules => exact ⟨rules, forall₂_compiles_iff.2 hrules⟩
    | error e =>
        obtain ⟨s, hs, herror⟩ := exists_of_mapM_eq_error hrules
        obtain ⟨rule, hrule⟩ := h s hs
        rw [hrule] at herror
        contradiction

theorem ofSpecs_eq_build (h : specs.Forall₂ Compiles rules) : ofSpecs specs = build rules := by
  rw [ofSpecs, forall₂_compiles_iff.1 h]
  rfl

theorem ofRules_of_build_eq_error {e : RuleError} (h : build rules = .error e) :
    RuleIndex.ofRules rules = .error e := by
  unfold build at h
  split at h
  · rename_i herror
    rw [herror, Except.error.inj h]
  · cases h

/-- Rules that compile and cannot be in force together are refused for their first clash. -/
theorem exists_firstClash (h : specs.Forall₂ Compiles rules)
    (hclash : ¬ specs.Pairwise RuleSpec.Apart) :
    ∃ host first second, RuleSpec.FirstClash specs host first second ∧
      ofSpecs specs =
        .error (.duplicateHostname host first.displayName second.displayName) := by
  have hready : specs.Forall₂ RuleSpec.Readies rules := h.imp fun _ _ hcompiles => hcompiles.2
  rw [ofSpecs_eq_build h]
  cases hbuild : build rules with
  | ok r =>
      have hapart := exists_build_iff.1 ⟨r, hbuild⟩
      exact absurd ((RuleSpec.pairwise_apart_iff hready).1 hapart) hclash
  | error e =>
      obtain ⟨before, behind, first, second, host, rfl, hapart, hfind, hmem, hnamed, rfl⟩ :=
        RuleIndex.exists_of_ofRules_eq_error (ofRules_of_build_eq_error hbuild)
      obtain ⟨before', second', behind', rfl, hbefore, hsecond⟩ :=
        RuleSpec.exists_split_of_readies hready
      obtain ⟨ahead, others, rfl⟩ := List.append_of_mem hmem
      obtain ⟨ahead', first', others', rfl, _, hfirst⟩ :=
        RuleSpec.exists_split_of_readies hbefore
      refine ⟨host, first', second', ⟨_, behind', rfl, ?_, ?_, by simp, ?_⟩, ?_⟩
      · exact (RuleSpec.pairwise_apart_iff hbefore).1 hapart
      · rw [← hfind, hsecond.find?_hostnames hbefore]
      · rw [← hfirst.names_eq, hnamed]
      · rw [hfirst.name_eq, hsecond.name_eq]

/-! ## Who gets a host -/

/--
The rule a host goes to: the one that names it, if there is one, and then no other names it;
else the first of those without host names that has a pattern for it, if there is one.
-/
structure GoesTo (rules : List Rule) (host : String) (found : Option Rule) : Prop where
  named : ∀ (i : Nat) (rule : Rule), rules[i]? = some rule → rule.names host = true →
    found = some rule ∧
      ∀ (j : Nat) (other : Rule), rules[j]? = some other → other.names host = true → j = i
  caught : (∀ rule ∈ rules, rule.names host = false) →
    found = rules.find? fun rule =>
      rule.hostnames.isEmpty && rule.patterns.any (·.isMatch host)

theorem goesTo_find? (r : Registry) (host : String) :
    GoesTo r.rules (Text.asciiLowered host) (r.find? host) where
  named i rule hrule hnamed := by
    refine ⟨find?_of_names (List.mem_of_getElem? hrule) hnamed, ?_⟩
    intro j other hother hnames
    have hi := (r.holds.place?_eq_some_iff _ i).2 ⟨rule, hrule, hnamed⟩
    have hj := (r.holds.place?_eq_some_iff _ j).2 ⟨other, hother, hnames⟩
    exact Option.some.inj (hj.symm.trans hi)
  caught hnone := find?_of_not_names hnone

/--
Rules can be put into force exactly when each of them compiles and no host is named by two of
them. If only the latter fails, the error names their first clash. The rules in force are the
written ones in their order, and a host, in whatever case, goes to the rule that names it or
else to the first one without host names that has a pattern for it.
-/
theorem ofSpecs_exactly (specs : List RuleSpec) :
    ((∃ r, ofSpecs specs = .ok r) ↔
      (∀ s ∈ specs, ∃ rule, s.compile = .ok rule) ∧ specs.Pairwise RuleSpec.Apart) ∧
    ((∀ s ∈ specs, ∃ rule, s.compile = .ok rule) → ¬ specs.Pairwise RuleSpec.Apart →
      ∃ host first second, RuleSpec.FirstClash specs host first second ∧
        ofSpecs specs =
          .error (.duplicateHostname host first.displayName second.displayName)) ∧
    ∀ r, ofSpecs specs = .ok r →
      specs.Forall₂ Compiles r.rules ∧
        ∀ host variant, Text.asciiLowered variant = Text.asciiLowered host →
          GoesTo r.rules (Text.asciiLowered host) (r.find? variant) := by
  refine ⟨?_, ?_, ?_⟩
  · rw [← exists_compiles_iff]
    constructor
    · rintro ⟨r, hr⟩
      obtain ⟨hcompiled, hbuild⟩ := ofSpecs_eq_ok_iff.1 hr
      have hcompiles := forall₂_compiles_iff.2 hcompiled
      refine ⟨⟨r.rules, hcompiles⟩, ?_⟩
      apply (RuleSpec.pairwise_apart_iff (hcompiles.imp fun _ _ h => h.2)).1
      exact exists_build_iff.1 ⟨r, hbuild⟩
    · rintro ⟨⟨rules, hcompiles⟩, hapart⟩
      rw [ofSpecs_eq_build hcompiles]
      apply exists_build_iff.2
      exact (RuleSpec.pairwise_apart_iff (hcompiles.imp fun _ _ h => h.2)).2 hapart
  · intro hcompile hclash
    obtain ⟨rules, hcompiles⟩ := exists_compiles_iff.2 hcompile
    exact exists_firstClash hcompiles hclash
  · intro r hr
    refine ⟨forall₂_compiles_iff.2 (ofSpecs_eq_ok_iff.1 hr).1, ?_⟩
    intro host variant hcase
    rw [← hcase]
    exact goesTo_find? r variant

/-- A rule whose second host that is not blank is taken by `shop`. -/
def lateShop : RuleSpec :=
  { name := some "late shop", hostnames := [" ", "late.example", "SHOP.Example ", "shop.example"],
    kind := .noOp }

/-- A clash behind other hosts, and what is found once the rule that clashes is left out. -/
theorem ofSpecs_exactly_shops :
    (∃ first second, RuleSpec.FirstClash [shops, shop, lateShop] "shop.example" first second ∧
      ofSpecs [shops, shop, lateShop] =
        .error (.duplicateHostname "shop.example" "shop" "late shop")) ∧
    ∃ r, ofSpecs [shops, shop] = .ok r ∧
      GoesTo r.rules "shop.example" (r.find? "SHOP.example") ∧
      (r.find? "SHOP.example").any (·.name == "shop") = true := by
  constructor
  · have hcompile : ∀ s ∈ [shops, shop, lateShop], ∃ rule, s.compile = .ok rule := by
      have hall : [shops, shop, lateShop].all (·.compile.toOption.isSome) = true := by
        decide +kernel
      intro s hs
      exact exists_ok_of_isSome (List.all_eq_true.1 hall s hs)
    have hclash : ¬ [shops, shop, lateShop].Pairwise RuleSpec.Apart := by
      intro hapart
      have hboth : (shop.names "shop.example" && lateShop.names "shop.example") = true := by
        decide +kernel
      rw [Bool.and_eq_true] at hboth
      have hlate : lateShop.names "shop.example" = false :=
        (List.pairwise_pair.1 hapart.of_cons) "shop.example" hboth.1
      rw [hlate] at hboth
      exact absurd hboth.2 (by decide)
    obtain ⟨host, first, second, hfirst, herror⟩ :=
      (ofSpecs_exactly [shops, shop, lateShop]).2.1 hcompile hclash
    have htold : (match ofSpecs [shops, shop, lateShop] with
        | .ok _ => none
        | .error e => some e) = some (.duplicateHostname "shop.example" "shop" "late shop") := by
      decide +kernel
    rw [herror] at htold
    obtain ⟨rfl, _, _⟩ := RuleError.duplicateHostname.inj (Option.some.inj htold)
    exact ⟨first, second, hfirst, by rw [herror, Option.some.inj htold]⟩
  · have hfound : ((ofSpecs [shops, shop]).toOption.any fun r =>
        (r.find? "SHOP.example").any (·.name == "shop")) = true := by
      decide +kernel
    obtain ⟨r, hok, hshop⟩ := exists_ok_of_any hfound
    have hlower : Text.asciiLowered "shop.example" = "shop.example" := by decide
    have hgoes := ((ofSpecs_exactly [shops, shop]).2.2 r hok).2 "shop.example" "SHOP.example"
      (by decide)
    rw [hlower] at hgoes
    exact ⟨r, hok, hgoes, hshop⟩

end Registry

end LinkHygiene
