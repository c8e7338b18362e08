import LinkHygiene.Proofs.Url.Shape
import LinkHygiene.Rule.Shipped

/-!
# Further rules

Rules can be in force together when no two of them name the same host. Then those of a
first list come before those of a second one, but a rule that names a host comes before all
that only catch it. So further rules leave to the shipped ones the hosts that these name.
-/

namespace LinkHygiene

def Rule.Apart (a b : Rule) : Prop :=
  ∀ host, a.names host = true → b.names host = false

namespace RuleIndex

variable {rules entered left : List Rule} {ix : RuleIndex}

/-! ## When there is an index -/

/-- Hosts can be entered that lead nowhere yet, or to their rule already. -/
theorem exists_addHosts {place : Nat} {hosts : List String}
    (h : ∀ host ∈ hosts, ∀ first, ix.place? host = some first → first = place) :
    ∃ ix', ix.addHosts rules place hosts = .ok ix' := by
  induction hosts generalizing ix with
  | nil => exact ⟨ix, rfl⟩
  | cons next hosts ih =>
      unfold addHosts
      cases hnext : ix.place? next with
      | some first =>
          obtain rfl := h next List.mem_cons_self first hnext
          simp only [if_true]
          exact ih fun host hhost => h host (List.mem_cons_of_mem next hhost)
      | none =>
          apply ih
          intro host hhost first hfirst
          rw [place?_addHost] at hfirst
          split at hfirst
          · exact (Option.some.inj hfirst).symm
          · exact h host (List.mem_cons_of_mem next hhost) first hfirst

theorem exists_addRules (h : ix.Holds rules entered) (hrules : rules = entered ++ left)
    (hapart : rules.Pairwise Rule.Apart) :
    ∃ ix', addRules rules entered.length left ix = .ok ix' := by
  induction left generalizing entered ix with
  | nil => exact ⟨ix, rfl⟩
  | cons rule left ih =>
      have hsnoc : rules = entered ++ [rule] ++ left := by simpa using hrules
      have hlength : (entered ++ [rule]).length = entered.length + 1 := by simp
      unfold addRules
      rw [← hlength]
      by_cases hnone : rule.hostnames.isEmpty = true
      · rw [if_pos hnone]
        exact ih (h.addFallback hrules hnone) hsnoc
      · rw [if_neg hnone]
        have hfree : ∀ host ∈ rule.hostnames, ∀ first,
            ix.place? host = some first → first = entered.length := by
          intro host hhost first hfirst
          obtain ⟨other, hother, hnamed⟩ := (h.place?_eq_some_iff host first).1 hfirst
          rw [hrules, List.pairwise_append] at hapart
          have hfalse := hapart.2.2 other (List.mem_of_getElem? hother) rule
            List.mem_cons_self host hnamed
          rw [Rule.names, List.contains_iff_mem.2 hhost] at hfalse
          contradiction
        obtain ⟨ix', hadd⟩ : ∃ ix', ix.addHosts rules entered.length rule.hostnames = .ok ix' :=
          exists_addHosts hfree
        rw [hadd]
        exact ih (h.addHosts (by simpa using hnone) hadd) hsnoc

theorem Holds.pairwise_apart (h : ix.Holds rules entered) : entered.Pairwise Rule.Apart := by
  rw [List.pairwise_iff_getElem]
  intro i j hi hj hlt host hnamed
  cases hboth : entered[j].names host with
  | false => rfl
  | true =>
      have hfirst := (h.place?_eq_some_iff host i).2 ⟨_, List.getElem?_eq_getElem hi, hnamed⟩
      have hsecond := (h.place?_eq_some_iff host j).2 ⟨_, List.getElem?_eq_getElem hj, hboth⟩
      have hsame : i = j := Option.some.inj (hfirst.symm.trans hsecond)
      omega

end RuleIndex

namespace Registry

/-! ## Registries of parts -/

theorem rules_of_build {rules : List Rule} {r : Registry} (h : build rules = .ok r) :
    r.rules = rules := by
  unfold build at h
  split at h
  · simp at h
  · obtain rfl := Except.ok.inj h
    rfl

/-- Rules can be in force together if no host is named by two of them, and only then. -/
theorem exists_build_iff {rules : List Rule} :
    (∃ r, build rules = .ok r) ↔ rules.Pairwise Rule.Apart := by
  constructor
  · rintro ⟨r, hr⟩
    rw [← rules_of_build hr]
    exact r.holds.pairwise_apart
  · intro hapart
    obtain ⟨ix, hix⟩ := RuleIndex.exists_addRules (RuleIndex.holds_nil rules) rfl hapart
    have hindex : RuleIndex.ofRules rules = .ok ix := hix
    unfold build
    split
    · rename_i herror
      rw [hindex] at herror
      contradiction
    · exact ⟨_, rfl⟩

theorem ofSpecs_eq_ok_iff {specs : List RuleSpec} {r : Registry} :
    ofSpecs specs = .ok r ↔
      specs.mapM RuleSpec.compile = .ok r.rules ∧ build r.rules = .ok r := by
  unfold ofSpecs
  cases hrules : specs.mapM RuleSpec.compile with
  | error e =>
      constructor
      · intro h
        cases h
      · rintro ⟨h, _⟩
        cases h
  | ok rules =>
      constructor
      · intro h
        have hbuild : build rules = .ok r := h
        rw [rules_of_build hbuild]
        exact ⟨rfl, hbuild⟩
      · rintro ⟨h, hbuild⟩
        obtain rfl := Except.ok.inj h
        exact hbuild

/-- What can be in force together can be in force apart. -/
theorem exists_ofSpecs_of_append {first second : List RuleSpec} {joined : Registry}
    (h : ofSpecs (first ++ second) = .ok joined) :
    ∃ a b, ofSpecs first = .ok a ∧ ofSpecs second = .ok b ∧ joined.rules = a.rules ++ b.rules := by
  obtain ⟨hcompiled, hbuild⟩ := ofSpecs_eq_ok_iff.1 h
  have hapart := exists_build_iff.1 ⟨joined, hbuild⟩
  rw [List.mapM_append] at hcompiled
  cases hfirst : first.mapM RuleSpec.compile with
  | error e =>
      rw [hfirst] at hcompiled
      cases hcompiled
  | ok as =>
      cases hsecond : second.mapM RuleSpec.compile with
      | error e =>
          rw [hfirst, hsecond] at hcompiled
          cases hcompiled
      | ok bs =>
          rw [hfirst, hsecond] at hcompiled
          have hrules : as ++ bs = joined.rules := Except.ok.inj hcompiled
          rw [← hrules, List.pairwise_append] at hapart
          obtain ⟨a, ha⟩ := exists_build_iff.2 hapart.1
          obtain ⟨b, hb⟩ := exists_build_iff.2 hapart.2.1
          have hrulesA := rules_of_build ha
          have hrulesB := rules_of_build hb
          refine ⟨a, b, ofSpecs_eq_ok_iff.2 ?_, ofSpecs_eq_ok_iff.2 ?_, ?_⟩
          · rw [hrulesA]
            exact ⟨hfirst, ha⟩
          · rw [hrulesB]
            exact ⟨hsecond, hb⟩
          · rw [hrulesA, hrulesB, hrules]

/-! ## Who gets a host -/

theorem find?_of_names {r : Registry} {host : String} {rule : Rule} (hmem : rule ∈ r.rules)
    (hnamed : rule.names (Text.asciiLowered host) = true) : r.find? host = some rule := by
  obtain ⟨i, hi⟩ := List.mem_iff_getElem?.1 hmem
  have hplace := (r.holds.place?_eq_some_iff _ i).2 ⟨rule, hi, hnamed⟩
  simp [find?, hplace, hi]

theorem find?_of_not_names {r : Registry} {host : String}
    (h : ∀ rule ∈ r.rules, rule.names (Text.asciiLowered host) = false) :
    r.find? host = r.rules.find? (·.catches (Text.asciiLowered host)) := by
  have hnone : r.rules.find? (·.names (Text.asciiLowered host)) = none := by
    rw [List.find?_eq_none]
    intro rule hrule
    simp [h rule hrule]
  rw [find?_eq, hnone, Option.none_or]

/--
How two lists of rules share out a host: the rule of the first list that names it gets it,
then the one of the second list that does, then the first of the first list that catches
it without naming any host, then the first such rule of the second list.
-/
structure SharesOut (first second : List Rule) (host : String) (found : Option Rule) : Prop where
  named : ∀ rule ∈ first, rule.names host = true → found = some rule
  namedBehind : (∀ rule ∈ first, rule.names host = false) →
    ∀ rule ∈ second, rule.names host = true → found = some rule
  caught : (∀ rule ∈ first ++ second, rule.names host = false) →
    found = (first.find? (·.catches host)).or (second.find? (·.catches host))

theorem sharesOut_of_append {r : Registry} {first second : List Rule}
    (h : r.rules = first ++ second) (host : String) :
    SharesOut first second (Text.asciiLowered host) (r.find? host) where
  named rule hrule hnamed := by
    apply find?_of_names _ hnamed
    rw [h]
    exact List.mem_append_left second hrule
  namedBehind _ rule hrule hnamed := by
    apply find?_of_names _ hnamed
    rw [h]
    exact List.mem_append_right first hrule
  caught hnone := by
    rw [← h] at hnone
    rw [find?_of_not_names hnone, h, List.find?_append]

/--
Lists of rules that can be in force together can be in force apart, and together they share
out every host in their order. So whatever rules are added to the shipped ones, a host that
a shipped rule names goes where it goes without them.
-/
theorem further_rules_are_conservative :
    (∀ (first second : List RuleSpec) (joined : Registry),
      ofSpecs (first ++ second) = .ok joined →
        ∃ a b, ofSpecs first = .ok a ∧ ofSpecs second = .ok b ∧
          first.mapM RuleSpec.compile = .ok a.rules ∧
          second.mapM RuleSpec.compile = .ok b.rules ∧
          ∀ host, SharesOut a.rules b.rules (Text.asciiLowered host) (joined.find? host)) ∧
    (∀ (extra : List RuleSpec) (joined : Registry), withShipped extra = .ok joined →
      ∃ shipped, withShipped [] = .ok shipped ∧
        ∀ host, (∃ rule ∈ shipped.rules, rule.names (Text.asciiLowered host) = true) →
          joined.find? host = shipped.find? host) := by
  constructor
  · intro first second joined h
    obtain ⟨a, b, ha, hb, hrules⟩ := exists_ofSpecs_of_append h
    exact ⟨a, b, ha, hb, (ofSpecs_eq_ok_iff.1 ha).1, (ofSpecs_eq_ok_iff.1 hb).1,
      sharesOut_of_append hrules⟩
  · intro extra joined h
    unfold withShipped at h ⊢
    rw [List.append_nil]
    obtain ⟨shipped, further, hshipped, _, hrules⟩ := exists_ofSpecs_of_append h
    refine ⟨shipped, hshipped, ?_⟩
    rintro host ⟨rule, hrule, hnamed⟩
    rw [find?_of_names hrule hnamed]
    exact (sharesOut_of_append hrules host).named rule hrule hnamed

def shops : RuleSpec :=
  { name := some "shops", patterns := ["shop"], kind := .noOp }

/-- A rule for one of these hosts. Its pattern does not count, for it names a host. -/
def shop : RuleSpec :=
  { name := some "shop", hostnames := [" Shop.example"], patterns := ["."], kind := .noOp }

theorem find?_shops :
    ((ofSpecs ([shops] ++ [shop])).toOption.any fun joined =>
      (joined.find? "SHOP.example").any (·.name == "shop") &&
        (joined.find? "my-shop.example").any (·.name == "shops") &&
        (joined.find? "other.example").isNone) = true := by
  decide +kernel

/-- A later rule takes the host that it names from an earlier pattern, and no other host. -/
theorem further_rules_are_conservative_shops :
    ∃ joined a b, ofSpecs ([shops] ++ [shop]) = .ok joined ∧
      ofSpecs [shops] = .ok a ∧ ofSpecs [shop] = .ok b ∧
      (SharesOut a.rules b.rules "shop.example" (joined.find? "SHOP.example") ∧
        (joined.find? "SHOP.example").any (·.name == "shop") = true) ∧
      (SharesOut a.rules b.rules "my-shop.example" (joined.find? "my-shop.example") ∧
        (joined.find? "my-shop.example").any (·.name == "shops") = true) ∧
      joined.find? "other.example" = none := by
  obtain ⟨joined, hok, hfound⟩ := exists_ok_of_any find?_shops
  simp only [Bool.and_eq_true, Option.isNone_iff_eq_none] at hfound
  obtain ⟨⟨hshop, hshops⟩, hother⟩ := hfound
  obtain ⟨a, b, ha, hb, _, _, hshared⟩ :=
    further_rules_are_conservative.1 [shops] [shop] joined hok
  have hlower : Text.asciiLowered "SHOP.example" = "shop.example" := by decide
  have hsame : Text.asciiLowered "my-shop.example" = "my-shop.example" := by decide
  refine ⟨joined, a, b, hok, ha, hb, ⟨?_, hshop⟩, ⟨?_, hshops⟩, hother⟩
  · rw [← hlower]
    exact hshared "SHOP.example"
  · have h := hshared "my-shop.example"
    rwa [hsame] at h

end Registry

end LinkHygiene
