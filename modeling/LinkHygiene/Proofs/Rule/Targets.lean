import LinkHygiene.Proofs.Results
import LinkHygiene.Proofs.Rule.Extension

/-!
# Targets of rules

A rule that is ready for use is for the hosts that it names or for those that its patterns
match. Whether it has any such target is asked of the host names as they are written, blank
ones among them, and these are left out afterwards. So a rule that is written with nothing
but blank host names gets through and is for no host at all; every other rule without a
target is turned away.
-/

namespace LinkHygiene

/-! ## What becomes of a written rule -/

theorem Text.asciiLowered_eq_empty_iff {s : String} : asciiLowered s = "" ↔ s = "" := by
  rw [asciiLowered, ← String.toList_inj, String.toList_ofList]
  simp

/-- Whether there is no host that a rule could be for. -/
def Rule.IsTargetless (r : Rule) : Prop :=
  r.hostnames = [] ∧ r.patterns = []

namespace RuleSpec

def hostForm (written : String) : String :=
  Text.asciiLowered (Text.trimmed written)

/-- Whether a rule has no pattern and no host name that is not blank. -/
def IsBlank (s : RuleSpec) : Prop :=
  s.patterns = [] ∧ ∀ written ∈ s.hostnames, Text.trimmed written = ""

/-- What a rule that is ready for use has of the written one. -/
structure Readies (s : RuleSpec) (r : Rule) : Prop where
  has_entries : s.hostnames ≠ [] ∨ s.patterns ≠ []
  name_eq : r.name = s.displayName
  hostnames_eq : r.hostnames = (s.hostnames.map hostForm).filter (!·.isEmpty)
  patterns_read : s.patterns.Forall₂ (fun text pattern => Pattern.ofText? text = some pattern)
    r.patterns

theorem readPattern_eq_ok_iff {rule text : String} {field : PatternField} {pattern : Pattern} :
    readPattern rule field text = .ok pattern ↔ Pattern.ofText? text = some pattern := by
  unfold readPattern
  cases Pattern.ofText? text <;> simp

/-- Whatever compiles has something to be for, as it is written. -/
theorem readies_of_compile {s : RuleSpec} {r : Rule} (h : s.compile = .ok r) : s.Readies r := by
  unfold compile at h
  dsimp only at h
  split at h
  · cases h
  · rename_i hentries
    obtain ⟨patterns, hpatterns, h⟩ := bind_eq_ok_iff.1 h
    obtain ⟨pathPattern, _, h⟩ := bind_eq_ok_iff.1 h
    obtain ⟨action, _, h⟩ := bind_eq_ok_iff.1 h
    obtain rfl := Except.ok.inj h
    refine ⟨?_, rfl, rfl, ?_⟩
    · rw [Bool.and_eq_true, List.isEmpty_iff, List.isEmpty_iff] at hentries
      exact Decidable.not_and_iff_not_or_not.1 hentries
    · exact (mapM_eq_ok_iff.1 hpatterns).imp fun _ _ => readPattern_eq_ok_iff.1

theorem Readies.isTargetless_iff {s : RuleSpec} {r : Rule} (h : s.Readies r) :
    r.IsTargetless ↔ s.IsBlank := by
  have hpatterns : r.patterns = [] ↔ s.patterns = [] := by
    rw [← List.length_eq_zero_iff, ← h.patterns_read.length_eq, List.length_eq_zero_iff]
  have hhostnames : r.hostnames = [] ↔
      ∀ written ∈ s.hostnames, Text.trimmed written = "" := by
    rw [h.hostnames_eq, List.filter_eq_nil_iff, List.forall_mem_map]
    simp [hostForm, Text.asciiLowered_eq_empty_iff]
  rw [Rule.IsTargetless, IsBlank, hpatterns, hhostnames, and_comm]

/-- The rule with a blank host name in the place of all its targets. -/
def blanked (s : RuleSpec) (blank : String) : RuleSpec :=
  { s with name := some s.displayName, hostnames := [blank], patterns := [] }

theorem compile_blanked {s : RuleSpec} {r : Rule} (h : s.compile = .ok r) {blank : String}
    (hblank : Text.trimmed blank = "") :
    (s.blanked blank).compile = .ok { r with hostnames := [], patterns := [] } := by
  unfold compile at h
  dsimp only at h
  split at h
  · cases h
  · obtain ⟨patterns, _, h⟩ := bind_eq_ok_iff.1 h
    obtain ⟨pathPattern, hpath, h⟩ := bind_eq_ok_iff.1 h
    obtain ⟨action, haction, h⟩ := bind_eq_ok_iff.1 h
    obtain rfl := Except.ok.inj h
    have hnone : normalHostnames [blank] = [] := by
      have hempty : Text.asciiLowered "" = "" := Text.asciiLowered_eq_empty_iff.2 rfl
      simp [normalHostnames, hblank, hempty]
    unfold compile
    dsimp only
    rw [if_neg (by simp [blanked])]
    refine bind_eq_ok_iff.2 ⟨[], rfl, bind_eq_ok_iff.2 ⟨pathPattern, hpath, ?_⟩⟩
    refine bind_eq_ok_iff.2 ⟨action, haction, ?_⟩
    simp only [blanked, hnone]
    rfl

/-! ## Who is turned away -/

section TurnedAway

variable {rule name : String}

theorem readPattern_ne_noTargets (field : PatternField) (text : String) :
    readPattern rule field text ≠ .error (.noTargets name) := by
  unfold readPattern
  cases Pattern.ofText? text <;> simp

theorem compilePolicy_ne_noTargets (policy : PolicySpec) :
    compilePolicy rule policy ≠ .error (.noTargets name) := by
  intro h
  rcases bind_eq_error_iff.1 h with hedits | ⟨edits, _, hpure⟩
  · obtain ⟨edit, _, hedit⟩ := exists_of_mapM_eq_error hedits
    rcases bind_eq_error_iff.1 hedit with hread | ⟨pattern, _, hpure⟩
    · exact readPattern_ne_noTargets _ _ hread
    · cases hpure
  · cases hpure

theorem compileKind_ne_noTargets (kind : KindSpec) :
    compileKind rule kind ≠ .error (.noTargets name) := by
  intro h
  cases kind with
  | noOp => cases h
  | hostReplace newHost policy =>
      rcases bind_eq_error_iff.1 h with hpolicy | ⟨_, _, hpure⟩
      · exact compilePolicy_ne_noTargets policy hpolicy
      · cases hpure
  | paramClean policy =>
      rcases bind_eq_error_iff.1 h with hpolicy | ⟨_, _, hpure⟩
      · exact compilePolicy_ne_noTargets policy hpolicy
      · cases hpure
  | paramExtract param =>
      simp only [compileKind] at h
      split at h <;> cases h
  | domExtract selector =>
      cases selector with
      | none => cases h
      | some text =>
          rcases bind_eq_error_iff.1 h with hread | ⟨_, _, hpure⟩
          · exact readPattern_ne_noTargets _ _ hread
          · cases hpure
  | getRedirect => cases h

end TurnedAway

/-- For want of a target those rules are turned away that have no entry at all. -/
theorem compile_eq_noTargets_iff {s : RuleSpec} {name : String} :
    s.compile = .error (.noTargets name) ↔
      s.hostnames = [] ∧ s.patterns = [] ∧ name = s.displayName := by
  unfold compile
  dsimp only
  split
  · rename_i hentries
    rw [Bool.and_eq_true, List.isEmpty_iff, List.isEmpty_iff] at hentries
    simp [hentries, eq_comm]
  · rename_i hentries
    constructor
    · intro h
      rcases bind_eq_error_iff.1 h with hpatterns | ⟨_, _, h⟩
      · obtain ⟨text, _, htext⟩ := exists_of_mapM_eq_error hpatterns
        exact absurd htext (readPattern_ne_noTargets _ _)
      · rcases bind_eq_error_iff.1 h with hpath | ⟨_, _, h⟩
        · split at hpath
          · cases hpath
          · rename_i text _
            cases hread : readPattern s.displayName .pathPattern text with
            | error e =>
                rw [hread] at hpath
                obtain rfl := Except.error.inj hpath
                exact absurd hread (readPattern_ne_noTargets _ _)
            | ok pattern =>
                rw [hread] at hpath
                cases hpath
        · rcases bind_eq_error_iff.1 h with hkind | ⟨_, _, hpure⟩
          · exact absurd hkind (compileKind_ne_noTargets _)
          · cases hpure
    · rintro ⟨hhostnames, hpatterns, _⟩
      simp [hhostnames, hpatterns] at hentries

end RuleSpec

namespace Registry

/-- What is found for a host has a target. -/
theorem not_isTargetless_of_find? {r : Registry} {host : String} {rule : Rule}
    (h : r.find? host = some rule) : ¬ rule.IsTargetless := by
  rintro ⟨hhostnames, hpatterns⟩
  rw [find?_eq, Option.or_eq_some_iff] at h
  rcases h with hnamed | ⟨_, hcaught⟩
  · have hnames := List.find?_some hnamed
    simp [Rule.names, hhostnames] at hnames
  · have hcatches := List.find?_some hcaught
    simp [Rule.catches, Rule.matchesHost, hpatterns] at hcatches

theorem forall₂_compile_of_ofSpecs {specs : List RuleSpec} {r : Registry}
    (h : ofSpecs specs = .ok r) :
    specs.Forall₂ (fun s rule => s.compile = .ok rule) r.rules :=
  mapM_eq_ok_iff.1 (ofSpecs_eq_ok_iff.1 h).1

/--
A rule that is ready for use lacks a target exactly when it is written with nothing but
blank host names, and with these any rule gets through: for want of a target those are turned
away that have no entry at all. So a registry holds rules without a target when it is made
of such, and it finds them for no host.
-/
theorem targetless_iff_blank (s : RuleSpec) (specs : List RuleSpec) :
    (∀ rule, s.compile = .ok rule →
      (rule.IsTargetless ↔ s.IsBlank) ∧
        ∀ blank, Text.trimmed blank = "" → (s.blanked blank).IsBlank ∧
          (s.blanked blank).compile = .ok { rule with hostnames := [], patterns := [] }) ∧
    (∀ name, s.compile = .error (.noTargets name) ↔
      s.hostnames = [] ∧ s.patterns = [] ∧ name = s.displayName) ∧
    ∀ r, ofSpecs specs = .ok r →
      ((∃ rule ∈ r.rules, rule.IsTargetless) ↔ ∃ written ∈ specs, written.IsBlank) ∧
        ∀ host rule, r.find? host = some rule → ¬ rule.IsTargetless := by
  refine ⟨?_, fun name => RuleSpec.compile_eq_noTargets_iff, ?_⟩
  · intro rule h
    refine ⟨(RuleSpec.readies_of_compile h).isTargetless_iff, fun blank hblank => ⟨?_, ?_⟩⟩
    · exact ⟨rfl, by simpa [RuleSpec.blanked] using hblank⟩
    · exact RuleSpec.compile_blanked h hblank
  · intro r h
    refine ⟨?_, fun host rule => not_isTargetless_of_find?⟩
    apply exists_mem_iff_of_forall₂ (forall₂_compile_of_ofSpecs h)
    intro written rule hcompile
    exact (RuleSpec.readies_of_compile hcompile).isTargetless_iff

def nowhere : RuleSpec :=
  { name := some "nowhere", hostnames := ["  "], kind := .noOp }

/--
A rule gets through with a blank host name in the place of its targets. With its own targets
it is found, also beside a rule that has none.
-/
theorem targetless_iff_blank_beside_shop :
    (∃ rule, shop.compile = .ok rule ∧
      (shop.blanked " ").compile = .ok { rule with hostnames := [], patterns := [] }) ∧
    ∃ r rule, ofSpecs [nowhere, shop] = .ok r ∧ (∃ lost ∈ r.rules, lost.IsTargetless) ∧
      r.find? "Shop.example" = some rule ∧ ¬ rule.IsTargetless := by
  obtain ⟨hcompiled, _, hregistry⟩ := targetless_iff_blank shop [nowhere, shop]
  constructor
  · have hready : (shop.compile).toOption.isSome = true := by decide +kernel
    obtain ⟨rule, hshop⟩ := exists_ok_of_isSome hready
    exact ⟨rule, hshop, ((hcompiled rule hshop).2 " " (by decide +kernel)).2⟩
  · have hfound : ((ofSpecs [nowhere, shop]).toOption.any fun r =>
        (r.find? "Shop.example").isSome) = true := by
      decide +kernel
    obtain ⟨r, hok, hsome⟩ := exists_ok_of_any hfound
    obtain ⟨rule, hrule⟩ := Option.isSome_iff_exists.1 hsome
    obtain ⟨hholds, hfinds⟩ := hregistry r hok
    have hblank : nowhere.IsBlank := ⟨rfl, by decide +kernel⟩
    exact ⟨r, rule, hok, hholds.2 ⟨nowhere, List.mem_cons_self, hblank⟩, hrule,
      hfinds "Shop.example" rule hrule⟩

/-- Blanks alone make a rule without a target, which is put into force and never found. -/
theorem nowhere_is_in_force :
    ∃ r rule, ofSpecs [nowhere] = .ok r ∧ nowhere.compile = .ok rule ∧ rule ∈ r.rules ∧
      rule.IsTargetless ∧ ∀ host, r.find? host = none := by
  let rule : Rule := ⟨"nowhere", [], [], none, .noOp⟩
  have hcompile : nowhere.compile = .ok rule := rfl
  obtain ⟨r, hbuild⟩ := exists_build_iff.2 (List.pairwise_singleton Rule.Apart rule)
  have hrules : r.rules = [rule] := rules_of_build hbuild
  refine ⟨r, rule, hbuild, hcompile, by simp [hrules], ⟨rfl, rfl⟩, ?_⟩
  intro host
  rw [find?_eq, hrules]
  rfl

end Registry

end LinkHygiene
