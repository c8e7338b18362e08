import Mathlib.Data.List.Nodup
import LinkHygiene.Proofs.Results
import LinkHygiene.Proofs.Text.Utf8Order
import LinkHygiene.Rule.Compile

/-!
# Names of parameters

A rule that is ready for use looks up new names and listed names by lowercase. Old names that
coincide then are put in one after the other in their order, so the greatest of them counts,
and neither the letter case of a parameter nor the order in which a rule was written matters.
-/

namespace LinkHygiene

/-! ## Entries in the order of their names -/

section Order

variable {entry e : String × String} {entries sorted : List (String × String)}

def OrderedByName (entries : List (String × String)) : Prop :=
  entries.Pairwise fun a b => a.1 < b.1

theorem mem_insertByName (h : e ∈ insertByName entry entries) : e = entry ∨ e ∈ entries := by
  induction entries with
  | nil => exact .inl (List.mem_singleton.1 h)
  | cons first rest ih =>
      unfold insertByName at h
      split_ifs at h
      · exact List.mem_cons.1 h
      · exact (List.mem_cons.1 h).imp_right (List.mem_cons_of_mem first)
      · rcases List.mem_cons.1 h with rfl | hrest
        · exact .inr List.mem_cons_self
        · exact (ih hrest).imp_right (List.mem_cons_of_mem first)

theorem orderedByName_insertByName (h : OrderedByName entries) (entry : String × String) :
    OrderedByName (insertByName entry entries) := by
  induction entries with
  | nil => exact List.pairwise_singleton _ _
  | cons first rest ih =>
      obtain ⟨hfirst, hrest⟩ := List.pairwise_cons.1 h
      unfold insertByName
      split_ifs with hless heq
      · refine List.pairwise_cons.2 ⟨fun e he => ?_, h⟩
        rcases List.mem_cons.1 he with rfl | he
        · exact hless
        · exact lt_trans hless (hfirst e he)
      · refine List.pairwise_cons.2 ⟨fun e he => ?_, hrest⟩
        rw [heq]
        exact hfirst e he
      · refine List.pairwise_cons.2 ⟨fun e he => ?_, ih hrest⟩
        rcases mem_insertByName he with rfl | he
        · exact lt_of_le_of_ne (not_lt.1 hless) (Ne.symm heq)
        · exact hfirst e he

theorem insertByName_perm (hnew : entry.1 ∉ entries.map Prod.fst) :
    (insertByName entry entries).Perm (entry :: entries) := by
  induction entries with
  | nil => exact .refl _
  | cons first rest ih =>
      rw [List.map_cons, List.mem_cons, not_or] at hnew
      unfold insertByName
      rw [if_neg hnew.1]
      split
      · exact .refl _
      · exact ((ih hnew.2).cons first).trans (.swap entry first rest)

theorem orderedByName_foldl (h : OrderedByName sorted) (entries : List (String × String)) :
    OrderedByName (entries.foldl (fun sorted entry => insertByName entry sorted) sorted) := by
  induction entries generalizing sorted with
  | nil => exact h
  | cons entry rest ih => exact ih (orderedByName_insertByName h entry)

theorem foldl_insertByName_perm (h : ((entries ++ sorted).map Prod.fst).Nodup) :
    (entries.foldl (fun sorted entry => insertByName entry sorted) sorted).Perm
      (entries ++ sorted) := by
  induction entries generalizing sorted with
  | nil => exact .refl _
  | cons entry rest ih =>
      have hnew : entry.1 ∉ sorted.map Prod.fst := by
        rw [List.cons_append, List.map_cons, List.nodup_cons, List.map_append] at h
        exact fun hmem => h.1 (List.mem_append_right _ hmem)
      have hinsert : (rest ++ insertByName entry sorted).Perm (entry :: rest ++ sorted) :=
        ((insertByName_perm hnew).append_left rest).trans List.perm_middle
      exact (ih ((hinsert.map Prod.fst).nodup_iff.2 h)).trans hinsert

theorem orderedByName_sortByName (entries : List (String × String)) :
    OrderedByName (sortByName entries) :=
  orderedByName_foldl List.Pairwise.nil entries

theorem sortByName_perm (h : (entries.map Prod.fst).Nodup) :
    (sortByName entries).Perm entries := by
  have hnone : ((entries ++ []).map Prod.fst).Nodup := by rwa [List.append_nil]
  have hperm := foldl_insertByName_perm hnone
  rwa [List.append_nil] at hperm

theorem OrderedByName.nodup (h : OrderedByName entries) : (entries.map Prod.fst).Nodup :=
  List.pairwise_map.2 (h.imp fun hless => ne_of_lt hless)

/-- A table of new names has each old name once, however it is written. -/
theorem PolicySpec.nodup_of_ofFields? {fields : List (String × Datum)} {spec : PolicySpec}
    (h : ofFields? fields = some spec) : (spec.renames.map Prod.fst).Nodup := by
  obtain ⟨pathEdits, _, h⟩ := Option.bind_eq_some_iff.1 h
  obtain ⟨renames, _, h⟩ := Option.bind_eq_some_iff.1 h
  obtain ⟨keep, _, h⟩ := Option.bind_eq_some_iff.1 h
  obtain rfl := Option.some.inj h
  exact (orderedByName_sortByName renames).nodup

/-- The last of some entries in order is the greatest. -/
theorem OrderedByName.le_of_find?_reverse (h : OrderedByName entries) {p : String × String → Bool}
    (hlast : entries.reverse.find? p = some entry) (he : e ∈ entries) (hp : p e = true) :
    e.1 ≤ entry.1 := by
  obtain ⟨_, later, earlier, hsplit, hlater⟩ := List.find?_eq_some_iff_append.1 hlast
  have hreverse : (later ++ entry :: earlier).Pairwise fun a b => b.1 < a.1 := by
    rw [← hsplit]
    exact List.pairwise_reverse.2 h
  have hmem : e ∈ later ++ entry :: earlier := by
    rw [← hsplit]
    exact List.mem_reverse.2 he
  rcases List.mem_append.1 hmem with hmem | hmem
  · have hnot := hlater e hmem
    rw [hp] at hnot
    cases hnot
  · rcases List.mem_cons.1 hmem with rfl | hmem
    · exact le_rfl
    · have hrest := (List.pairwise_append.1 hreverse).2.1
      exact le_of_lt ((List.pairwise_cons.1 hrest).1 e hmem)

end Order

/-! ## New names -/

namespace RuleSpec

variable {renames : List (String × String)} {key name : String}

theorem find?_setName (old new key : String) (renames : List (String × String)) :
    (setName old new renames).find? (·.1 == key) =
      if old = key then some (old, new) else renames.find? (·.1 == key) := by
  induction renames with
  | nil =>
      rw [setName, List.find?_singleton]
      simp only [beq_iff_eq, List.find?_nil]
  | cons entry rest ih =>
      unfold setName
      by_cases hsame : entry.1 = old
      · rw [if_pos hsame, List.find?_cons, List.find?_cons, hsame]
        by_cases hkey : old = key
        · rw [if_pos hkey, beq_iff_eq.2 hkey]
        · rw [if_neg hkey, beq_false_of_ne hkey]
      · rw [if_neg hsame, List.find?_cons, List.find?_cons, ih]
        by_cases hkey : old = key
        · have hother : entry.1 ≠ key := hkey ▸ hsame
          rw [beq_false_of_ne hother, if_pos hkey]
        · rw [if_neg hkey, if_neg hkey]

theorem find?_foldl_setName (lower : String) (entries map : List (String × String)) :
    (entries.foldl (fun map (old, new) => setName (Text.lowered old) new map) map).find?
        (·.1 == lower) =
      ((entries.reverse.find? fun e => Text.lowered e.1 == lower).map fun e => (lower, e.2)).or
        (map.find? (·.1 == lower)) := by
  induction entries generalizing map with
  | nil => rfl
  | cons entry rest ih =>
      show (rest.foldl _ (setName (Text.lowered entry.1) entry.2 map)).find? _ = _
      rw [ih, find?_setName, List.reverse_cons, List.find?_append, List.find?_singleton,
        Option.map_or, Option.or_assoc]
      by_cases hlower : Text.lowered entry.1 = lower
      · rw [if_pos hlower, if_pos (beq_iff_eq.2 hlower), hlower]
        rfl
      · rw [if_neg hlower, if_neg (fun h => hlower (beq_iff_eq.1 h))]
        rfl

theorem find?_lowerRenames (lower : String) (renames : List (String × String)) :
    (lowerRenames renames).find? (·.1 == lower) =
      ((sortByName renames).reverse.find? fun e => Text.lowered e.1 == lower).map
        fun e => (lower, e.2) := by
  rw [lowerRenames, find?_foldl_setName, List.find?_nil, Option.or_none]

/--
The name under which a parameter goes on with a table of new names. Of the old names that
differ from its own in letter case at most, the one with the greatest bytes counts.
-/
inductive GoesOnAs (renames : List (String × String)) (key : String) : String → Prop
  | renamed {old new : String} (listed : (old, new) ∈ renames)
      (same : Text.lowered old = Text.lowered key)
      (greatest : ∀ other ∈ renames, Text.lowered other.1 = Text.lowered key →
        Utf8.encode other.1.toList ≤ Utf8.encode old.toList) : GoesOnAs renames key new
  | own (unlisted : ∀ other ∈ renames, Text.lowered other.1 ≠ Text.lowered key) :
      GoesOnAs renames key key

theorem goesOnAs_effectiveKey {p : Policy} (hp : p.renames = lowerRenames renames)
    (hmap : (renames.map Prod.fst).Nodup) (key : String) :
    GoesOnAs renames key (p.effectiveKey key) := by
  have hmem {e : String × String} : e ∈ sortByName renames ↔ e ∈ renames :=
    (sortByName_perm hmap).mem_iff
  unfold Policy.effectiveKey
  rw [hp, find?_lowerRenames]
  cases hlast : (sortByName renames).reverse.find? fun e =>
      Text.lowered e.1 == Text.lowered key with
  | none =>
      refine .own fun other hother hsame => ?_
      have hnot := List.find?_eq_none.1 hlast other (List.mem_reverse.2 (hmem.2 hother))
      exact hnot (beq_iff_eq.2 hsame)
  | some entry =>
      have hentry : entry ∈ sortByName renames :=
        List.mem_reverse.1 (List.mem_of_find?_eq_some hlast)
      have hsame := List.find?_some hlast
      refine .renamed (hmem.1 hentry) (beq_iff_eq.1 hsame) fun other hother hsame => ?_
      rw [Utf8.encode_toList_le_iff]
      exact (orderedByName_sortByName renames).le_of_find?_reverse hlast (hmem.2 hother)
        (beq_iff_eq.2 hsame)

theorem GoesOnAs.unique {name' : String} (hmap : (renames.map Prod.fst).Nodup)
    (h : GoesOnAs renames key name) (h' : GoesOnAs renames key name') : name = name' := by
  cases h with
  | @renamed old _ listed same greatest =>
      cases h' with
      | @renamed old' _ listed' same' greatest' =>
          have hle : old ≤ old' :=
            Utf8.encode_toList_le_iff.1 (greatest' (old, name) listed same)
          have hge : old' ≤ old :=
            Utf8.encode_toList_le_iff.1 (greatest (old', name') listed' same')
          have hentry : (old, name) = (old', name') :=
            List.inj_on_of_nodup_map hmap listed listed' (le_antisymm hle hge)
          exact congrArg Prod.snd hentry
      | own unlisted => exact absurd same (unlisted (old, name) listed)
  | own unlisted =>
      cases h' with
      | @renamed old _ listed same _ => exact absurd same (unlisted (old, name') listed)
      | own _ => rfl

theorem GoesOnAs.of_perm {renames' : List (String × String)} (hperm : renames.Perm renames')
    (h : GoesOnAs renames key name) : GoesOnAs renames' key name := by
  cases h with
  | renamed listed same greatest =>
      exact .renamed (hperm.mem_iff.1 listed) same
        fun other hother => greatest other (hperm.mem_iff.2 hother)
  | own unlisted => exact .own fun other hother => unlisted other (hperm.mem_iff.2 hother)

/-! ## Parameters that stay -/

/-- Whether a written policy lets a name stay; `unlisted` decides when there is no list. -/
def Keeps (spec : PolicySpec) (unlisted : Bool) (name : String) : Prop :=
  match spec.keep with
  | none => unlisted = true
  | some names => Text.lowered name ∈ names.map Text.lowered

/--
Two written policies have the same new names and list the same parameters, in whatever order,
and the listed ones in whatever letter case.
-/
structure SameNames (spec spec' : PolicySpec) : Prop where
  renames : spec.renames.Perm spec'.renames
  keep : Option.Rel (fun names names' => ∀ lower,
    lower ∈ names.map Text.lowered ↔ lower ∈ names'.map Text.lowered) spec.keep spec'.keep

section Policies

variable {rule : String} {spec spec' : PolicySpec} {policy : Policy}

theorem SameNames.keeps_iff (h : SameNames spec spec') (unlisted : Bool) (name : String) :
    Keeps spec unlisted name ↔ Keeps spec' unlisted name := by
  obtain ⟨_, _, keep⟩ := spec
  obtain ⟨_, _, keep'⟩ := spec'
  have hkeep : Option.Rel _ keep keep' := h.keep
  cases hkeep with
  | none => exact Iff.rfl
  | some hnames => exact hnames _

/-- What a policy that is ready for use has of the written one. -/
theorem of_compilePolicy (h : compilePolicy rule spec = .ok policy) :
    policy.renames = lowerRenames spec.renames ∧
      policy.keep = spec.keep.map fun names => names.map Text.lowered := by
  obtain ⟨pathEdits, _, h⟩ := bind_eq_ok_iff.1 h
  obtain rfl := Except.ok.inj h
  exact ⟨rfl, rfl⟩

theorem effectiveKey_eq_iff (h : compilePolicy rule spec = .ok policy)
    (hmap : (spec.renames.map Prod.fst).Nodup) {key name : String} :
    policy.effectiveKey key = name ↔ GoesOnAs spec.renames key name := by
  have hgoes := goesOnAs_effectiveKey (of_compilePolicy h).1 hmap key
  constructor
  · rintro rfl
    exact hgoes
  · exact hgoes.unique hmap

theorem retains_iff (h : compilePolicy rule spec = .ok policy) {unlisted : Bool} {name : String} :
    policy.retains name unlisted = true ↔ Keeps spec unlisted name := by
  unfold Policy.retains Keeps
  rw [(of_compilePolicy h).2]
  cases spec.keep with
  | none => exact Iff.rfl
  | some names => exact List.contains_iff_mem

/-- Parameters that differ in letter case at most have a new name together or none. -/
theorem effectiveKey_cases (h : compilePolicy rule spec = .ok policy)
    (hmap : (spec.renames.map Prod.fst).Nodup) {key key' : String}
    (hlower : Text.lowered key = Text.lowered key') :
    (∃ old ∈ spec.renames.map Prod.fst, Text.lowered old = Text.lowered key) ∧
        policy.effectiveKey key = policy.effectiveKey key' ∨
      (∀ old ∈ spec.renames.map Prod.fst, Text.lowered old ≠ Text.lowered key) ∧
        policy.effectiveKey key = key ∧ policy.effectiveKey key' = key' := by
  obtain ⟨name, hname⟩ : ∃ name, policy.effectiveKey key = name := ⟨_, rfl⟩
  rw [hname]
  cases (effectiveKey_eq_iff h hmap).1 hname with
  | @renamed old _ listed same greatest =>
      have hgoes : GoesOnAs spec.renames key' name :=
        .renamed listed (same.trans hlower) (by rwa [← hlower])
      exact .inl ⟨⟨old, List.mem_map_of_mem listed, same⟩,
        ((effectiveKey_eq_iff h hmap).2 hgoes).symm⟩
  | own unlisted =>
      have hgoes : GoesOnAs spec.renames key' key' := .own (by rwa [← hlower])
      refine .inr ⟨fun old hold => ?_, rfl, (effectiveKey_eq_iff h hmap).2 hgoes⟩
      obtain ⟨entry, hentry, rfl⟩ := List.mem_map.1 hold
      exact unlisted entry hentry

theorem retains_congr {name name' : String} (hlower : Text.lowered name = Text.lowered name')
    (policy : Policy) (unlisted : Bool) :
    policy.retains name unlisted = policy.retains name' unlisted := by
  unfold Policy.retains
  rw [hlower]

/--
What a policy does with a parameter is settled by the name in lowercase, if its table of new
names has each old name once. The greatest old name that coincides with it then gives the new
name; without one the parameter keeps its spelling. So parameters that differ in letter case at
most go on under one new name or both under their own, and both stay or neither does. The order
in which new names and parameters are listed, and the letter case in which parameters are, do
not matter.
-/
theorem policy_by_lowercase (h : compilePolicy rule spec = .ok policy)
    (hmap : (spec.renames.map Prod.fst).Nodup) :
    (∀ key name, policy.effectiveKey key = name ↔ GoesOnAs spec.renames key name) ∧
      (∀ unlisted name, policy.retains name unlisted = true ↔ Keeps spec unlisted name) ∧
      (∀ key key', Text.lowered key = Text.lowered key' →
        ((∃ old ∈ spec.renames.map Prod.fst, Text.lowered old = Text.lowered key) ∧
            policy.effectiveKey key = policy.effectiveKey key' ∨
          (∀ old ∈ spec.renames.map Prod.fst, Text.lowered old ≠ Text.lowered key) ∧
            policy.effectiveKey key = key ∧ policy.effectiveKey key' = key') ∧
        ∀ unlisted, policy.retains (policy.effectiveKey key) unlisted =
          policy.retains (policy.effectiveKey key') unlisted) ∧
      ∀ rule' spec' policy', compilePolicy rule' spec' = .ok policy' → SameNames spec spec' →
        (∀ key, policy'.effectiveKey key = policy.effectiveKey key) ∧
          ∀ unlisted name, policy'.retains name unlisted = policy.retains name unlisted := by
  refine ⟨fun _ _ => effectiveKey_eq_iff h hmap, fun _ _ => retains_iff h, ?_, ?_⟩
  · intro key key' hlower
    have hcases := effectiveKey_cases h hmap hlower
    refine ⟨hcases, fun unlisted => ?_⟩
    rcases hcases with ⟨_, hname⟩ | ⟨_, hkey, hkey'⟩
    · rw [hname]
    · rw [hkey, hkey']
      exact retains_congr hlower policy unlisted
  · intro rule' spec' policy' h' hsame
    have hmap' : (spec'.renames.map Prod.fst).Nodup :=
      (hsame.renames.map Prod.fst).nodup_iff.1 hmap
    refine ⟨fun key => ?_, fun unlisted name => ?_⟩
    · rw [effectiveKey_eq_iff h' hmap']
      exact ((effectiveKey_eq_iff h hmap).1 rfl).of_perm hsame.renames
    · rw [Bool.eq_iff_iff, retains_iff h', retains_iff h]
      exact (hsame.keeps_iff unlisted name).symm

/-- Of three spellings of a name the one with small letters has the greatest bytes. -/
theorem policy_by_lowercase_spellings :
    let spec : PolicySpec :=
      { renames := [("ID", "a"), ("id", "b"), ("Id", "c")], keep := some ["B", "x"] }
    let turned : PolicySpec :=
      { renames := [("id", "b"), ("Id", "c"), ("ID", "a")], keep := some ["X", "b"] }
    ∃ policy other, compilePolicy "r" spec = .ok policy ∧ compilePolicy "r" turned = .ok other ∧
      (spec.renames.map Prod.fst).Nodup ∧ SameNames spec turned ∧
      policy.effectiveKey "iD" = "b" ∧ policy.effectiveKey "Id" = "b" ∧
      policy.retains "b" false = true ∧ other.effectiveKey "iD" = "b" := by
  intro spec turned
  have hcompile : ∃ policy, compilePolicy "r" spec = .ok policy := ⟨_, rfl⟩
  have hturned : ∃ other, compilePolicy "r" turned = .ok other := ⟨_, rfl⟩
  obtain ⟨policy, hpolicy⟩ := hcompile
  obtain ⟨other, hother⟩ := hturned
  have hmap : (spec.renames.map Prod.fst).Nodup := by decide
  have hsame : SameNames spec turned := by
    have hspec : ["B", "x"].map Text.lowered = ["b", "x"] := by decide +kernel
    have hother : ["X", "b"].map Text.lowered = ["x", "b"] := by decide +kernel
    refine ⟨by decide, .some fun lower => ?_⟩
    rw [hspec, hother, List.mem_pair, List.mem_pair]
    exact or_comm
  obtain ⟨hnames, hkeeps, hcase, horder⟩ := policy_by_lowercase hpolicy hmap
  have hname : policy.effectiveKey "iD" = "b" := by
    have hlisted : ("id", "b") ∈ spec.renames := by decide
    refine (hnames "iD" "b").2 (.renamed hlisted ?_ ?_)
    all_goals decide +kernel
  have hlower : Text.lowered "iD" = Text.lowered "Id" := by decide +kernel
  refine ⟨policy, other, hpolicy, hother, hmap, hsame, hname, ?_, ?_, ?_⟩
  · rcases (hcase "iD" "Id" hlower).1 with ⟨_, hkeys⟩ | ⟨hnone, _⟩
    · rw [← hkeys, hname]
    · exact absurd hlower.symm (hnone "Id" (by decide))
  · refine (hkeeps false "b").2 ?_
    show Text.lowered "b" ∈ ["B", "x"].map Text.lowered
    decide +kernel
  · rw [(horder "r" turned other hother hsame).1, hname]

end Policies

end RuleSpec

end LinkHygiene
