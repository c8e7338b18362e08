import LinkHygiene.Filter.Line
import LinkHygiene.Proofs.Filter.Coverage
import LinkHygiene.Proofs.Store.Replacement
import LinkHygiene.Proofs.Text.Lowercase
import LinkHygiene.Proofs.Text.Split

/-!
# Which domains are found

A host is looked up in lowercase, and domains are compared letter by letter. The domain of a
target is put into lowercase when a line is read, those of a list of domains are kept as they
are written. So the rules for a domain that is written with a capital letter in such a list
are never found, not even for the host of that very name, and all other rules for the name of
a host are.
-/

namespace LinkHygiene

namespace Text

/-! ## Fields -/

theorem mem_of_mem_splitFrom {separator : Char} {field s out : List Char}
    (h : out ∈ splitFrom separator field s) : ∀ c ∈ out, c ∈ field ∨ c ∈ s := by
  induction s generalizing field with
  | nil =>
      obtain rfl : out = field.reverse := by simpa [splitFrom] using h
      intro c hc
      exact .inl (List.mem_reverse.1 hc)
  | cons d s ih =>
      intro c hc
      unfold splitFrom at h
      split at h
      · rcases List.mem_cons.1 h with rfl | h
        · exact .inl (List.mem_reverse.1 hc)
        · rcases ih h c hc with hnil | hs
          · cases hnil
          · exact .inr (List.mem_cons_of_mem d hs)
      · rcases ih h c hc with hfield | hs
        · rcases List.mem_cons.1 hfield with rfl | hfield
          · exact .inr List.mem_cons_self
          · exact .inl hfield
        · exact .inr (List.mem_cons_of_mem d hs)

theorem mem_of_mem_splitOn {separator : Char} {field s : List Char}
    (h : field ∈ splitOn separator s) {c : Char} (hc : c ∈ field) : c ∈ s := by
  rcases mem_of_mem_splitFrom h c hc with hnil | hs
  · cases hnil
  · exact hs

theorem map_joinWith (f : Char → Char) (separator : List Char) (fields : List (List Char)) :
    (joinWith separator fields).map f = joinWith (separator.map f) (fields.map (·.map f)) := by
  induction fields with
  | nil => rfl
  | cons field rest ih =>
      cases rest with
      | nil => rfl
      | cons next rest =>
          simp only [joinWith, List.map_cons, List.map_append] at ih ⊢
          rw [ih]

end Text

namespace Candidates

open Text (asciiLower asciiLowered joinWith)

/-! ## Keys are in lowercase -/

theorem asciiLower_of_mem_labels {host : String} {label : List Char} (h : label ∈ labels host)
    {c : Char} (hc : c ∈ label) : asciiLower c = c := by
  have hmem := Text.mem_of_mem_splitOn (List.mem_filter.1 h).1 hc
  obtain ⟨d, _, rfl⟩ := List.mem_map.1 hmem
  exact Text.asciiLower_asciiLower d

theorem asciiLower_of_mem_ending {host : String} {count : Nat} {c : Char}
    (h : c ∈ (ending host count).toList) : asciiLower c = c := by
  rw [ending, domain, String.toList_ofList] at h
  rcases Text.mem_joinWith h with hdot | ⟨label, hlabel, hc⟩
  · obtain rfl := List.mem_singleton.1 hdot
    rfl
  · exact asciiLower_of_mem_labels (List.mem_of_mem_drop hlabel) hc

/-- The keys of a host are in lowercase, however the host is written. -/
theorem asciiLowered_of_mem_ofHost {key host : String} (h : key ∈ ofHost host) :
    asciiLowered key = key := by
  rcases mem_ofHost_iff.1 h with rfl | ⟨count, _, _, _, rfl | ⟨_, rfl⟩⟩
  · decide
  · exact Text.asciiLowered_eq_self_iff.2 fun c => asciiLower_of_mem_ending
  · refine Text.asciiLowered_eq_self_iff.2 fun c hc => ?_
    rw [wildcard, String.toList_append, List.mem_append] at hc
    rcases hc with hwild | hending
    · rcases List.mem_cons.1 hwild with rfl | hdot
      · rfl
      · obtain rfl := List.mem_singleton.1 hdot
        rfl
    · exact asciiLower_of_mem_ending hending

/-! ## Names of hosts -/

def IsLabel (label : List Char) : Prop :=
  label ≠ [] ∧ ∀ c ∈ label, c.isAlphanum = true ∨ c = '-'

instance (label : List Char) : Decidable (IsLabel label) :=
  -- The characters of the label are checked, not all characters that there are.
  have : Decidable (∀ c ∈ label, c.isAlphanum = true ∨ c = '-') := List.decidableBAll _ _
  inferInstanceAs (Decidable (_ ∧ _))

/-- Whether a domain is the name of a host, of one to four labels. -/
def IsShortName (domain : String) : Prop :=
  ∃ names : List (List Char), 1 ≤ names.length ∧ names.length ≤ 4 ∧
    (∀ label ∈ names, IsLabel label) ∧ domain.toList = joinWith ['.'] names

theorem IsLabel.dot_not_mem {label : List Char} (h : IsLabel label) :
    '.' ∉ label.map asciiLower := by
  intro hmem
  obtain ⟨c, hc, hlower⟩ := List.mem_map.1 hmem
  obtain rfl := Text.eq_of_asciiLower_eq (by decide) hlower
  exact absurd (h.2 '.' hc) (by decide)

theorem labels_of_isLabel {host domain : String} {names : List (List Char)}
    (hne : names ≠ []) (hlabels : ∀ label ∈ names, IsLabel label)
    (hname : domain.toList = joinWith ['.'] names)
    (hhost : asciiLowered host = asciiLowered domain) :
    labels host = names.map (·.map asciiLower) := by
  have hmap : host.toList.map asciiLower = domain.toList.map asciiLower :=
    String.ofList_inj.1 hhost
  have hdots : ['.'].map asciiLower = ['.'] := by decide
  rw [labels, hmap, hname, Text.map_joinWith, hdots, Text.splitOn_joinWith]
  · rw [List.filter_eq_self, List.forall_mem_map]
    intro label hlabel
    simpa using (hlabels label hlabel).1
  · simpa using hne
  · rw [List.forall_mem_map]
    exact fun label hlabel => (hlabels label hlabel).dot_not_mem

/-- A host is looked up under its own name, in lowercase. -/
theorem asciiLowered_mem_ofHost {host domain : String} (h : IsShortName domain)
    (hhost : asciiLowered host = asciiLowered domain) : asciiLowered domain ∈ ofHost host := by
  obtain ⟨names, hpos, hle, hlabels, hname⟩ := h
  have hlabelsHost := labels_of_isLabel (List.length_pos_iff.1 hpos) hlabels hname hhost
  have hlength : (labels host).length = names.length := by rw [hlabelsHost, List.length_map]
  have hdots : ['.'].map asciiLower = ['.'] := by decide
  refine mem_ofHost_iff.2 (.inr ⟨names.length, hpos, hle, Nat.le_of_eq hlength.symm, .inl ?_⟩)
  rw [ending, hlength, Nat.sub_self, List.drop_zero, hlabelsHost, Candidates.domain,
    asciiLowered, hname, Text.map_joinWith, hdots]

theorem mem_ofHost_iff_asciiLowered {host domain : String} (h : IsShortName domain)
    (hhost : asciiLowered host = asciiLowered domain) :
    domain ∈ ofHost host ↔ asciiLowered domain = domain := by
  constructor
  · exact asciiLowered_of_mem_ofHost
  · intro hlower
    have hmem := asciiLowered_mem_ofHost h hhost
    rwa [hlower] at hmem

end Candidates

namespace FilterLine

open Candidates (IsShortName ofHost)
open Text (asciiLowered)

/-! ## Where domains come from -/

def domainOption? (line : List Char) : Option (List Char) :=
  match Text.cut? removeSign (splitEffect (Text.trim line)).2 with
  | none => none
  | some (_, modifiers) => domainList? (splitModifiers modifiers).tail

/-- Whether a domain is an entry of the list of domains of a line, letter by letter. -/
def ListsDomain (line : List Char) (domain : String) : Prop :=
  ∃ list, domainOption? line = some list ∧ ∃ entry ∈ Text.splitOn '|' list,
    Text.trim entry = domain.toList ∨ Text.trim entry = '~' :: domain.toList

theorem asciiLowered_domainOf (domain : List Char) :
    asciiLowered (domainOf domain) = domainOf domain := by
  unfold domainOf
  split
  · decide
  · rw [Text.asciiLowered_eq_self_iff, String.toList_ofList, List.forall_mem_map]
    exact fun c _ => Text.asciiLower_asciiLower c

theorem domain_of_entryRule? {rule r : TrackingRule} {entry : List Char}
    (h : entryRule? rule entry = some r) :
    entry = r.domain.toList ∨ entry = '~' :: r.domain.toList := by
  unfold entryRule? at h
  split at h
  · cases h
  · cases h
  · obtain rfl := Option.some.inj h
    simp
  · obtain rfl := Option.some.inj h
    simp

theorem lowercase_or_listed {line : List Char} {r : TrackingRule} (h : r ∈ parse line) :
    asciiLowered r.domain = r.domain ∨ ListsDomain line r.domain := by
  unfold parse at h
  dsimp only at h
  split at h
  · cases h
  · split at h
    · cases h
    · rename_i target modifiers hcut
      unfold rulesOf at h
      dsimp only at h
      split at h
      · split at h
        · rename_i list hlist
          obtain ⟨entry, hentry, hrule⟩ := List.mem_filterMap.1 h
          obtain ⟨written, hwritten, rfl⟩ := List.mem_map.1 hentry
          refine .inr ⟨list, ?_, written, hwritten, domain_of_entryRule? hrule⟩
          simp only [domainOption?, hcut, hlist]
        · obtain rfl := List.mem_singleton.1 h
          exact .inl (asciiLowered_domainOf _)
      · cases h

/-! ## Which rules are found -/

/--
A rule for the name of a host is found for this host, in whatever case the host is written,
exactly when its domain is in lowercase; a store that holds it gives it out or not
accordingly. It fails to be in lowercase only where it comes from a list of domains, in
which it is written like that.
-/
theorem found_iff_lowercase {line : List Char} {r : TrackingRule} (hr : r ∈ parse line)
    (hname : IsShortName r.domain) :
    (∀ host, asciiLowered host = asciiLowered r.domain →
      (r.domain ∈ ofHost host ↔ asciiLowered r.domain = r.domain) ∧
        ∀ (s : Store) (rows : List Row), s.table = some rows → Row.ofRule r ∈ rows →
          ∃ found, s.find (ofHost host) = .ok found ∧
            (r ∈ found ↔ asciiLowered r.domain = r.domain)) ∧
    (asciiLowered r.domain ≠ r.domain → ListsDomain line r.domain) := by
  refine ⟨?_, fun hcapital => (lowercase_or_listed hr).resolve_left hcapital⟩
  intro host hhost
  have hkey := Candidates.mem_ofHost_iff_asciiLowered hname hhost
  refine ⟨hkey, fun s rows htable hrow => ?_⟩
  have hlength : (ofHost host).length ≤ Store.maxBindings :=
    Nat.le_trans (Candidates.length_ofHost_le host) (by decide)
  refine ⟨_, Store.find_of_table htable (Candidates.ofHost_isEmpty host) hlength, ?_⟩
  rw [← hkey, List.mem_map]
  constructor
  · rintro ⟨row, hmem, rfl⟩
    exact List.contains_iff_mem.1 (List.mem_filter.1 hmem).2
  · intro hmem
    refine ⟨Row.ofRule r, List.mem_filter.2 ⟨hrow, ?_⟩, Row.rule_ofRule r⟩
    exact List.contains_iff_mem.2 hmem

/-- Of two rules of a line, the one for a domain in lowercase is found. -/
theorem found_iff_lowercase_listed :
    let line := "$removeparam=id,domain=a.example|~B.example".toList
    let found : TrackingRule := ⟨"a.example", none, "id", .remove, false⟩
    let lost : TrackingRule := ⟨"B.example", none, "id", .allow, false⟩
    parse line = [found, lost] ∧ found.domain ∈ ofHost "A.Example" ∧
      lost.domain ∉ ofHost "b.example" ∧ ListsDomain line lost.domain := by
  intro line found lost
  have hparse : parse line = [found, lost] := by decide +kernel
  have hfound : IsShortName found.domain :=
    ⟨["a".toList, "example".toList], by decide +kernel, by decide +kernel, by decide +kernel,
      by decide +kernel⟩
  have hlost : IsShortName lost.domain :=
    ⟨["B".toList, "example".toList], by decide +kernel, by decide +kernel, by decide +kernel,
      by decide +kernel⟩
  have hcapital : asciiLowered lost.domain ≠ lost.domain := by decide +kernel
  have hmemFound : found ∈ parse line := by simp [hparse]
  have hmemLost : lost ∈ parse line := by simp [hparse]
  obtain ⟨hlookup, _⟩ := found_iff_lowercase hmemFound hfound
  obtain ⟨hmissed, hlisted⟩ := found_iff_lowercase hmemLost hlost
  refine ⟨hparse, ?_, ?_, hlisted hcapital⟩
  · exact (hlookup "A.Example" (by decide +kernel)).1.2 (by decide +kernel)
  · exact fun hmem => hcapital ((hmissed "b.example" (by decide +kernel)).1.1 hmem)

/-- A rule for a domain with a capital letter is not found for the host of that name. -/
theorem capital_in_list_is_not_found :
    ∃ r ∈ parse "$removeparam=id,domain=Example.com".toList,
      IsShortName r.domain ∧ r.domain ∉ ofHost "Example.com" ∧
        r.domain ∉ ofHost "example.com" := by
  refine ⟨⟨"Example.com", none, "id", .remove, false⟩, by decide +kernel, ?_, by decide +kernel,
    by decide +kernel⟩
  exact ⟨["Example".toList, "com".toList], by decide +kernel, by decide +kernel,
    by decide +kernel, by decide +kernel⟩

end FilterLine

end LinkHygiene
