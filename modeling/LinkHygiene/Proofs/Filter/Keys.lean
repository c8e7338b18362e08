import LinkHygiene.Proofs.Filter.Coverage
import LinkHygiene.Proofs.Text.Lowercase
import LinkHygiene.Proofs.Text.Split

/-!
# The keys of a host, one by one

The keys under which the rules for a host are looked up depend on its labels only, and of
these only on the last four. They are listed from the longest end of the name to the
shortest, and a key that is written twice, as can be when a label is a star or reads like the
domain of all rules, stays where it is written first.
-/

namespace LinkHygiene

namespace Candidates

open Text (asciiLower asciiLowered)

/-! ## Keys that are written twice -/

theorem nodup_addNew {keys : List String} (h : keys.Nodup) (key : String) :
    (addNew keys key).Nodup := by
  unfold addNew
  split
  · exact h
  · rename_i hnew
    have hnot : key ∉ keys := fun hmem => hnew (List.contains_iff_mem.2 hmem)
    exact List.nodup_append.2 ⟨h, by simp, by simpa using fun a ha => ne_of_mem_of_not_mem ha hnot⟩

theorem nodup_foldl_addNew {keys : List String} (h : keys.Nodup) (news : List String) :
    (news.foldl addNew keys).Nodup := by
  induction news generalizing keys with
  | nil => exact h
  | cons new news ih => exact ih (nodup_addNew h new)

theorem addNew_eraseDups (keys : List String) (key : String) :
    addNew keys.eraseDups key = (keys ++ [key]).eraseDups := by
  unfold addNew
  rw [List.eraseDups_append]
  by_cases h : key ∈ keys <;> simp [h, List.removeAll, List.eraseDups_cons]

theorem foldl_addNew_eraseDups (keys news : List String) :
    news.foldl addNew keys.eraseDups = (keys ++ news).eraseDups := by
  induction news generalizing keys with
  | nil => simp
  | cons new news ih =>
      rw [List.foldl_cons, addNew_eraseDups, ih, List.append_assoc, List.singleton_append]

/-! ## Labels -/

theorem labels_eq (host : String) :
    labels host = ((host.toList.splitOn '.').filter (fun label => !label.isEmpty)).map
      (·.map asciiLower) := by
  have hdot (c : Char) : asciiLower c = '.' ↔ c = '.' := Text.asciiLower_eq_iff (by decide)
  rw [labels, Text.splitOn_map hdot, List.filter_map, Text.splitOn_eq]
  exact congrArg _ (List.filter_congr fun label _ => by simp)

theorem labels_append (front host : String) :
    labels (front ++ "." ++ host) = labels front ++ labels host := by
  have hlist : (front ++ "." ++ host).toList = front.toList ++ '.' :: host.toList := by simp
  simp only [labels, hlist, List.map_append, List.map_cons]
  exact (congrArg _ (Text.splitOn_append '.' _ _)).trans (List.filter_append _ _)

theorem labels_dots (count : Nat) : labels (String.ofList (List.replicate count '.')) = [] := by
  induction count with
  | zero => rfl
  | succ count ih =>
      have hsplit : String.ofList (List.replicate (count + 1) '.') =
          "" ++ "." ++ String.ofList (List.replicate count '.') := by
        simp [List.replicate_succ]
      rw [hsplit, labels_append, ih]
      rfl

theorem labels_append_dots (host : String) (count : Nat) :
    labels (host ++ String.ofList (List.replicate count '.')) = labels host := by
  cases count with
  | zero => simp
  | succ count =>
      have hsplit : host ++ String.ofList (List.replicate (count + 1) '.') =
          host ++ "." ++ String.ofList (List.replicate count '.') := by
        simp [← String.toList_inj, List.replicate_succ]
      rw [hsplit, labels_append, labels_dots, List.append_nil]

theorem labels_of_asciiLowered {host other : String} (h : asciiLowered other = asciiLowered host) :
    labels other = labels host := by
  have hlist : other.toList.map asciiLower = host.toList.map asciiLower := String.ofList_inj.1 h
  rw [labels, labels, hlist]

/-- Labels in front of four others do not count. -/
theorem lastLabels_append {host : String} (h : maxLabels ≤ (labels host).length)
    (front : String) : lastLabels (front ++ "." ++ host) = lastLabels host := by
  have hnone : (labels front).drop ((labels front).length + (labels host).length - maxLabels) = [] :=
    List.drop_eq_nil_of_le (by omega)
  have hrest : (labels front).length + (labels host).length - maxLabels - (labels front).length =
      (labels host).length - maxLabels := by
    omega
  simp only [lastLabels, labels_append, List.length_append, List.drop_append]
  rw [hnone, hrest, List.nil_append]

/-! ## Keys in order -/

theorem suffixKeys_lastLabels (host : String) :
    suffixKeys (lastLabels host) =
      (List.range' 1 (min maxLabels (labels host).length)).reverse.flatMap
        (endKeys (labels host)) := by
  have hends : ∀ count ∈ (List.range' 1 (lastLabels host).length).reverse,
      endKeys (lastLabels host) count = endKeys (labels host) count := by
    intro count hcount
    have hrange := List.mem_range'_1.1 (List.mem_reverse.1 hcount)
    have hle : count ≤ (lastLabels host).length := by omega
    simp only [endKeys, domain_drop_lastLabels hle, ending]
  rw [suffixKeys_eq, ← length_lastLabels, List.flatMap_def, List.map_congr_left hends,
    ← List.flatMap_def]

theorem ofHost_eq_eraseDups (host : String) :
    ofHost host =
      (globalDomain :: (List.range' 1 (min maxLabels (labels host).length)).reverse.flatMap
        (endKeys (labels host))).eraseDups := by
  rw [← suffixKeys_lastLabels]
  exact foldl_addNew_eraseDups [globalDomain] (suffixKeys (lastLabels host))

theorem ofHost_of_labels {host other : String} (h : labels other = labels host) :
    ofHost other = ofHost host := by
  rw [ofHost, ofHost, lastLabels, lastLabels, h]

/--
A host has no key twice and at most eight, the domain of the rules that hold everywhere first.
The others are the ends of one to four labels of its name, in lowercase and without empty
labels, and those of two labels or more behind a star as well; longer ends come before shorter
ones, and the end itself before that with the star, unless a key was written before. So neither
letter case nor dots at the end matter, nor do labels in front of four others.
-/
theorem ofHost_exactly (host : String) :
    let names := ((host.toList.splitOn '.').filter (fun label => !label.isEmpty)).map
      (fun label => label.map asciiLower)
    let suffix (count : Nat) : String :=
      String.ofList (['.'].intercalate (names.drop (names.length - count)))
    let longest := min 4 names.length
    (ofHost host).Nodup ∧ (ofHost host).length ≤ 8 ∧ (ofHost host).head? = some "global" ∧
      (∀ key, key ∈ ofHost host ↔
        key = "global" ∨ (∃ count, 1 ≤ count ∧ count ≤ longest ∧ key = suffix count) ∨
          ∃ count, 2 ≤ count ∧ count ≤ longest ∧ key = "*." ++ suffix count) ∧
      ofHost host = ("global" :: (List.range' 1 longest).reverse.flatMap fun count =>
        if 2 ≤ count then [suffix count, "*." ++ suffix count] else [suffix count]).eraseDups ∧
      (∀ other, asciiLowered other = asciiLowered host → ofHost other = ofHost host) ∧
      (∀ dots, ofHost (host ++ String.ofList (List.replicate dots '.')) = ofHost host) ∧
      (4 ≤ names.length → ∀ front, ofHost (front ++ "." ++ host) = ofHost host) := by
  intro names suffix longest
  have hnames : labels host = names := labels_eq host
  have hsuffix (count : Nat) : ending host count = suffix count := by
    rw [ending, domain, Text.joinWith_eq, hnames]
  have hkeys : endKeys (labels host) = fun count =>
      if 2 ≤ count then [suffix count, "*." ++ suffix count] else [suffix count] := by
    funext count
    rw [← hsuffix]
    rfl
  have horder := ofHost_eq_eraseDups host
  rw [hkeys, hnames] at horder
  refine ⟨?_, length_ofHost_le host, ?_, fun key => ?_, horder, ?_, ?_, ?_⟩
  · exact nodup_foldl_addNew (by simp) _
  · rw [horder, List.eraseDups_cons]
    rfl
  · rw [mem_ofHost_iff, Covers]
    apply or_congr_right
    simp only [hsuffix, hnames]
    constructor
    · rintro ⟨count, hpos, hmax, hle, hkey | ⟨htwo, hkey⟩⟩
      · exact .inl ⟨count, hpos, Nat.le_min.2 ⟨hmax, hle⟩, hkey⟩
      · exact .inr ⟨count, htwo, Nat.le_min.2 ⟨hmax, hle⟩, hkey⟩
    · rintro (⟨count, hpos, hle, hkey⟩ | ⟨count, htwo, hle, hkey⟩)
      · exact ⟨count, hpos, (Nat.le_min.1 hle).1, (Nat.le_min.1 hle).2, .inl hkey⟩
      · exact ⟨count, by omega, (Nat.le_min.1 hle).1, (Nat.le_min.1 hle).2, .inr ⟨htwo, hkey⟩⟩
  · exact fun other hother => ofHost_of_labels (labels_of_asciiLowered hother)
  · exact fun dots => ofHost_of_labels (labels_append_dots host dots)
  · intro hfour front
    have hcount : maxLabels ≤ (labels host).length := hnames ▸ hfour
    rw [ofHost, ofHost, lastLabels_append hcount front]

/-- With a star as a label, the end of four labels is the key of three behind a star. -/
theorem ofHost_exactly_star :
    let host := "*.a.Shop.example"
    let keys := ["global", "*.a.shop.example", "*.*.a.shop.example", "a.shop.example",
      "shop.example", "*.shop.example", "example"]
    ofHost host = keys ∧ ofHost "*.A.shop.Example" = keys ∧ ofHost "*.a.Shop.example.." = keys ∧
      4 ≤ (host.toList.splitOn '.').length ∧ ofHost "www..x.*.a.Shop.example" = keys := by
  intro host keys
  have hkeys : ofHost host = keys := by decide +kernel
  have hcase : asciiLowered "*.A.shop.Example" = asciiLowered host := by decide +kernel
  obtain ⟨_, _, _, _, _, hlower, hdots, hfront⟩ := ofHost_exactly host
  refine ⟨hkeys, ?_, ?_, by decide +kernel, ?_⟩
  · rw [hlower _ hcase, hkeys]
  · exact (hdots 2).trans hkeys
  · exact (hfront (by decide +kernel) "www..x").trans hkeys

end Candidates

end LinkHygiene
